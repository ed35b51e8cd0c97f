/-!
# Set operations of SQL

The grammar by which SQL reads selections that are united. A member is a core,
which is everything from SELECT to HAVING, or a query in parentheses. UNION and
UNION ALL bind alike and associate to the left, so that members make up a chain;
an order, a limit and an offset behind a chain belong to the whole of it. Cores,
orders and bounds may be of any types.

Lexemes have one reading at most (`Reads.unique`): a reader that goes through
them once, with a stack of what stands outside of every open parenthesis, finds
every reading (`Reads.read_eq`).
-/

namespace SqlBuilder

namespace SetOperation

variable {α ω ε : Type}

/-- What stands behind a chain: an order, a limit and an offset, each of which may
be left out. -/
structure Trailing (ω ε : Type) where
  order : Option ω := none
  limit : Option ε := none
  offset : Option ε := none

inductive Lexeme (α ω ε : Type) where
  | core (c : α)
  | union (keepsDuplicates : Bool)
  | orderBy (o : ω)
  | limit (e : ε)
  | offset (e : ε)
  | opening
  | closing

def Trailing.lexemes (t : Trailing ω ε) : List (Lexeme α ω ε) :=
  t.order.toList.map .orderBy ++ t.limit.toList.map .limit ++ t.offset.toList.map .offset

inductive Query (α ω ε : Type) where
  | core (c : α)
  | union (keepsDuplicates : Bool) (left right : Query α ω ε)
  | trailed (q : Query α ω ε) (t : Trailing ω ε)

/-- A chain with what stands behind it, if anything does. -/
def Query.trail (q : Query α ω ε) : Trailing ω ε → Query α ω ε
  | ⟨none, none, none⟩ => q
  | t => .trailed q t

/-! ## The grammar -/

inductive Level where
  | member
  | chain
  | query

/-- The lexemes can be read as the query at a level of the grammar. -/
inductive Reads : Level → List (Lexeme α ω ε) → Query α ω ε → Prop where
  | core (c : α) : Reads .member [.core c] (.core c)
  | parenthesized {ts : List (Lexeme α ω ε)} {q : Query α ω ε} :
      Reads .query ts q → Reads .member (.opening :: (ts ++ [.closing])) q
  | member {ts : List (Lexeme α ω ε)} {q : Query α ω ε} :
      Reads .member ts q → Reads .chain ts q
  | union (keepsDuplicates : Bool) {ts us : List (Lexeme α ω ε)} {q r : Query α ω ε} :
      Reads .chain ts q → Reads .member us r →
        Reads .chain (ts ++ .union keepsDuplicates :: us) (.union keepsDuplicates q r)
  | trail {ts : List (Lexeme α ω ε)} {q : Query α ω ε} (t : Trailing ω ε) :
      Reads .chain ts q → Reads .query (ts ++ t.lexemes) (q.trail t)

/-! ## The reader -/

/-- The chain so far, with the operation that waits for its right side. -/
abbrev Left (α ω ε : Type) := Option (Query α ω ε × Bool)

/-- A member at the end of a chain. -/
def Left.take (left : Left α ω ε) (q : Query α ω ε) : Query α ω ε :=
  match left with
  | none => q
  | some (chain, keepsDuplicates) => .union keepsDuplicates chain q

/-- A reader waits for a member, or holds a chain with what has been read behind
it; it keeps what stands outside of every open parenthesis, the innermost first. -/
inductive Reader (α ω ε : Type) where
  | waiting (left : Left α ω ε) (outside : List (Left α ω ε))
  | holding (chain : Query α ω ε) (behind : Trailing ω ε) (outside : List (Left α ω ε))

namespace Reader

def step : Reader α ω ε → Lexeme α ω ε → Option (Reader α ω ε)
  | .waiting left outside, .core c => some (.holding (left.take (.core c)) {} outside)
  | .waiting left outside, .opening => some (.waiting none (left :: outside))
  | .holding q ⟨none, none, none⟩ outside, .union keepsDuplicates =>
      some (.waiting (some (q, keepsDuplicates)) outside)
  | .holding q ⟨none, none, none⟩ outside, .orderBy o =>
      some (.holding q ⟨some o, none, none⟩ outside)
  | .holding q ⟨order, none, none⟩ outside, .limit e =>
      some (.holding q ⟨order, some e, none⟩ outside)
  | .holding q ⟨order, limit, none⟩ outside, .offset e =>
      some (.holding q ⟨order, limit, some e⟩ outside)
  | .holding q t (left :: outside), .closing => some (.holding (left.take (q.trail t)) {} outside)
  | _, _ => none

def run (r : Reader α ω ε) (ts : List (Lexeme α ω ε)) : Option (Reader α ω ε) := ts.foldlM step r

def finish : Reader α ω ε → Option (Query α ω ε)
  | .holding q t [] => some (q.trail t)
  | _ => none

theorem run_append (r : Reader α ω ε) (ts us : List (Lexeme α ω ε)) :
    r.run (ts ++ us) = (r.run ts).bind (·.run us) := List.foldlM_append ..

/-- Behind a chain, a reader takes what belongs to the whole of it. -/
theorem run_trailing (q : Query α ω ε) (outside : List (Left α ω ε)) (t : Trailing ω ε) :
    run (.holding q {} outside) t.lexemes = some (.holding q t outside) := by
  obtain ⟨order, limit, offset⟩ := t
  cases order <;> cases limit <;> cases offset <;> rfl

theorem run_closing (q : Query α ω ε) (t : Trailing ω ε) (left : Left α ω ε)
    (outside : List (Left α ω ε)) :
    run (.holding q t (left :: outside)) [.closing]
      = some (.holding (left.take (q.trail t)) {} outside) := by
  obtain ⟨order, limit, offset⟩ := t
  cases order <;> cases limit <;> cases offset <;> rfl

end Reader

/-- Reads a query. -/
def readQuery (ts : List (Lexeme α ω ε)) : Option (Query α ω ε) :=
  (Reader.run (.waiting none []) ts).bind Reader.finish

/-! ## Every reading is found -/

namespace Reads

/-- Where a reader stands after what is read at a level. A member is taken as it
comes; a chain or a query is one from its start. -/
def Lands (l : Level) (ts : List (Lexeme α ω ε)) (q : Query α ω ε) : Prop :=
  match l with
  | .member => ∀ left outside, Reader.run (.waiting left outside) ts
      = some (.holding (left.take q) {} outside)
  | .chain => ∀ outside, Reader.run (.waiting none outside) ts = some (.holding q {} outside)
  | .query => ∀ outside, ∃ chain t, Reader.run (.waiting none outside) ts
      = some (.holding chain t outside) ∧ chain.trail t = q

theorem lands {l : Level} {ts : List (Lexeme α ω ε)} {q : Query α ω ε} (h : Reads l ts q) :
    Lands l ts q := by
  induction h with
  | core c => exact fun left outside => rfl
  | parenthesized _ ih =>
      intro left outside
      obtain ⟨chain, t, hrun, rfl⟩ := ih (left :: outside)
      show Reader.run (.waiting none (left :: outside)) _ = _
      rw [Reader.run_append, hrun]
      exact Reader.run_closing chain t left outside
  | member _ ih => exact fun outside => ih none outside
  | union keepsDuplicates _ _ ihq ihr =>
      intro outside
      rw [Reader.run_append, ihq outside]
      exact ihr (some (_, keepsDuplicates)) outside
  | trail t _ ih =>
      intro outside
      refine ⟨_, t, ?_, rfl⟩
      rw [Reader.run_append, ih outside]
      exact Reader.run_trailing _ outside t

theorem read_eq {ts : List (Lexeme α ω ε)} {q : Query α ω ε} (h : Reads .query ts q) :
    readQuery ts = some q := by
  obtain ⟨chain, t, hrun, rfl⟩ := h.lands []
  rw [readQuery, hrun]
  rfl

theorem unique {ts : List (Lexeme α ω ε)} {q r : Query α ω ε} (hq : Reads .query ts q)
    (hr : Reads .query ts r) : q = r := by
  have hread := hq.read_eq.symm.trans hr.read_eq
  exact Option.some.inj hread

end Reads

example : (readQuery [.core 1, .union false, .opening, .core 2, .union true, .core 3, .closing,
      .limit 5] : Option (Query Nat Nat Nat))
    = some (.trailed (.union false (.core 1) (.union true (.core 2) (.core 3)))
        { limit := some 5 }) := by rfl

end SetOperation

end SqlBuilder
