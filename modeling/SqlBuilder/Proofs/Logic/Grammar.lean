import Mathlib.Logic.Function.Iterate

/-!
# Boolean conditions of SQL

The grammar by which SQL reads a condition, over atoms of any type: NOT binds
closer than AND, AND closer than OR, both connectives associate to the left,
and parentheses come first. A sequence of lexemes has one reading at most
(`Reads.unique`), because a reader that goes through it once, with a stack of
what is open, finds every reading (`Reads.read_eq`).

What a reading means is a truth value of three: an atom may be unknown.
-/

namespace SqlBuilder

/-! ## Truth values -/

inductive Truth where
  | yes
  | no
  | unknown
deriving DecidableEq

namespace Truth

def not : Truth → Truth
  | .yes => .no
  | .no => .yes
  | .unknown => .unknown

def and : Truth → Truth → Truth
  | .no, _ => .no
  | .yes, b => b
  | .unknown, .no => .no
  | .unknown, _ => .unknown

def or : Truth → Truth → Truth
  | .yes, _ => .yes
  | .no, b => b
  | .unknown, .yes => .yes
  | .unknown, _ => .unknown

theorem and_assoc (a b c : Truth) : (a.and b).and c = a.and (b.and c) := by
  cases a <;> cases b <;> cases c <;> rfl

theorem or_assoc (a b c : Truth) : (a.or b).or c = a.or (b.or c) := by
  cases a <;> cases b <;> cases c <;> rfl

end Truth

/-! ## Lexemes and formulas -/

variable {α β : Type}

inductive Lexeme (α : Type) where
  | atom (a : α)
  | and
  | or
  | not
  | opening
  | closing
deriving DecidableEq

def Lexeme.map (f : α → β) : Lexeme α → Lexeme β
  | .atom a => .atom (f a)
  | .and => .and
  | .or => .or
  | .not => .not
  | .opening => .opening
  | .closing => .closing

inductive Formula (α : Type) where
  | atom (a : α)
  | not (f : Formula α)
  | and (f g : Formula α)
  | or (f g : Formula α)

def Formula.eval (truth : α → Truth) : Formula α → Truth
  | .atom a => truth a
  | .not f => (f.eval truth).not
  | .and f g => (f.eval truth).and (g.eval truth)
  | .or f g => (f.eval truth).or (g.eval truth)

/-! ## The grammar -/

/-- What binds how closely. -/
inductive Level where
  | factor
  | conjunction
  | disjunction

/-- The lexemes can be read as the formula at a level of the grammar. -/
inductive Reads : Level → List (Lexeme α) → Formula α → Prop where
  | atom (a : α) : Reads .factor [.atom a] (.atom a)
  | parenthesized {ts : List (Lexeme α)} {f : Formula α} :
      Reads .disjunction ts f → Reads .factor (.opening :: (ts ++ [.closing])) f
  | not {ts : List (Lexeme α)} {f : Formula α} :
      Reads .factor ts f → Reads .factor (.not :: ts) (.not f)
  | factor {ts : List (Lexeme α)} {f : Formula α} :
      Reads .factor ts f → Reads .conjunction ts f
  | and {ts us : List (Lexeme α)} {f g : Formula α} :
      Reads .conjunction ts f → Reads .factor us g →
        Reads .conjunction (ts ++ .and :: us) (.and f g)
  | conjunction {ts : List (Lexeme α)} {f : Formula α} :
      Reads .conjunction ts f → Reads .disjunction ts f
  | or {ts us : List (Lexeme α)} {f g : Formula α} :
      Reads .disjunction ts f → Reads .conjunction us g →
        Reads .disjunction (ts ++ .or :: us) (.or f g)

/-! ## The reader -/

/-- What has been read between two parentheses: the alternatives before the
last OR, the conjunction since then, and how many NOTs have no factor yet. -/
structure Pending (α : Type) where
  alternatives : Option (Formula α) := none
  conjunction : Option (Formula α) := none
  negations : Nat := 0

namespace Pending

/-- Takes a factor, and the negations in front of it. -/
def take (p : Pending α) (f : Formula α) : Formula α :=
  match p.conjunction with
  | none => Formula.not^[p.negations] f
  | some c => .and c (Formula.not^[p.negations] f)

end Pending

/-- The alternatives so far, with one more. -/
def Formula.orElse (alternatives : Option (Formula α)) (f : Formula α) : Formula α :=
  match alternatives with
  | none => f
  | some d => .or d f

/-- A reader waits for a factor or has read one; it keeps what is pending
outside of every open parenthesis, the innermost first. -/
inductive Reader (α : Type) where
  | waiting (inside : Pending α) (outside : List (Pending α))
  | holding (alternatives : Option (Formula α)) (conjunction : Formula α)
      (outside : List (Pending α))

namespace Reader

def step : Reader α → Lexeme α → Option (Reader α)
  | .waiting p outside, .atom a => some (.holding p.alternatives (p.take (.atom a)) outside)
  | .waiting p outside, .not =>
      some (.waiting { p with negations := p.negations + 1 } outside)
  | .waiting p outside, .opening => some (.waiting {} (p :: outside))
  | .holding d c outside, .and => some (.waiting { alternatives := d, conjunction := c } outside)
  | .holding d c outside, .or => some (.waiting { alternatives := Formula.orElse d c } outside)
  | .holding d c (p :: outside), .closing =>
      some (.holding p.alternatives (p.take (Formula.orElse d c)) outside)
  | _, _ => none

def run (r : Reader α) (ts : List (Lexeme α)) : Option (Reader α) := ts.foldlM step r

def finish : Reader α → Option (Formula α)
  | .holding d c [] => some (Formula.orElse d c)
  | _ => none

theorem run_append (r : Reader α) (ts us : List (Lexeme α)) :
    r.run (ts ++ us) = (r.run ts).bind (·.run us) := List.foldlM_append ..

end Reader

/-- Reads a condition. -/
def readCondition (ts : List (Lexeme α)) : Option (Formula α) :=
  (Reader.run (.waiting {} []) ts).bind Reader.finish

/-! ## Every reading is found -/

namespace Reads

/-- Where a reader stands after what is read at a level. A factor is taken as
it comes; a conjunction or a disjunction is one from its start. -/
def Lands (l : Level) (ts : List (Lexeme α)) (f : Formula α) : Prop :=
  match l with
  | .factor => ∀ p outside, Reader.run (.waiting p outside) ts
      = some (.holding p.alternatives (p.take f) outside)
  | .conjunction => ∀ d outside, Reader.run (.waiting { alternatives := d } outside) ts
      = some (.holding d f outside)
  | .disjunction => ∀ outside, ∃ d c, Reader.run (.waiting {} outside) ts
      = some (.holding d c outside) ∧ Formula.orElse d c = f

theorem lands {l : Level} {ts : List (Lexeme α)} {f : Formula α} (h : Reads l ts f) :
    Lands l ts f := by
  induction h with
  | atom a => exact fun p outside => rfl
  | parenthesized _ ih =>
      intro p outside
      obtain ⟨d, c, hrun, rfl⟩ := ih (p :: outside)
      show (Reader.run (.waiting {} (p :: outside)) _) = _
      rw [Reader.run_append, hrun]
      rfl
  | not _ ih =>
      intro p outside
      refine (ih { p with negations := p.negations + 1 } outside).trans ?_
      unfold Pending.take
      cases p.conjunction <;> rw [Function.iterate_succ_apply]
  | factor _ ih => exact fun d outside => ih { alternatives := d } outside
  | and _ _ ihf ihg =>
      intro d outside
      rw [Reader.run_append, ihf d outside]
      exact ihg { alternatives := d, conjunction := some _ } outside
  | conjunction _ ih => exact fun outside => ⟨none, _, ih none outside, rfl⟩
  | or _ _ ihf ihg =>
      intro outside
      obtain ⟨d, c, hrun, rfl⟩ := ihf outside
      refine ⟨some (Formula.orElse d c), _, ?_, rfl⟩
      rw [Reader.run_append, hrun]
      exact ihg (some (Formula.orElse d c)) outside

theorem read_eq {ts : List (Lexeme α)} {f : Formula α} (h : Reads .disjunction ts f) :
    readCondition ts = some f := by
  obtain ⟨d, c, hrun, rfl⟩ := h.lands []
  rw [readCondition, hrun]
  rfl

theorem unique {ts : List (Lexeme α)} {f g : Formula α} (hf : Reads .disjunction ts f)
    (hg : Reads .disjunction ts g) : f = g := by
  have hread := hf.read_eq.symm.trans hg.read_eq
  exact Option.some.inj hread

end Reads

example : readCondition [.atom 1, .or, .not, .atom 2, .and, .atom 3]
    = some (.or (.atom 1) (.and (.not (.atom 2)) (.atom 3))) := by rfl

end SqlBuilder
