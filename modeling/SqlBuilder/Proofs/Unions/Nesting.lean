import SqlBuilder.Proofs.Unions.Grammar
import SqlBuilder.Statement.Select

/-!
# Unions as set operations

The lexemes that a selection with unions is written in, its core and what stands
behind its unions being one lexeme each. They are read as `Select.setQuery`, in
which every member of a union is a query of its own (`Select.reads`), and the
builder calls that such a query stands for make the selection again
(`Select.select_setQuery`).
-/

namespace SqlBuilder

open SetOperation (Trailing Query)

variable {σ : Type}

/-- A lexeme of a selection. A core is a selection without unions, order, limit and
offset. -/
abbrev SetLexeme (σ : Type) := SetOperation.Lexeme (Select σ) (List (OrderElement σ)) (Expression σ)

abbrev SetQuery (σ : Type) := Query (Select σ) (List (OrderElement σ)) (Expression σ)

namespace Select

/-- Everything from SELECT to HAVING. -/
def core (s : Select σ) : Select σ :=
  { s with unions := [], ordering := [], rowLimit := none, rowOffset := none }

def trailing (s : Select σ) : Trailing (List (OrderElement σ)) (Expression σ) where
  order := if s.ordering.isEmpty then none else some s.ordering
  limit := s.rowLimit
  offset := s.rowOffset

theorem order_trailing (s : Select σ) : s.trailing.order.getD [] = s.ordering := by
  unfold trailing
  cases s.ordering <;> rfl

end Select

/-- Lexemes in parentheses, if need be. -/
def SetLexeme.enclose (parentheses : Bool) (ts : List (SetLexeme σ)) : List (SetLexeme σ) :=
  if parentheses then .opening :: (ts ++ [.closing]) else ts

mutual

/-- The lexemes of a selection by itself. -/
def Select.setLexemes : Select σ → List (SetLexeme σ)
  | s@{ unions, .. } => .core s.core :: UnionMember.setLexemes unions ++ s.trailing.lexemes

def UnionMember.setLexemes : List (UnionMember σ) → List (SetLexeme σ)
  | [] => []
  | ⟨keepsDuplicates, select⟩ :: rest =>
      .union keepsDuplicates :: SetLexeme.enclose select.needsParentheses select.setLexemes
        ++ UnionMember.setLexemes rest

end

mutual

/-- The nesting of a selection: its core, united with each of its members in turn,
and behind that its own order, limit and offset. -/
def Select.setQuery : Select σ → SetQuery σ
  | s@{ unions, .. } => (UnionMember.unite (.core s.core) unions).trail s.trailing

/-- A chain goes on with some members. -/
def UnionMember.unite (chain : SetQuery σ) : List (UnionMember σ) → SetQuery σ
  | [] => chain
  | ⟨keepsDuplicates, select⟩ :: rest =>
      UnionMember.unite (.union keepsDuplicates chain select.setQuery) rest

end

/-! ## The lexemes are read as the nesting -/

/-- Without parentheses of its own, a selection is its core. -/
theorem Select.setLexemes_of_not_needsParentheses {s : Select σ}
    (h : s.needsParentheses = false) :
    s.setLexemes = [.core s.core] ∧ s.setQuery = .core s.core := by
  obtain ⟨_, _, _, _, _, _, _, unions, ordering, rowLimit, rowOffset⟩ := s
  simp only [needsParentheses, Bool.or_eq_false_iff, Bool.not_eq_false', List.isEmpty_iff,
    Option.isSome_eq_false_iff, Option.isNone_iff_eq_none] at h
  obtain ⟨⟨⟨rfl, rfl⟩, rfl⟩, rfl⟩ := h
  exact ⟨rfl, rfl⟩

mutual

theorem Select.reads : ∀ s : Select σ,
    SetOperation.Reads .query s.setLexemes s.setQuery
  | ⟨_, _, _, _, _, _, _, unions, _, _, _⟩ => by
      rw [Select.setLexemes, Select.setQuery, ← List.singleton_append]
      exact .trail _ (UnionMember.reads unions (.member (.core _)))

theorem UnionMember.reads : ∀ (members : List (UnionMember σ)) {ts : List (SetLexeme σ)}
    {chain : SetQuery σ}, SetOperation.Reads .chain ts chain →
      SetOperation.Reads .chain (ts ++ UnionMember.setLexemes members)
        (UnionMember.unite chain members)
  | [], ts, chain, h => by
      rw [UnionMember.setLexemes, List.append_nil]
      exact h
  | ⟨keepsDuplicates, select⟩ :: rest, ts, chain, h => by
      have hmember : SetOperation.Reads .member
          (SetLexeme.enclose select.needsParentheses select.setLexemes) select.setQuery := by
        have hselect := select.reads
        cases hparentheses : select.needsParentheses with
        | true => exact .parenthesized hselect
        | false =>
            obtain ⟨hlexemes, hquery⟩ := Select.setLexemes_of_not_needsParentheses hparentheses
            rw [hlexemes, hquery]
            exact .core _
      rw [UnionMember.setLexemes, UnionMember.unite, ← List.append_assoc]
      exact UnionMember.reads rest (.union keepsDuplicates h hmember)

end

/-! ## The nesting is the selection -/

/-- The selection that a query makes, by the calls of a builder. -/
def SetOperation.Query.select : SetQuery σ → Select σ
  | .core c => c
  | .union false left right => left.select.union right.select
  | .union true left right => left.select.unionAll right.select
  | .trailed q t =>
      { q.select with ordering := t.order.getD [], rowLimit := t.limit, rowOffset := t.offset }

theorem SetOperation.Query.select_trail {q : SetQuery σ} {s : Select σ}
    (h : q.select = { s with ordering := [], rowLimit := none, rowOffset := none })
    (t : Trailing (List (OrderElement σ)) (Expression σ)) :
    (q.trail t).select
      = { s with ordering := t.order.getD [], rowLimit := t.limit, rowOffset := t.offset } := by
  obtain ⟨order, limit, offset⟩ := t
  cases order <;> cases limit <;> cases offset <;> simp [trail, select, h]

mutual

theorem Select.select_setQuery : ∀ s : Select σ, s.setQuery.select = s
  | ⟨isDistinct, outputs, sources, joins, restriction, grouping, groupRestriction, unions,
      ordering, rowLimit, rowOffset⟩ => by
      let s : Select σ := ⟨isDistinct, outputs, sources, joins, restriction, grouping,
        groupRestriction, unions, ordering, rowLimit, rowOffset⟩
      have hchain : (UnionMember.unite (.core s.core) unions).select
          = { s with ordering := [], rowLimit := none, rowOffset := none } :=
        UnionMember.select_unite unions (.core s.core)
      rw [Select.setQuery]
      refine (Query.select_trail hchain s.trailing).trans ?_
      rw [Select.order_trailing]
      rfl

theorem UnionMember.select_unite : ∀ (members : List (UnionMember σ)) (chain : SetQuery σ),
    (UnionMember.unite chain members).select
      = { chain.select with unions := chain.select.unions ++ members }
  | [], chain => by
      rw [UnionMember.unite]
      cases chain.select
      simp
  | ⟨keepsDuplicates, select⟩ :: rest, chain => by
      have hselect := select.select_setQuery
      rw [UnionMember.unite, UnionMember.select_unite rest]
      cases keepsDuplicates with
      | false => simp [Query.select, Select.union, hselect]
      | true => simp [Query.select, Select.unionAll, hselect]

end

end SqlBuilder
