import SqlBuilder.Render

/-!
# What rendering encounters

The walk of a rendering, without its text: the values that can be parameters
and the subqueries that have no root, in the order in which they are visited.
A node's leaves come first, then its token, then its children; a subquery is
entered where it stands.

The walk goes on behind a failure; rendering does not. So what is collected
are the parameters in front of the first failure (`Encounter.parameters`), and
the failure that is told is the first one (`Encounter.failure?`).
-/

namespace SqlBuilder

inductive Encounter where
  /-- A value that can be a parameter. -/
  | parameter (v : Value)
  /-- A statement whose tree has no root. -/
  | failure (e : BuilderError)

namespace Encounter

/-- A value is met as a parameter unless it is null. -/
def ofValue (v : Value) : List Encounter := if v.isPreparable then [.parameter v] else []

/-- The parameters in front of the first failure. -/
def parameters : List Encounter → List Value
  | [] => []
  | .parameter v :: rest => v :: parameters rest
  | .failure _ :: _ => []

/-- The first failure. -/
def failure? : List Encounter → Option BuilderError
  | [] => none
  | .parameter _ :: rest => failure? rest
  | .failure e :: _ => some e

theorem failure?_append (xs ys : List Encounter) :
    failure? (xs ++ ys) = (failure? xs).or (failure? ys) := by
  induction xs with
  | nil => rfl
  | cons x rest ih =>
      cases x with
      | parameter v => exact ih
      | failure e => rfl

theorem failure?_append_eq_none {xs ys : List Encounter} :
    failure? (xs ++ ys) = none ↔ failure? xs = none ∧ failure? ys = none := by
  rw [failure?_append, Option.or_eq_none_iff]

theorem parameters_append {xs : List Encounter} (h : failure? xs = none)
    (ys : List Encounter) : parameters (xs ++ ys) = parameters xs ++ parameters ys := by
  induction xs with
  | nil => rfl
  | cons x rest ih =>
      cases x with
      | parameter v => exact congrArg (v :: ·) (ih h)
      | failure e => cases h

theorem parameters_append_of_failure {xs : List Encounter} {e : BuilderError}
    (h : failure? xs = some e) (ys : List Encounter) :
    parameters (xs ++ ys) = parameters xs := by
  induction xs with
  | nil => cases h
  | cons x rest ih =>
      cases x with
      | parameter v => exact congrArg (v :: ·) (ih h)
      | failure e => rfl

end Encounter

/-! ## The walk -/

mutual

def Assembled.encounters : Assembled → List Encounter
  | .complete _ root => root.encounters
  | .failed _ e => [.failure e]

def Node.encounters : Node Assembled → List Encounter
  | ⟨⟨token, _, _, _⟩, leaves, children, _⟩ =>
      Token.encountersAll leaves ++ Token.encountersOption token ++ Node.encountersAll children

def Node.encountersAll : List (Node Assembled) → List Encounter
  | [] => []
  | node :: rest => node.encounters ++ Node.encountersAll rest

def Token.encountersOption : Option (Token Assembled) → List Encounter
  | none => []
  | some token => token.encounters

def Token.encounters : Token Assembled → List Encounter
  | .keyword _ => []
  | .operator _ => []
  | .expression e => e.encounters

def Token.encountersAll : List (Token Assembled) → List Encounter
  | [] => []
  | token :: rest => token.encounters ++ Token.encountersAll rest

def Expression.encounters : Expression Assembled → List Encounter
  | .text _ _ _ => []
  | .value v _ => Encounter.ofValue v
  | .list elements _ => Expression.encountersAll elements
  | .array elements _ => Expression.encountersAll elements
  | .call _ arguments _ => Expression.encountersAll arguments
  | .nested statement _ => statement.encounters

def Expression.encountersAll : List (Expression Assembled) → List Encounter
  | [] => []
  | e :: rest => e.encounters ++ Expression.encountersAll rest

end

end SqlBuilder
