import SqlBuilder.Statement.Clause

/-!
# WITH

Named statements in front of another one. A named statement is a subquery
with a tree of its own; the body is assembled in place, so it shares the
tree with the names in front of it.
-/

namespace SqlBuilder

variable {σ : Type}

/-- A named statement, with names for its columns if there are any. -/
structure CommonTableExpression (σ : Type) where
  name : String
  columns : List String := []
  statement : σ

namespace CommonTableExpression

def withColumns (c : CommonTableExpression σ) (columns : List String) :
    CommonTableExpression σ :=
  { c with columns }

/-- The name in front of the statement, with the columns behind it. -/
def header (c : CommonTableExpression σ) : Expression σ :=
  if c.columns.isEmpty then .raw c.name else .call c.name (c.columns.map .raw)

def script (c : CommonTableExpression σ) : Script σ :=
  Predicate.operation Keyword.as [c.header, .nested c.statement]

end CommonTableExpression

structure With (σ : Type) where
  isRecursive : Bool := false
  expressions : List (CommonTableExpression σ) := []
  content : Option (Script σ) := none

namespace With

/-- Lets the named statements refer to themselves. -/
def recursively (w : With σ) : With σ := { w with isRecursive := true }

def expression (w : With σ) (c : CommonTableExpression σ) : With σ :=
  { w with expressions := w.expressions ++ [c] }

def named (w : With σ) (name : String) (statement : σ) : With σ :=
  w.expression { name, statement }

def body {α : Type} [Assemble α σ] (w : With σ) (statement : α) : With σ :=
  { w with content := some (Assemble.script statement) }

/-- The steps of the named statements; nothing without any. -/
def expressionScript (w : With σ) : Script σ :=
  if w.expressions.isEmpty then []
  else
    Clause.joined (if w.isRecursive then Keyword.withRecursive else Keyword.with_)
      (w.expressions.map CommonTableExpression.script)

def script (w : With σ) : Script σ :=
  Script.node .empty (w.expressionScript ++ w.content.getD [])

end With

instance : Assemble (CommonTableExpression σ) σ := ⟨CommonTableExpression.script⟩

instance : Assemble (With σ) σ := ⟨With.script⟩

end SqlBuilder
