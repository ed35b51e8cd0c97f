import SqlBuilder.Tree

/-!
# Assembled statements

A subquery is a statement that has been assembled into a tree of its own:
either the root of the tree or the reason why it has none, together with
what was noted on the way. This closes the circle between expressions, which
hold subqueries, and trees, which hold expressions.
-/

namespace SqlBuilder

/-- The outcome of assembling a statement into a tree of its own. -/
inductive Assembled where
  | complete (log : List Event) (root : Node Assembled)
  | failed (log : List Event) (error : BuilderError)

namespace Assembled

/-- The outcome of a script. -/
def ofScript (script : Script Assembled) : Assembled :=
  let log := Tree.log {} script
  match (Tree.run {} script).root with
  | .ok root => .complete log root
  | .error e => .failed log e

end Assembled

/-- A statement as a subquery. -/
def Expression.subquery {α : Type} [Assemble α Assembled] (statement : α) :
    Expression Assembled :=
  .nested (.ofScript (Assemble.script statement))

end SqlBuilder
