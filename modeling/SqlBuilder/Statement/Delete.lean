import SqlBuilder.Statement.Clause

/-!
# DELETE
-/

namespace SqlBuilder

variable {σ : Type}

/-- The rows to take out of a table: those for which the restriction holds, which may
look at other sources too. -/
structure Delete (σ : Type) where
  table : Expression σ
  sources : List (Expression σ) := []
  restriction : Option (Conditions σ) := none
  results : List (Expression σ) := []

namespace Delete

def fromTable (table : Expression σ) : Delete σ := { table }

def usingTable (d : Delete σ) (table : Expression σ) : Delete σ :=
  { d with sources := d.sources ++ [table] }

/-- Restricts the rows further: a condition must hold besides those given before. -/
def filter (d : Delete σ) (c : Conditions σ) : Delete σ :=
  { d with restriction := some (conjoin d.restriction c) }

def returning (d : Delete σ) (es : List (Expression σ)) : Delete σ :=
  { d with results := d.results ++ es }

def script (d : Delete σ) : Script σ :=
  Script.node .empty
    (Clause.expression Keyword.deleteFrom (some d.table)
      ++ Clause.list Keyword.using_ d.sources
      ++ Clause.conditions Keyword.where_ d.restriction
      ++ Clause.list Keyword.returning d.results)

end Delete

instance : Assemble (Delete σ) σ := ⟨Delete.script⟩

end SqlBuilder
