import SqlBuilder.Statement.Clause

/-!
# UPDATE

An update without any assignment is rejected when it is assembled.
-/

namespace SqlBuilder

variable {σ : Type}

/-- A column and its new value. -/
structure Assignment (σ : Type) where
  column : Expression σ
  value : Expression σ

namespace Assignment

def script (a : Assignment σ) : Script σ := Predicate.operation "=" [a.column, a.value]

end Assignment

structure Update (σ : Type) where
  table : Expression σ
  assignments : List (Assignment σ) := []
  sources : List (Expression σ) := []
  restriction : Option (Conditions σ) := none
  results : List (Expression σ) := []

namespace Update

/-! ## Building -/

def ofTable (table : Expression σ) : Update σ := { table }

def set (u : Update σ) (column value : Expression σ) : Update σ :=
  { u with assignments := u.assignments ++ [⟨column, value⟩] }

def fromTable (u : Update σ) (table : Expression σ) : Update σ :=
  { u with sources := u.sources ++ [table] }

def filter (u : Update σ) (c : Conditions σ) : Update σ :=
  { u with restriction := some (conjoin u.restriction c) }

def returning (u : Update σ) (es : List (Expression σ)) : Update σ :=
  { u with results := u.results ++ es }

/-! ## Assembly -/

/-- Why an update without assignments is rejected. -/
def noAssignment : String := "UPDATE without any SET assignment"

def script (u : Update σ) : Script σ :=
  Script.node .empty
    (Clause.expression Keyword.update (some u.table)
      ++ (if u.assignments.isEmpty then [.reject noAssignment] else [])
      ++ Clause.joined Keyword.set (u.assignments.map Assignment.script)
      ++ Clause.list Keyword.from_ u.sources
      ++ Clause.conditions Keyword.where_ u.restriction
      ++ Clause.list Keyword.returning u.results)

end Update

instance : Assemble (Update σ) σ := ⟨Update.script⟩

end SqlBuilder
