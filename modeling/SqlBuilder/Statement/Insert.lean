import SqlBuilder.Statement.Select

/-!
# INSERT

The rows to insert are given one by one or by a selection, whichever came
last; with neither, a row of defaults is inserted.
-/

namespace SqlBuilder

variable {σ : Type}

/-- Where the inserted rows come from. -/
inductive InsertSource (σ : Type) where
  | rows (rows : List (List (Expression σ)))
  | select (select : Select σ)

structure Insert (σ : Type) where
  table : Expression σ
  targets : List (Expression σ) := []
  source : InsertSource σ := .rows []
  skipsConflicts : Bool := false
  results : List (Expression σ) := []

namespace Insert

/-! ## Building -/

def intoTable (table : Expression σ) : Insert σ := { table }

def columns (i : Insert σ) (es : List (Expression σ)) : Insert σ :=
  { i with targets := i.targets ++ es }

/-- Adds a row. A selection given before is dropped. -/
def values (i : Insert σ) (row : List (Expression σ)) : Insert σ :=
  match i.source with
  | .rows rows => { i with source := .rows (rows ++ [row]) }
  | .select _ => { i with source := .rows [row] }

/-- Inserts the rows of a selection. Rows given before are dropped. -/
def select (i : Insert σ) (s : Select σ) : Insert σ := { i with source := .select s }

/-- Leaves conflicting rows as they are. -/
def onConflictDoNothing (i : Insert σ) : Insert σ := { i with skipsConflicts := true }

def returning (i : Insert σ) (es : List (Expression σ)) : Insert σ :=
  { i with results := i.results ++ es }

/-! ## Assembly -/

def targetScript (i : Insert σ) : Script σ :=
  Script.node (.keyword Keyword.insertInto)
    (.leaf (.expression i.table)
      :: if i.targets.isEmpty then [] else [.leaf (.expression (.list i.targets))])

def sourceScript (i : Insert σ) : Script σ :=
  match i.source with
  | .rows [] => Clause.bare Keyword.defaultValues
  | .rows rows => Clause.list Keyword.values (rows.map (.list ·))
  | .select s => s.script

def script (i : Insert σ) : Script σ :=
  Script.node .empty
    (i.targetScript
      ++ i.sourceScript
      ++ (if i.skipsConflicts then Clause.bare Keyword.onConflictDoNothing else [])
      ++ Clause.list Keyword.returning i.results)

end Insert

instance : Assemble (Insert σ) σ := ⟨Insert.script⟩

end SqlBuilder
