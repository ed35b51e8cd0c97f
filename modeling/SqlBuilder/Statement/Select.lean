import SqlBuilder.Statement.Join
import SqlBuilder.Statement.Order

/-!
# SELECT

A selection holds its clauses, and its assembly writes them in the order of
SQL, whatever the order in which they were given. Other selections are
united with it behind its own HAVING clause; one that has unions, an order, a
limit or an offset of its own stands in parentheses there, so that these
stay with it.
-/

namespace SqlBuilder

variable {σ : Type}

mutual

/-- A SELECT statement. Without outputs, it selects all columns. -/
structure Select (σ : Type) where
  isDistinct : Bool := false
  outputs : List (Expression σ) := []
  sources : List (Expression σ) := []
  joins : List (Join σ) := []
  restriction : Option (Conditions σ) := none
  grouping : List (Expression σ) := []
  groupRestriction : Option (Conditions σ) := none
  unions : List (UnionMember σ) := []
  ordering : List (OrderElement σ) := []
  rowLimit : Option (Expression σ) := none
  rowOffset : Option (Expression σ) := none

/-- A selection that is united with what comes before it. -/
structure UnionMember (σ : Type) where
  keepsDuplicates : Bool
  select : Select σ

end

namespace UnionMember

/-- The keyword in front of a member. -/
def keyword (keepsDuplicates : Bool) : String :=
  if keepsDuplicates then Keyword.unionAll else Keyword.union

end UnionMember

namespace Select

/-! ## Building -/

def distinct (s : Select σ) : Select σ := { s with isDistinct := true }

def column (s : Select σ) (e : Expression σ) : Select σ :=
  { s with outputs := s.outputs ++ [e] }

def columns (s : Select σ) (es : List (Expression σ)) : Select σ :=
  { s with outputs := s.outputs ++ es }

def fromTable (s : Select σ) (table : Expression σ) : Select σ :=
  { s with sources := s.sources ++ [table] }

def join (s : Select σ) (j : Join σ) : Select σ := { s with joins := s.joins ++ [j] }

/-- Joins a table on a condition; only matching rows are kept. -/
def innerJoin (s : Select σ) (table : Expression σ) (condition : Conditions σ) : Select σ :=
  s.join ⟨.inner, table, some condition⟩

/-- Joins a table on a condition; all rows of the left side are kept. -/
def leftJoin (s : Select σ) (table : Expression σ) (condition : Conditions σ) : Select σ :=
  s.join ⟨.left, table, some condition⟩

/-- Joins a table on a condition; all rows of the right side are kept. -/
def rightJoin (s : Select σ) (table : Expression σ) (condition : Conditions σ) : Select σ :=
  s.join ⟨.right, table, some condition⟩

/-- Joins a table on a condition; all rows of both sides are kept. -/
def fullJoin (s : Select σ) (table : Expression σ) (condition : Conditions σ) : Select σ :=
  s.join ⟨.full, table, some condition⟩

/-- Joins every row with every row of a table. -/
def crossJoin (s : Select σ) (table : Expression σ) : Select σ :=
  s.join ⟨.cross, table, none⟩

def filter (s : Select σ) (c : Conditions σ) : Select σ :=
  { s with restriction := some (conjoin s.restriction c) }

def groupBy (s : Select σ) (es : List (Expression σ)) : Select σ :=
  { s with grouping := s.grouping ++ es }

def having (s : Select σ) (c : Conditions σ) : Select σ :=
  { s with groupRestriction := some (conjoin s.groupRestriction c) }

/-- Adds the rows of a selection that are not there yet. -/
def union (s other : Select σ) : Select σ :=
  { s with unions := s.unions ++ [⟨false, other⟩] }

/-- Adds all rows of a selection. -/
def unionAll (s other : Select σ) : Select σ :=
  { s with unions := s.unions ++ [⟨true, other⟩] }

def orderBy (s : Select σ) (o : OrderElement σ) : Select σ :=
  { s with ordering := s.ordering ++ [o] }

def limit (s : Select σ) (e : Expression σ) : Select σ := { s with rowLimit := some e }

def offset (s : Select σ) (e : Expression σ) : Select σ := { s with rowOffset := some e }

/-! ## Assembly -/

/-- Whether a selection stands in parentheses when it is united with another
one. -/
def needsParentheses (s : Select σ) : Bool :=
  !s.unions.isEmpty || !s.ordering.isEmpty || s.rowLimit.isSome || s.rowOffset.isSome

def outputScript (s : Select σ) : Script σ :=
  Script.node (.keyword (if s.isDistinct then Keyword.selectDistinct else Keyword.select))
    (if s.outputs.isEmpty then [.leaf (.raw "*")]
     else [.leaves (s.outputs.map .expression)])
    Clause.listDelimiter

/-- The steps of the clauses in front of the unions. -/
def coreScript (s : Select σ) : Script σ :=
  s.outputScript
    ++ Clause.list Keyword.from_ s.sources
    ++ s.joins.flatMap Join.script
    ++ Clause.conditions Keyword.where_ s.restriction
    ++ Clause.list Keyword.groupBy s.grouping
    ++ Clause.conditions Keyword.having s.groupRestriction

/-- The steps of the clauses behind the unions. -/
def trailingScript (s : Select σ) : Script σ :=
  OrderElement.clause s.ordering
    ++ Clause.expression Keyword.limit s.rowLimit
    ++ Clause.expression Keyword.offset s.rowOffset

end Select

mutual

def Select.nestedScript (parentheses : Bool) : Select σ → Script σ
  | s@{ unions, .. } =>
      Script.node (Metadata.empty.parenthesized parentheses)
        (s.coreScript ++ UnionMember.scripts unions ++ s.trailingScript)

/-- The steps of the united selections. -/
def UnionMember.scripts : List (UnionMember σ) → Script σ
  | [] => []
  | ⟨keepsDuplicates, select⟩ :: rest =>
      Script.node (.keyword (UnionMember.keyword keepsDuplicates))
          (select.nestedScript select.needsParentheses)
        ++ UnionMember.scripts rest

end

def Select.script (s : Select σ) : Script σ := s.nestedScript false

instance : Assemble (Select σ) σ := ⟨Select.script⟩

end SqlBuilder
