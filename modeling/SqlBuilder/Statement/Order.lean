import SqlBuilder.Statement.Clause

/-!
# Orders

The elements of an ORDER BY clause.
-/

namespace SqlBuilder

variable {σ : Type}

inductive Direction where
  | ascending
  | descending
deriving DecidableEq

namespace Direction

def keyword : Direction → String
  | .ascending => Keyword.asc
  | .descending => Keyword.desc

end Direction

inductive NullsPlace where
  | first
  | last
deriving DecidableEq

namespace NullsPlace

def keyword : NullsPlace → String
  | .first => Keyword.nullsFirst
  | .last => Keyword.nullsLast

end NullsPlace

/-- An expression to order by. -/
structure OrderElement (σ : Type) where
  key : Expression σ
  direction : Direction
  nulls : Option NullsPlace := none

namespace OrderElement

def ascending (key : Expression σ) : OrderElement σ := { key, direction := .ascending }

def descending (key : Expression σ) : OrderElement σ := { key, direction := .descending }

def nullsFirst (o : OrderElement σ) : OrderElement σ := { o with nulls := some .first }

def nullsLast (o : OrderElement σ) : OrderElement σ := { o with nulls := some .last }

def script (o : OrderElement σ) : Script σ :=
  Script.node .empty
    (.leaf (.expression o.key) :: .leaf (.keyword o.direction.keyword)
      :: o.nulls.toList.map fun place => .leaf (.keyword place.keyword))

/-- The clause of some elements; nothing without any. -/
def clause (elements : List (OrderElement σ)) : Script σ :=
  if elements.isEmpty then []
  else Clause.joined Keyword.orderBy (elements.map script)

end OrderElement

instance : Assemble (OrderElement σ) σ := ⟨OrderElement.script⟩

end SqlBuilder
