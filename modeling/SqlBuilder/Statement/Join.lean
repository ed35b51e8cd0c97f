import SqlBuilder.Statement.Clause

/-!
# Joins
-/

namespace SqlBuilder

variable {σ : Type}

/-- Which rows a join keeps. -/
inductive JoinKind where
  | inner
  | left
  | right
  | full
  | cross
deriving DecidableEq

namespace JoinKind

def keyword : JoinKind → String
  | .inner => Keyword.innerJoin
  | .left => Keyword.leftJoin
  | .right => Keyword.rightJoin
  | .full => Keyword.fullJoin
  | .cross => Keyword.crossJoin

end JoinKind

/-- A table that is joined, and the condition it is joined on. -/
structure Join (σ : Type) where
  kind : JoinKind
  table : Expression σ
  condition : Option (Conditions σ) := none

namespace Join

def script (j : Join σ) : Script σ :=
  Script.node (.keyword j.kind.keyword)
    (.leaf (.expression j.table) :: Clause.conditions Keyword.on j.condition)

end Join

instance : Assemble (Join σ) σ := ⟨Join.script⟩

end SqlBuilder
