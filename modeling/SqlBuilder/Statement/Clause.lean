import SqlBuilder.Condition

/-!
# Clauses

The forms of clause that statements share. A clause without content leaves
nothing in the tree.
-/

namespace SqlBuilder

namespace Clause

variable {σ : Type}

/-- The delimiter between the items of a list. -/
def listDelimiter : String := ", "

/-- A keyword and a list of expressions; nothing for an empty list. -/
def list (keyword : String) (items : List (Expression σ)) : Script σ :=
  if items.isEmpty then []
  else Script.node (.keyword keyword) [.leaves (items.map .expression)] listDelimiter

/-- A keyword and an expression, if there is one. -/
def expression (keyword : String) (e : Option (Expression σ)) : Script σ :=
  match e with
  | none => []
  | some e => Script.node (.keyword keyword) [.leaf (.expression e)]

/-- A keyword and a condition chain, if there is one. -/
def conditions (keyword : String) (c : Option (Conditions σ)) : Script σ :=
  match c with
  | none => []
  | some c => Script.node (.keyword keyword) c.script

/-- A keyword in front of nodes that are joined like the items of a list. -/
def joined (keyword : String) (nodes : List (Script σ)) : Script σ :=
  Script.node ((Metadata.keyword keyword).joiningNodes true) nodes.flatten listDelimiter

/-- A keyword that stands alone. -/
def bare (keyword : String) : Script σ := Script.node (.keyword keyword) []

end Clause

end SqlBuilder
