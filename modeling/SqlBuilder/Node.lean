import SqlBuilder.Expression

/-!
# Nodes

The nodes of a statement's tree. A node has leaves, children, a delimiter
between its items, and metadata: a token of its own, the number of leaves in
front of that token, whether the node stands in parentheses, and whether its
children are items like its leaves or clauses of their own.
-/

namespace SqlBuilder

/-- A leaf of a tree, or a node's own token. -/
inductive Token (σ : Type) where
  | keyword (name : String)
  | operator (name : String)
  | expression (e : Expression σ)

namespace Token

variable {σ : Type}

/-- SQL text as a token. -/
def raw (text : String) : Token σ := .expression (.raw text)

def name : Token σ → String
  | .keyword name | .operator name => name
  | .expression e => e.name

end Token

/-- How a node is written. -/
structure Metadata (σ : Type) where
  token : Option (Token σ) := none
  /-- How many leaves stand in front of the token. -/
  position : Nat := 0
  parentheses : Bool := false
  /-- Whether the children are joined with the leaves after the token. -/
  joinNodes : Bool := false

namespace Metadata

variable {σ : Type}

/-- A node without a token. -/
def empty : Metadata σ := {}

/-- A node with a token after so many leaves. -/
def withToken (token : Token σ) (position : Nat) : Metadata σ :=
  { token := some token, position }

/-- A node that starts with a keyword. -/
def keyword (name : String) : Metadata σ := withToken (.keyword name) 0

/-- A node with an operator after so many leaves. -/
def operator (name : String) (position : Nat) : Metadata σ :=
  withToken (.operator name) position

/-- The same with or without parentheses. -/
def parenthesized (m : Metadata σ) (parentheses : Bool) : Metadata σ :=
  { m with parentheses }

/-- The same with children joined or not. -/
def joiningNodes (m : Metadata σ) (joinNodes : Bool) : Metadata σ :=
  { m with joinNodes }

/-- The same with the token elsewhere. -/
def atPosition (m : Metadata σ) (position : Nat) : Metadata σ :=
  { m with position }

end Metadata

/-- The delimiter between the items of a node that chooses none. -/
def defaultDelimiter : String := " "

structure Node (σ : Type) where
  metadata : Metadata σ
  leaves : List (Token σ) := []
  children : List (Node σ) := []
  delimiter : String := defaultDelimiter

namespace Node

variable {σ : Type}

def addLeaf (n : Node σ) (leaf : Token σ) : Node σ :=
  { n with leaves := n.leaves ++ [leaf] }

def addLeaves (n : Node σ) (leaves : List (Token σ)) : Node σ :=
  { n with leaves := n.leaves ++ leaves }

def addChild (n : Node σ) (child : Node σ) : Node σ :=
  { n with children := n.children ++ [child] }

/-- The same with another delimiter. -/
def withDelimiter (n : Node σ) (delimiter : String) : Node σ :=
  { n with delimiter }

/-- The same without leaves and children. -/
def clear (n : Node σ) : Node σ :=
  { n with leaves := [], children := [] }

/-- Whether a node has no children; leaves do not count. -/
def isEmpty (n : Node σ) : Bool := n.children.isEmpty

end Node

end SqlBuilder
