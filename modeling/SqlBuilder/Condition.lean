import SqlBuilder.Keyword
import SqlBuilder.Tree

/-!
# Conditions

A condition chain is a predicate followed by attached chains, each with a
connector. In the tree, every chain is a node; an attached chain that has
attachments of its own stands in parentheses, as does a group, so that the
text groups as the chain was built.
-/

namespace SqlBuilder

variable {σ : Type}

/-- How a comparison ranges over the rows of its right side. -/
inductive Quantifier where
  | any
  | some
  | all
deriving DecidableEq

namespace Quantifier

def keyword : Quantifier → String
  | .any => Keyword.any
  | .some => Keyword.some
  | .all => Keyword.all

end Quantifier

/-- How a chain is attached to what comes before it. -/
inductive Connector where
  | and
  | andNot
  | or
  | orNot
deriving DecidableEq

namespace Connector

def keyword : Connector → String
  | .and => Keyword.and
  | .andNot => Keyword.andNot
  | .or => Keyword.or
  | .orNot => Keyword.orNot

end Connector

mutual

/-- A single test, or a chain taken as one. -/
inductive Predicate (σ : Type) where
  | compare (left : Expression σ) (operator : String) (right : Expression σ)
  /-- An operator behind its only operand. -/
  | trailing (operand : Expression σ) (operator : String)
  | between (left low high : Expression σ) (negated : Bool)
  /-- Whether the operand, most often a subquery, has any row. -/
  | existence (operand : Expression σ) (negated : Bool)
  | membership (left right : Expression σ) (negated : Bool)
  | quantified (left : Expression σ) (operator : String) (quantifier : Quantifier)
      (right : Expression σ)
  | group (conditions : Conditions σ)

/-- A chain behind a connector. -/
structure Attached (σ : Type) where
  connector : Connector
  conditions : Conditions σ

/-- A chain of conditions: a predicate and what is attached to it. -/
structure Conditions (σ : Type) where
  predicate : Predicate σ
  attached : List (Attached σ) := []

end

/-! ## Building chains -/

namespace Conditions

def ofPredicate (predicate : Predicate σ) : Conditions σ := { predicate }

def hasNested (c : Conditions σ) : Bool := !c.attached.isEmpty

/-- Attaches a chain at the end. -/
def attach (c : Conditions σ) (connector : Connector) (other : Conditions σ) :
    Conditions σ :=
  { c with attached := c.attached ++ [⟨connector, other⟩] }

/-- Attaches a chain that must hold too. -/
def and (c other : Conditions σ) : Conditions σ := c.attach .and other

/-- Attaches a chain that must not hold. -/
def andNot (c other : Conditions σ) : Conditions σ := c.attach .andNot other

/-- Attaches an alternative. -/
def or (c other : Conditions σ) : Conditions σ := c.attach .or other

/-- Attaches a negated alternative. -/
def orNot (c other : Conditions σ) : Conditions σ := c.attach .orNot other

/-- The chain as a single predicate. -/
def grouped (c : Conditions σ) : Conditions σ := ofPredicate (.group c)

/-! ## Single conditions -/

def compare (left : Expression σ) (operator : String) (right : Expression σ) :
    Conditions σ :=
  ofPredicate (.compare left operator right)

def isNull (operand : Expression σ) : Conditions σ :=
  ofPredicate (.trailing operand Keyword.isNull)

def isNotNull (operand : Expression σ) : Conditions σ :=
  ofPredicate (.trailing operand Keyword.isNotNull)

/-- Whether an expression lies between two others. -/
def between (left low high : Expression σ) : Conditions σ :=
  ofPredicate (.between left low high false)

/-- Whether an expression does not lie between two others. -/
def notBetween (left low high : Expression σ) : Conditions σ :=
  ofPredicate (.between left low high true)

/-- Whether a statement has any row. -/
def hasRows (statement : σ) : Conditions σ :=
  ofPredicate (.existence (.nested statement) false)

/-- Whether a statement has no row. -/
def hasNoRows (statement : σ) : Conditions σ :=
  ofPredicate (.existence (.nested statement) true)

/-- Whether an expression is in a list or among the rows of a subquery. -/
def inside (left right : Expression σ) : Conditions σ :=
  ofPredicate (.membership left right false)

/-- Whether an expression is not in a list or among the rows of a subquery. -/
def notInside (left right : Expression σ) : Conditions σ :=
  ofPredicate (.membership left right true)

/-- Compares an expression with the elements of another one. -/
def quantified (left : Expression σ) (operator : String) (quantifier : Quantifier)
    (right : Expression σ) : Conditions σ :=
  ofPredicate (.quantified left operator quantifier right)

end Conditions

namespace Attached

/-- Whether the attached chain stands in parentheses. -/
def needsParentheses (a : Attached σ) : Bool := a.conditions.hasNested

end Attached

/-- Both an existing chain, if there is one, and another one. An existing
chain with attachments is grouped, so that none of them can take in the
other one. -/
def conjoin (existing : Option (Conditions σ)) (other : Conditions σ) : Conditions σ :=
  match existing with
  | none => other
  | some c => if c.hasNested then c.grouped.and other else c.and other

/-! ## Assembly -/

namespace Predicate

def operands (es : List (Expression σ)) : Script σ := es.map fun e => .leaf (.expression e)

/-- An operator behind the first of its operands. -/
def operation (operator : String) (es : List (Expression σ)) : Script σ :=
  Script.node (.operator operator 1) (operands es)

end Predicate

mutual

def Conditions.chainScript (parentheses : Bool) : Conditions σ → Script σ
  | ⟨predicate, attached⟩ =>
      Script.node (Metadata.empty.parenthesized parentheses)
        (predicate.script ++ Attached.scripts attached)

def Predicate.script : Predicate σ → Script σ
  | .compare left operator right => Predicate.operation operator [left, right]
  | .trailing operand operator => Predicate.operation operator [operand]
  | .between left low high negated =>
      Script.node (.operator (if negated then Keyword.notBetween else Keyword.between) 1)
        (Predicate.operands [left] ++ Predicate.operation Keyword.and [low, high])
  | .existence operand negated =>
      Script.node (.keyword (if negated then Keyword.notExists else Keyword.exists_))
        (Predicate.operands [operand])
  | .membership left right negated =>
      Predicate.operation (if negated then Keyword.notIn else Keyword.in_) [left, right]
  | .quantified left operator quantifier right =>
      Predicate.operation operator [left, .call quantifier.keyword [right]]
  | .group conditions => conditions.chainScript true

def Attached.scripts : List (Attached σ) → Script σ
  | [] => []
  | ⟨connector, conditions⟩ :: rest =>
      Script.node (.keyword connector.keyword) (conditions.chainScript conditions.hasNested)
        ++ Attached.scripts rest

end

/-- The steps of a chain by itself, which has no parentheses around it. -/
def Conditions.script (c : Conditions σ) : Script σ := c.chainScript false

instance : Assemble (Predicate σ) σ := ⟨Predicate.script⟩

instance : Assemble (Conditions σ) σ := ⟨Conditions.script⟩

end SqlBuilder
