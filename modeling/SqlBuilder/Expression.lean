import SqlBuilder.Value.Basic

/-!
# Expressions

The expressions of a statement: text in one of several styles, values, lists,
arrays, function calls and subqueries. Each may carry a cast and an alias.

The type `σ` is that of subqueries. Expressions, and all that is built from
them up to whole statements, work for any such type; what a subquery is
becomes fixed only where statements are rendered.
-/

namespace SqlBuilder

/-- How the text of an expression is written. -/
inductive TextStyle where
  /-- As it is. -/
  | raw
  /-- As a string constant. -/
  | stringConstant
  /-- Between two dollar signs with a tag, which need no escapes inside. -/
  | dollarString (tag : String)
  /-- As a qualified name, quoted or not; if open, the configuration decides. -/
  | column (quoted : Option Bool)
  /-- As a qualified name that is never quoted. -/
  | field
deriving DecidableEq

/-- A new name of an expression, and of its columns. -/
structure Alias where
  name : String
  columns : List String := []
deriving DecidableEq

/-- What may follow any expression. -/
structure Suffix where
  cast : Option String := none
  aliased : Option Alias := none
deriving DecidableEq

namespace Suffix

def isEmpty (s : Suffix) : Bool := s.cast.isNone && s.aliased.isNone

end Suffix

/-- An expression with subqueries of type `σ`. -/
inductive Expression (σ : Type) where
  | text (content : String) (style : TextStyle) (suffix : Suffix := {})
  | value (value : Value) (suffix : Suffix := {})
  | list (elements : List (Expression σ)) (suffix : Suffix := {})
  | array (elements : List (Expression σ)) (suffix : Suffix := {})
  | call (name : String) (arguments : List (Expression σ)) (suffix : Suffix := {})
  | nested (statement : σ) (suffix : Suffix := {})

namespace Expression

variable {σ : Type}

/-! ## Making expressions -/

/-- SQL text that is taken as it is. -/
def raw (text : String) : Expression σ := .text text .raw

def string (text : String) : Expression σ := .text text .stringConstant

def dollarString (text tag : String) : Expression σ := .text text (.dollarString tag)

/-- A column reference that the configuration may quote. -/
def column (name : String) : Expression σ := .text name (.column none)

def quotedColumn (name : String) : Expression σ := .text name (.column (some true))

def unquotedColumn (name : String) : Expression σ := .text name (.column (some false))

def field (name : String) : Expression σ := .text name .field

def listOfValues (values : List Value) : Expression σ := .list (values.map (.value ·))

def arrayOfValues (values : List Value) : Expression σ := .array (values.map (.value ·))

/-- A string where an expression is expected is SQL that is taken as it is. -/
def ofString (text : String) : Expression σ := raw text

/-- A value where an expression is expected stays a value, even if it is a text. -/
def ofValue (v : Value) : Expression σ := .value v

/-! ## Casts and aliases -/

def suffix : Expression σ → Suffix
  | .text _ _ s | .value _ s | .list _ s | .array _ s | .call _ _ s | .nested _ s => s

/-- The expression with another suffix. -/
def withSuffix (s : Suffix) : Expression σ → Expression σ
  | .text content style _ => .text content style s
  | .value v _ => .value v s
  | .list elements _ => .list elements s
  | .array elements _ => .array elements s
  | .call name arguments _ => .call name arguments s
  | .nested statement _ => .nested statement s

/-- Casts an expression; an earlier cast is replaced. -/
def cast (e : Expression σ) (type : String) : Expression σ :=
  e.withSuffix { e.suffix with cast := some type }

/-- Names an expression and its columns; an earlier alias is replaced. -/
def aliasWithColumns (e : Expression σ) (name : String) (columns : List String) :
    Expression σ :=
  e.withSuffix { e.suffix with aliased := some ⟨name, columns⟩ }

/-- Names an expression; an earlier alias is replaced. -/
def aliasAs (e : Expression σ) (name : String) : Expression σ := e.aliasWithColumns name []

/-! ## Properties -/

def name : Expression σ → String
  | .text content _ _ => content
  | .value _ _ => "?"
  | .list _ _ => "LIST"
  | .array _ _ => "ARRAY"
  | .call name _ _ => name
  | .nested _ _ => "SUBQUERY"

/-- Whether an expression is itself a parameter of a prepared statement. -/
def isPreparable : Expression σ → Bool
  | .value v _ => v.isPreparable
  | _ => false

/-- Whether the text of an expression is one pair of parentheses: that of a
list or of a subquery that nothing follows. -/
def isSelfParenthesized : Expression σ → Bool
  | .list _ s | .nested _ s => s.isEmpty
  | _ => false

/-- Whether a function name is that of a list of rows. -/
def isValuesName (name : String) : Bool := name.toLower == "values"

end Expression

end SqlBuilder
