/-!
# Rendering configuration

How placeholders are written, and whether column references that leave the
choice open are quoted.
-/

namespace SqlBuilder

/-- How a parameter stands in the text of a prepared statement. -/
inductive PlaceholderStyle where
  /-- `?` for every parameter. -/
  | question
  /-- `$1`, `$2`, and so on. -/
  | numbered
deriving DecidableEq

namespace PlaceholderStyle

/-- The placeholder of the parameter at an index, counted from one. -/
def placeholder (style : PlaceholderStyle) (index : Nat) : String :=
  match style with
  | .question => "?"
  | .numbered => "$" ++ toString index

end PlaceholderStyle

/-- The options of rendering. -/
structure RenderConfig where
  placeholderStyle : PlaceholderStyle := .question
  /-- Whether a column reference that does not say so itself is quoted. -/
  quoteIdentifiers : Bool := false
deriving DecidableEq

namespace RenderConfig

/-- What Postgres takes: numbered placeholders; identifiers are quoted. -/
def postgres : RenderConfig := ⟨.numbered, true⟩

end RenderConfig

end SqlBuilder
