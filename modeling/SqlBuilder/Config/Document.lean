import SqlBuilder.Config.Basic
import SqlBuilder.Json.Basic

/-!
# Configuration from a JSON document

A configuration is an object with the optional members `placeholder_style`
and `quote_identifiers`, or a list of the two values in this order, which
may stop early. Members of other names are ignored.
-/

namespace SqlBuilder

def PlaceholderStyle.ofName? : String → Option PlaceholderStyle
  | "question" => some .question
  | "numbered" => some .numbered
  | _ => none

/-- A style in a document: its name, or an object whose only member has that
name and the value null. -/
def PlaceholderStyle.ofJson? : Json → Option PlaceholderStyle
  | .string name => ofName? name
  | .object [(name, .null)] => ofName? name
  | _ => none

/-- A truth value in a document. -/
def booleanOfJson? : Json → Option Bool
  | .bool b => some b
  | _ => none

/-- A part of a document, its default when it is absent, and nothing when it
is malformed. -/
def readPart? {α : Type} (part : Option Json) (read? : Json → Option α)
    (default : α) : Option α :=
  match part with
  | none => some default
  | some j => read? j

namespace RenderConfig

/-- The configuration of two optional parts. -/
def ofParts? (style quote : Option Json) : Option RenderConfig := do
  let defaults : RenderConfig := {}
  let placeholderStyle ← readPart? style PlaceholderStyle.ofJson? defaults.placeholderStyle
  let quoteIdentifiers ← readPart? quote booleanOfJson? defaults.quoteIdentifiers
  return { placeholderStyle, quoteIdentifiers }

/-- The configuration of a document, if it is one. -/
def ofJson? : Json → Option RenderConfig
  | .object members =>
      ofParts? (Json.member? "placeholder_style" members)
        (Json.member? "quote_identifiers" members)
  | .array [] => ofParts? none none
  | .array [style] => ofParts? (some style) none
  | .array [style, quote] => ofParts? (some style) (some quote)
  | _ => none

end RenderConfig

end SqlBuilder
