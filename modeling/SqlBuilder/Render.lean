import SqlBuilder.Assembled
import SqlBuilder.Keyword
import SqlBuilder.Value.Literal

/-!
# Rendering

The text of expressions and nodes. In literal mode every value stands as its
literal. In prepared mode every value but null stands as a placeholder and is
collected as a parameter; values inside subqueries take their places in the
same list.

What is collected stays collected when rendering fails later.
-/

namespace SqlBuilder

/-- Whether values stand as literals or as placeholders. -/
inductive Mode where
  | literal
  | prepared
deriving DecidableEq

/-- How to render. -/
structure Style where
  mode : Mode
  config : RenderConfig := {}
deriving DecidableEq

/-- What rendering collects: the parameters in the order of their numbers,
and what is noted. -/
structure Collected where
  params : List Value := []
  log : List Event := []

/-- Rendering fails or gives a result; in both cases it collects. -/
abbrev Render (α : Type) := ExceptT BuilderError (StateM Collected) α

namespace Render

/-- Notes some events. -/
def note (events : List Event) : Render Unit :=
  modify fun c => { c with log := c.log ++ events }

/-- Collects a parameter and gives its number, counted from one. -/
def collect (v : Value) : Render Nat := do
  modify fun c => { c with params := c.params ++ [v] }
  return (← get).params.length

/-- The text of a value: a placeholder if it is a parameter, its literal
otherwise. -/
def value (style : Style) (v : Value) : Render String := do
  if style.mode = .prepared ∧ v.isPreparable then
    return style.config.placeholderStyle.placeholder (← collect v)
  else
    return v.literal

end Render

/-! ## Names -/

namespace QualifiedName

/-- The segments of a name, which stand between its dots. -/
def segments : List Char → List (List Char)
  | [] => [[]]
  | c :: rest =>
      if c = '.' then [] :: segments rest
      else
        match segments rest with
        | [] => [[c]]
        | first :: others => (c :: first) :: others

/-- The text of a segment. A lone star is never quoted. -/
def segmentText (quoted : Bool) (segment : List Char) : String :=
  let text := String.ofList segment
  if quoted && segment != ['*'] then quotedIdentifier text else text

/-- The text of a name, quoted segment by segment. -/
def text (quoted : Bool) (name : String) : String :=
  ".".intercalate ((segments name.toList).map (segmentText quoted))

/-- What is noted about a name: each of its empty segments. -/
def events (name : String) : List Event :=
  (segments name.toList).zipIdx.filterMap fun (segment, index) =>
    if segment.isEmpty then some (.emptySegment name index) else none

end QualifiedName

/-! ## The layout of expressions -/

namespace TextStyle

/-- How a text stands in a style. -/
def layout (config : RenderConfig) (text : String) : TextStyle → String
  | .raw => text
  | .stringConstant => SqlBuilder.stringConstant text
  | .dollarString tag => "$" ++ tag ++ "$" ++ text ++ "$" ++ tag ++ "$"
  | .column quoted => QualifiedName.text (quoted.getD config.quoteIdentifiers) text
  | .field => QualifiedName.text false text

/-- What is noted about a text in a style. -/
def events (text : String) : TextStyle → List Event
  | .column _ | .field => QualifiedName.events text
  | _ => []

end TextStyle

namespace Suffix

def castText (s : Suffix) : String :=
  match s.cast with
  | none => ""
  | some type => "::" ++ type

def aliasText (s : Suffix) : String :=
  match s.aliased with
  | none => ""
  | some ⟨name, []⟩ => " AS " ++ name
  | some ⟨name, columns⟩ => " AS " ++ name ++ "(" ++ ", ".intercalate columns ++ ")"

/-- An expression's text with what follows it. -/
def attach (s : Suffix) (text : String) : String := text ++ s.castText ++ s.aliasText

@[simp] theorem attach_empty (text : String) : attach {} text = text := by
  simp [attach, castText, aliasText]

end Suffix

def parenthesize (text : String) : String := "(" ++ text ++ ")"

/-- Texts with commas between them. -/
def commaSeparated (texts : List String) : String := ", ".intercalate texts

namespace Expression

variable {σ : Type}

/-- The row of a list of rows: parentheses around what brings none. -/
def rowText (row : Expression σ) (text : String) : String :=
  if row.isSelfParenthesized then text else parenthesize text

/-- The layout of a call, from the texts of its arguments. A list of rows
has no parentheses around all rows, unless an alias follows. A lone argument
that brings its own parentheses gets no more. -/
def callText (name : String) (arguments : List (Expression σ)) (texts : List String)
    (aliased : Bool) : String :=
  if isValuesName name then
    let rows := name ++ commaSeparated (List.zipWith rowText arguments texts)
    if aliased then parenthesize rows else rows
  else
    match arguments, texts with
    | [argument], [lone] => name ++ rowText argument lone
    | _, texts => name ++ parenthesize (commaSeparated texts)

end Expression

/-! ## The layout of nodes -/

/-- Items that are not empty, joined; nothing if there are none. -/
def joinedItems (delimiter : String) (items : List String) : List String :=
  match items.filter (· != "") with
  | [] => []
  | items => [delimiter.intercalate items]

namespace Metadata

variable {σ : Type}

/-- The layout of a node, from the texts of its leaves, its token and its
children. Leaves up to the position stand in front of the token. Children
follow the other leaves as items, or come after them as clauses. -/
def layout (m : Metadata σ) (delimiter : String) (leaves : List String)
    (token : Option String) (children : List String) : String :=
  let before := leaves.take m.position
  let after := leaves.drop m.position
  let items := if m.joinNodes then after ++ children else after
  let clauses := if m.joinNodes then [] else children
  let text :=
    " ".intercalate
      (joinedItems delimiter before ++ token.toList ++ joinedItems delimiter items
        ++ clauses.filter (· != ""))
  if m.parentheses then parenthesize text else text

end Metadata

/-! ## Rendering -/

mutual

/-- The text of an assembled statement. What was noted when it was assembled
is noted each time. -/
def Assembled.render (style : Style) : Assembled → Render String
  | .complete log root => do
      Render.note log
      root.render style
  | .failed log e => do
      Render.note log
      throw e

/-- The text of a node: first its leaves are rendered, then its token, then
its children. -/
def Node.render (style : Style) : Node Assembled → Render String
  | ⟨⟨token, position, parentheses, joinNodes⟩, leaves, children, delimiter⟩ => do
      let leafTexts ← Token.renderAll style leaves
      let tokenText ← Token.renderOption style token
      let childTexts ← Node.renderAll style children
      let metadata : Metadata Assembled := ⟨token, position, parentheses, joinNodes⟩
      return metadata.layout delimiter leafTexts tokenText childTexts

def Node.renderAll (style : Style) : List (Node Assembled) → Render (List String)
  | [] => return []
  | node :: rest => do
      let text ← node.render style
      return text :: (← Node.renderAll style rest)

def Token.renderOption (style : Style) : Option (Token Assembled) → Render (Option String)
  | none => return none
  | some token => do return some (← token.render style)

def Token.render (style : Style) : Token Assembled → Render String
  | .keyword name => return name
  | .operator name => return name
  | .expression e => e.render style

def Token.renderAll (style : Style) : List (Token Assembled) → Render (List String)
  | [] => return []
  | token :: rest => do
      let text ← token.render style
      return text :: (← Token.renderAll style rest)

def Expression.render (style : Style) : Expression Assembled → Render String
  | .text content kind suffix => do
      Render.note (kind.events content)
      return suffix.attach (kind.layout style.config content)
  | .value v suffix => return suffix.attach (← Render.value style v)
  | .list elements suffix => do
      let texts ← Expression.renderAll style elements
      return suffix.attach (parenthesize (commaSeparated texts))
  | .array elements suffix => do
      let texts ← Expression.renderAll style elements
      return suffix.attach (arrayLiteral texts)
  | .call name arguments suffix => do
      let texts ← Expression.renderAll style arguments
      return suffix.attach (Expression.callText name arguments texts suffix.aliased.isSome)
  | .nested statement suffix => do
      let text ← statement.render style
      return suffix.attach (parenthesize text)

def Expression.renderAll (style : Style) : List (Expression Assembled) → Render (List String)
  | [] => return []
  | e :: rest => do
      let text ← e.render style
      return text :: (← Expression.renderAll style rest)

end

end SqlBuilder
