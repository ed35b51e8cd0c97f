import SqlBuilder.Render

/-!
# Formatters

A formatter renders several things one after the other with one style, and
numbers their parameters through. A statement of its own is rendered by a
new formatter.
-/

namespace SqlBuilder

/-- The text of a prepared statement and its parameters, in the order of
their placeholders. -/
structure PreparedStatement where
  sql : String
  params : List Value

/-- A style and what has been collected with it. -/
structure Formatter where
  style : Style
  collected : Collected := {}

namespace Formatter

/-- A formatter that has collected nothing. -/
def new (mode : Mode) (config : RenderConfig := {}) : Formatter := { style := ⟨mode, config⟩ }

/-- The parameters collected so far. -/
def params (f : Formatter) : List Value := f.collected.params

/-- Renders with a formatter: the result, and the formatter afterwards. -/
def run {α : Type} (f : Formatter) (act : Style → Render α) :
    Except BuilderError α × Formatter :=
  let (result, collected) := (act f.style).run.run f.collected
  (result, { f with collected })

/-- Renders a value. -/
def pushValue (f : Formatter) (v : Value) : Except BuilderError String × Formatter :=
  f.run (Render.value · v)

/-- Renders a node. -/
def renderNode (f : Formatter) (node : Node Assembled) :
    Except BuilderError String × Formatter :=
  f.run (node.render ·)

/-- Renders a tree, if it has a root. -/
def renderTree (f : Formatter) (tree : Tree Assembled) :
    Except BuilderError String × Formatter :=
  match tree.root with
  | .ok root => f.renderNode root
  | .error e => (.error e, f)

/-- Assembles a statement into a tree of its own and renders that. -/
def renderStatement {α : Type} [Assemble α Assembled] (f : Formatter) (statement : α) :
    Except BuilderError String × Formatter :=
  f.run ((Assembled.ofScript (Assemble.script statement)).render ·)

end Formatter

/-! ## Rendering a tree by itself -/

namespace Tree

/-- Renders a tree as literal SQL. -/
def render (config : RenderConfig) (tree : Tree Assembled) :
    Logged (Except BuilderError String) :=
  match (Formatter.new .literal config).renderTree tree with
  | (.ok sql, f) => ⟨.ok sql, f.collected.log ++ [.rendered sql]⟩
  | (.error e, f) => ⟨.error e, f.collected.log⟩

/-- Renders a tree as SQL with placeholders. -/
def renderPrepared (config : RenderConfig) (tree : Tree Assembled) :
    Logged (Except BuilderError PreparedStatement) :=
  match (Formatter.new .prepared config).renderTree tree with
  | (.ok sql, f) =>
      ⟨.ok ⟨sql, f.params⟩, f.collected.log ++ [.renderedPrepared sql f.params.length]⟩
  | (.error e, f) => ⟨.error e, f.collected.log⟩

end Tree

/-! ## Rendering a statement -/

section Statement

variable {α : Type} [Assemble α Assembled]

/-- Assembles a statement and renders it as literal SQL. -/
def render (statement : α) (config : RenderConfig := {}) :
    Logged (Except BuilderError String) :=
  let script := Assemble.script statement
  let rendered := (Tree.run {} script).render config
  { rendered with log := Tree.log {} script ++ rendered.log }

/-- Assembles a statement and renders it as SQL with placeholders. -/
def renderPrepared (statement : α) (config : RenderConfig := {}) :
    Logged (Except BuilderError PreparedStatement) :=
  let script := Assemble.script statement
  let rendered := (Tree.run {} script).renderPrepared config
  { rendered with log := Tree.log {} script ++ rendered.log }

end Statement

end SqlBuilder
