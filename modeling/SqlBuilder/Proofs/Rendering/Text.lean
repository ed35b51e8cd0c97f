import SqlBuilder.Formatter
import SqlBuilder.Proofs.Assembly.Building
import SqlBuilder.Proofs.Rendering.Denotation

/-!
# The text of nodes

`Node.text` is the text of a node in a style, behind so many parameters: what a
formatter writes if nothing fails (`Formatter.renderNode_spec`). For a node that
holds other nodes and no leaves, it is put together from the texts of these
(`Node.text_around`).
-/

namespace SqlBuilder

/-! ## Texts -/

def Node.text (style : Style) (before : Nat) (n : Node Assembled) : String :=
  (n.template style.config).fill (style.filling before)

/-- The texts of nodes one after the other: each behind the parameters of those
in front of it. -/
def Node.texts (style : Style) (before : Nat) (nodes : List (Node Assembled)) : List String :=
  (Node.templates style.config nodes).map (Template.fill (style.filling before))

@[simp] theorem Node.texts_nil (style : Style) (before : Nat) :
    Node.texts style before [] = [] := rfl

theorem Node.texts_cons (style : Style) (before : Nat) (n : Node Assembled)
    (rest : List (Node Assembled)) :
    Node.texts style before (n :: rest)
      = n.text style before
        :: Node.texts style (before + (style.collects n.encounters).length) rest := by
  rw [texts, texts, templates, List.map_cons, ← style.map_fill_behind]
  rfl

/-- What follows other nodes has the texts that it has behind their parameters. -/
theorem Node.texts_append (style : Style) (bs : List (Node Assembled)) :
    ∀ (as : List (Node Assembled)) (before : Nat), ∃ behind,
      Node.texts style before (as ++ bs)
        = Node.texts style before as ++ Node.texts style behind bs
  | [], before => ⟨before, rfl⟩
  | a :: rest, before => by
      obtain ⟨behind, h⟩ := Node.texts_append style bs rest
        (before + (style.collects a.encounters).length)
      refine ⟨behind, ?_⟩
      rw [List.cons_append, texts_cons, texts_cons, h, List.cons_append]

/-- Whether a text is empty does not depend on what fills its slots. -/
theorem Node.text_eq_empty_iff (style style' : Style) (h : style.config = style'.config)
    (before before' : Nat) (n : Node Assembled) :
    n.text style before = "" ↔ n.text style' before' = "" := by
  unfold text
  rw [Template.fill_eq_empty_iff (style.filling_shows before),
    Template.fill_eq_empty_iff (style'.filling_shows before'), h]

/-- A node without leaves, whose token is a word if it has one. -/
theorem Node.text_around (style : Style) (before : Nat) (word : Option String)
    (parentheses : Bool) (children : List (Node Assembled)) :
    Node.text style before
        ⟨{ token := word.map .keyword, parentheses }, [], children, defaultDelimiter⟩
      = let text := " ".intercalate
          (word.toList ++ (Node.texts style before children).filter (· != ""))
        if parentheses then parenthesize text else text := by
  rw [text, template, Template.fill_layout (style.filling_shows before)]
  have hchildren := style.map_fill_behind before [] (Node.templates style.config children)
  rw [style.collects_nil] at hchildren
  cases word with
  | none =>
      refine (congrArg (Metadata.layout _ _ _ _) hchildren.symm).trans ?_
      simp [Metadata.layout, joinedItems, Token.templates, Token.templateOption, texts]
  | some word =>
      refine (congrArg (Metadata.layout _ _ _ _) hchildren.symm).trans ?_
      simp [Metadata.layout, joinedItems, Token.templates, Token.templateOption, Token.template,
        texts, Template.shift, Piece.shift, Piece.fill]

/-- A word in front of a node that shows. -/
theorem Node.text_behind {style : Style} {before : Nat} (word : String) {child : Node Assembled}
    (h : child.text style before ≠ "") :
    Node.text style before ⟨.keyword word, [], [child], defaultDelimiter⟩
      = word ++ " " ++ child.text style before := by
  refine (text_around style before (some word) false [child]).trans ?_
  rw [texts_cons, texts_nil, List.filter_cons_of_pos (by simpa using h)]
  rfl

/-- A clause that shows stands as it is between the texts of other clauses. -/
theorem Node.text_among {style : Style} {clause : Node Assembled}
    (h : ∀ behind, clause.text style behind ≠ "") (before : Nat)
    (inFront after : List (Node Assembled)) :
    ∃ behind textsInFront textsAfter,
      Node.text style before ⟨.empty, [], inFront ++ [clause] ++ after, defaultDelimiter⟩
        = " ".intercalate (textsInFront ++ [clause.text style behind] ++ textsAfter) := by
  obtain ⟨behind, htexts⟩ := texts_append style (clause :: after) inFront before
  rw [texts_cons] at htexts
  let shown (texts : List String) : List String := texts.filter (· != "")
  refine ⟨behind, shown (texts style before inFront),
    shown (texts style (behind + (style.collects clause.encounters).length) after), ?_⟩
  refine (text_around style before none false _).trans ?_
  rw [List.append_assoc, List.singleton_append, htexts, List.filter_append,
    List.filter_cons_of_pos (by simpa using h behind), List.append_cons]
  rfl

theorem Node.encounters_around (word : Option String) (parentheses : Bool)
    (children : List (Node Assembled)) :
    Node.encounters ⟨{ token := word.map .keyword, parentheses }, [], children, defaultDelimiter⟩
      = Node.encountersAll children := by
  cases word <;> rfl

/-! ## What formatters write -/

/-- A script of a single node assembles to that node, unless it rejects. -/
theorem Script.Forms.assembled {script : Script Assembled} {n : Node Assembled}
    {rejection : Option String} (h : script.Forms n rejection) :
    Assembled.ofScript script
      = rejection.elim (.complete (Tree.log {} script) n)
          fun reason => .failed (Tree.log {} script) (.invalidStatement reason) := by
  unfold Assembled.ofScript
  rw [h.root]
  cases rejection <;> rfl

namespace Formatter

/-- A formatter runs what denotes a walk and a template. -/
theorem run_of_denotes (f : Formatter) {act : Style → Render String} {xs : List Encounter}
    {t : Template}
    (h : Denotes f.style (act f.style) xs fun before => t.fill (f.style.filling before)) :
    (f.run act).1 = Encounter.outcome xs (t.fill (f.style.filling f.params.length))
      ∧ (f.run act).2.params = f.params ++ f.style.collects xs :=
  ⟨h.outcome f.collected, h.params f.collected⟩

theorem renderNode_spec (f : Formatter) (n : Node Assembled) :
    (f.renderNode n).1 = Encounter.outcome n.encounters (n.text f.style f.params.length)
      ∧ (f.renderNode n).2.params = f.params ++ f.style.collects n.encounters := by
  have hact : Denotes f.style ((n.render ·) f.style) n.encounters fun before =>
      (n.template f.style.config).fill (f.style.filling before) := n.denotes f.style
  exact f.run_of_denotes hact

theorem pushValue_spec (f : Formatter) (v : Value) :
    (f.pushValue v).1 = Encounter.outcome (Encounter.ofValue v)
        ((Template.ofValue v).fill (f.style.filling f.params.length))
      ∧ (f.pushValue v).2.params = f.params ++ f.style.collects (Encounter.ofValue v) := by
  have hact : Denotes f.style ((Render.value · v) f.style) (Encounter.ofValue v) fun before =>
      (Template.ofValue v).fill (f.style.filling before) := Denotes.ofValue v
  exact f.run_of_denotes hact

/-- What rendering a statement gives, by what it is assembled to. -/
theorem renderStatement_assembled {α : Type} [Assemble α Assembled] (f : Formatter) (a : α) :
    let whole := Assembled.ofScript (Assemble.script a)
    (f.renderStatement a).1 = Encounter.outcome whole.encounters
        ((whole.template f.style.config).fill (f.style.filling f.params.length))
      ∧ (f.renderStatement a).2.params = f.params ++ f.style.collects whole.encounters := by
  have hact := (Assembled.ofScript (Assemble.script a)).denotes f.style
  exact f.run_of_denotes hact

/-- What rendering a statement gives, by the node that its script forms. -/
theorem renderStatement_spec {α : Type} [Assemble α Assembled] (f : Formatter) (a : α)
    {n : Node Assembled} (h : (Assemble.script a).Forms n none) :
    (f.renderStatement a).1 = Encounter.outcome n.encounters (n.text f.style f.params.length)
      ∧ (f.renderStatement a).2.params = f.params ++ f.style.collects n.encounters := by
  have hspec := f.renderStatement_assembled a
  rw [h.assembled] at hspec
  exact hspec

theorem renderStatement_rejected {α : Type} [Assemble α Assembled] (f : Formatter) (a : α)
    {n : Node Assembled} {reason : String} (h : (Assemble.script a).Forms n (some reason)) :
    (f.renderStatement a).1 = .error (.invalidStatement reason) := by
  unfold renderStatement
  rw [h.assembled]
  rfl

/-- Behind any number of parameters, some formatter renders the node's text. -/
theorem exists_renders {α : Type} [Assemble α Assembled] {a : α} {n : Node Assembled}
    (h : (Assemble.script a).Forms n none) (hfail : Encounter.failure? n.encounters = none)
    (style : Style) (before : Nat) :
    ∃ g : Formatter, g.style = style
      ∧ (g.renderStatement a).1 = .ok (n.text style before) := by
  let g : Formatter := ⟨style, { params := List.replicate before Value.null }⟩
  obtain ⟨hspec, -⟩ := g.renderStatement_spec a h
  have hcount : g.params.length = before := List.length_replicate
  refine ⟨g, rfl, ?_⟩
  rw [hspec, Encounter.outcome_of_none hfail, hcount]

end Formatter

namespace Tree

variable (tree : Tree Assembled) (config : RenderConfig)

theorem render_value :
    (tree.render config).value = ((Formatter.new .literal config).renderTree tree).1 := by
  unfold render
  split
  · rename_i h
    rw [h]
  · rename_i h
    rw [h]

theorem renderPrepared_value :
    (tree.renderPrepared config).value
      = ((Formatter.new .prepared config).renderTree tree).1.map fun sql =>
          ⟨sql, ((Formatter.new .prepared config).renderTree tree).2.params⟩ := by
  unfold renderPrepared
  split
  · rename_i h
    rw [h]
    rfl
  · rename_i h
    rw [h]
    rfl

end Tree

end SqlBuilder
