import SqlBuilder.Proofs.Rendering.Text

/-!
# The text of literal SQL

Literal SQL has no numbers in it, so the text of an expression or of a node is put
together from the texts of its parts, wherever they stand (`Node.literalText_eq`
and the equations before it). Whether it can be rendered at all is decided by its
parts too (`Node.complete_iff`).
-/

namespace SqlBuilder

/-- Every slot holds the literal of its value. -/
def literalFilling : Filling := fun _ value => value.literal

/-- A literal does not tell its number. -/
theorem Template.fill_literal_shift (n : Nat) (t : Template) :
    fill literalFilling (shift n t) = fill literalFilling t :=
  fill_shift literalFilling n t

theorem Template.map_fill_literal_shift (n : Nat) (ts : List Template) :
    (ts.map (shift n)).map (fill literalFilling) = ts.map (fill literalFilling) := by
  rw [List.map_map]
  exact List.map_congr_left fun t _ => fill_literal_shift n t

theorem Template.literalFilling_shows : Shows literalFilling :=
  fun _ value => value.literal_ne_empty

section Texts

variable (config : RenderConfig)

def Assembled.literalText (a : Assembled) : String := (a.template config).fill literalFilling

def Node.literalText (n : Node Assembled) : String := (n.template config).fill literalFilling

def Token.literalText (t : Token Assembled) : String := (t.template config).fill literalFilling

def Expression.literalText (e : Expression Assembled) : String :=
  (e.template config).fill literalFilling

/-- The numbers in front of a part do not matter, so that each part has a text by itself. -/
theorem Expression.map_fill_templates (es : List (Expression Assembled)) :
    (Expression.templates config es).map (Template.fill literalFilling)
      = es.map (Expression.literalText config) := by
  induction es with
  | nil => rfl
  | cons e rest ih =>
      rw [templates, List.map_cons, Template.map_fill_literal_shift, ih]
      rfl

theorem Token.map_fill_templates (ts : List (Token Assembled)) :
    (Token.templates config ts).map (Template.fill literalFilling)
      = ts.map (Token.literalText config) := by
  induction ts with
  | nil => rfl
  | cons t rest ih =>
      rw [templates, List.map_cons, Template.map_fill_literal_shift, ih]
      rfl

theorem Node.map_fill_templates (nodes : List (Node Assembled)) :
    (Node.templates config nodes).map (Template.fill literalFilling)
      = nodes.map (Node.literalText config) := by
  induction nodes with
  | nil => rfl
  | cons n rest ih =>
      rw [templates, List.map_cons, Template.map_fill_literal_shift, ih]
      rfl

/-! ## Texts of expressions -/

theorem Expression.literalText_text (content : String) (style : TextStyle) (suffix : Suffix) :
    literalText config (.text content style suffix)
      = suffix.attach (style.layout config content) := by
  rw [literalText, template, Template.fill_attach, Template.fill_cons, Template.fill_nil,
    String.append_empty]
  rfl

theorem Expression.literalText_value (v : Value) (suffix : Suffix) :
    literalText config (.value v suffix) = suffix.attach v.literal := by
  have hvalue : (Template.ofValue v).fill literalFilling = v.literal := by
    unfold Template.ofValue
    split <;> simp [Piece.fill, literalFilling]
  rw [literalText, template, Template.fill_attach, hvalue]

theorem Expression.literalText_list (es : List (Expression Assembled)) (suffix : Suffix) :
    literalText config (.list es suffix)
      = suffix.attach (parenthesize (commaSeparated (es.map (literalText config)))) := by
  rw [literalText, template, Template.fill_attach, Template.fill_parenthesize,
    Template.fill_intercalate, map_fill_templates, commaSeparated]

theorem Expression.literalText_array (es : List (Expression Assembled)) (suffix : Suffix) :
    literalText config (.array es suffix)
      = suffix.attach (arrayLiteral (es.map (literalText config))) := by
  rw [literalText, template, Template.fill_attach, Template.fill_array, map_fill_templates]

theorem Expression.literalText_call (name : String) (arguments : List (Expression Assembled))
    (suffix : Suffix) :
    literalText config (.call name arguments suffix)
      = suffix.attach (callText name arguments (arguments.map (literalText config))
          suffix.aliased.isSome) := by
  rw [literalText, template, Template.fill_attach, Template.fill_call, map_fill_templates]

theorem Expression.literalText_nested (a : Assembled) (suffix : Suffix) :
    literalText config (.nested a suffix)
      = suffix.attach (parenthesize (a.literalText config)) := by
  rw [literalText, template, Template.fill_attach, Template.fill_parenthesize]
  rfl

/-! ## Texts of nodes -/

theorem Token.literalText_keyword (word : String) : literalText config (.keyword word) = word := by
  simp [literalText, template, Piece.fill]

theorem Token.literalText_operator (word : String) :
    literalText config (.operator word) = word := by
  simp [literalText, template, Piece.fill]

theorem Token.literalText_expression (e : Expression Assembled) :
    literalText config (.expression e) = e.literalText config := rfl

/-- A node is laid out from the texts of its leaves, its token and its children. -/
theorem Node.literalText_eq : ∀ (m : Metadata Assembled) (leaves : List (Token Assembled))
    (children : List (Node Assembled)) (delimiter : String),
    literalText config ⟨m, leaves, children, delimiter⟩
      = m.layout delimiter (leaves.map (Token.literalText config))
          (m.token.map (Token.literalText config)) (children.map (literalText config))
  | ⟨token, position, parentheses, joinNodes⟩, leaves, children, delimiter => by
      rw [literalText, template, Template.fill_layout Template.literalFilling_shows,
        Token.map_fill_templates, Template.map_fill_literal_shift, map_fill_templates]
      cases token with
      | none => rfl
      | some token =>
          rw [Token.templateOption, Option.map_some, Option.map_some,
            Template.fill_literal_shift]
          rfl

end Texts

/-! ## What can be rendered -/

/-- All subqueries have roots. -/
def Assembled.Complete (a : Assembled) : Prop := Encounter.failure? a.encounters = none

def Node.Complete (n : Node Assembled) : Prop := Encounter.failure? n.encounters = none

def Token.Complete (t : Token Assembled) : Prop := Encounter.failure? t.encounters = none

def Expression.Complete (e : Expression Assembled) : Prop :=
  Encounter.failure? e.encounters = none

theorem Expression.completeAll_iff (es : List (Expression Assembled)) :
    Encounter.failure? (Expression.encountersAll es) = none ↔ ∀ e ∈ es, e.Complete := by
  induction es with
  | nil => simp [encountersAll, Encounter.failure?]
  | cons e rest ih =>
      rw [encountersAll, Encounter.failure?_append_eq_none, ih, List.forall_mem_cons]
      rfl

theorem Token.completeAll_iff (ts : List (Token Assembled)) :
    Encounter.failure? (Token.encountersAll ts) = none ↔ ∀ t ∈ ts, t.Complete := by
  induction ts with
  | nil => simp [encountersAll, Encounter.failure?]
  | cons t rest ih =>
      rw [encountersAll, Encounter.failure?_append_eq_none, ih, List.forall_mem_cons]
      rfl

theorem Node.completeAll_iff (nodes : List (Node Assembled)) :
    Encounter.failure? (Node.encountersAll nodes) = none ↔ ∀ n ∈ nodes, n.Complete := by
  induction nodes with
  | nil => simp [encountersAll, Encounter.failure?]
  | cons n rest ih =>
      rw [encountersAll, Encounter.failure?_append_eq_none, ih, List.forall_mem_cons]
      rfl

theorem Expression.complete_value (v : Value) (suffix : Suffix) :
    Complete (.value v suffix) := by
  unfold Complete encounters Encounter.ofValue
  split <;> rfl

/-- A node can be rendered if all its parts can. -/
theorem Node.complete_iff : ∀ (m : Metadata Assembled) (leaves : List (Token Assembled))
    (children : List (Node Assembled)) (delimiter : String),
    Complete ⟨m, leaves, children, delimiter⟩
      ↔ (∀ t ∈ leaves, t.Complete) ∧ (∀ t ∈ m.token, t.Complete) ∧ ∀ n ∈ children, n.Complete
  | ⟨token, position, parentheses, joinNodes⟩, leaves, children, delimiter => by
      have htoken : Encounter.failure? (Token.encountersOption token) = none
          ↔ ∀ t ∈ token, t.Complete := by
        cases token with
        | none => exact iff_of_true rfl nofun
        | some t => simp [Token.encountersOption, Token.Complete]
      rw [Complete, encounters, Encounter.failure?_append_eq_none,
        Encounter.failure?_append_eq_none, Token.completeAll_iff, Node.completeAll_iff, htoken,
        and_assoc]

/-- When a node is rendered as literal SQL, and to what. -/
theorem Formatter.renderNode_literal {config : RenderConfig} {n : Node Assembled}
    {text : String} :
    ((Formatter.new .literal config).renderNode n).1 = .ok text
      ↔ n.Complete ∧ n.literalText config = text := by
  obtain ⟨hspec, -⟩ := (Formatter.new .literal config).renderNode_spec n
  rw [hspec]
  exact Encounter.outcome_eq_ok

end SqlBuilder
