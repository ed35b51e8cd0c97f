import SqlBuilder.Proofs.Rendering.Numbering
import SqlBuilder.Proofs.Rendering.Text

/-!
# Literal and prepared rendering agree

Rendering gives the outcome of a walk, and a filled template if nothing fails
(`Formatter.run_of_denotes`). The walk and the template know nothing of the mode,
so both modes fail alike, or both fill the same template (`modes_agree`).
-/

namespace SqlBuilder

/-- The walk of a tree: that of its root, or the reason why it has none. -/
def Tree.encounters (tree : Tree Assembled) : List Encounter :=
  match tree.root with
  | .ok root => root.encounters
  | .error e => [.failure e]

/-- The template of a tree; of no account if it has no root. -/
def Tree.template (config : RenderConfig) (tree : Tree Assembled) : Template :=
  match tree.root with
  | .ok root => root.template config
  | .error _ => []

theorem Formatter.renderTree_spec (f : Formatter) (tree : Tree Assembled) :
    (f.renderTree tree).1 = Encounter.outcome tree.encounters
        ((tree.template f.style.config).fill (f.style.filling f.params.length))
      ∧ (f.renderTree tree).2.params = f.params ++ f.style.collects tree.encounters := by
  unfold renderTree Tree.encounters Tree.template
  cases tree.root with
  | ok root => exact f.renderNode_spec root
  | error e =>
      refine ⟨rfl, ?_⟩
      rw [f.style.collects_failure, List.append_nil]

namespace Tree

variable (tree : Tree Assembled) (config : RenderConfig)

/-- The literal SQL of a tree: its template, with the values in the slots. -/
theorem render_outcome :
    (tree.render config).value
      = Encounter.outcome tree.encounters ((tree.template config).fill fun _ v => v.literal) := by
  rw [render_value]
  exact (Formatter.renderTree_spec _ tree).1

/-- The prepared SQL of a tree: its template with placeholders in the slots, and the
parameters that are met. -/
theorem renderPrepared_outcome :
    (tree.renderPrepared config).value
      = Encounter.outcome tree.encounters
          ⟨(tree.template config).fill fun index _ => config.placeholderStyle.placeholder index,
            Encounter.parameters tree.encounters⟩ := by
  obtain ⟨hresult, hparams⟩ := (Formatter.new .prepared config).renderTree_spec tree
  have hplaces : Style.filling ⟨.prepared, config⟩ 0
      = fun index _ => config.placeholderStyle.placeholder index := by
    funext index value
    exact congrArg config.placeholderStyle.placeholder (Nat.zero_add index)
  rw [renderPrepared_value, hresult, hparams, Encounter.map_outcome, ← hplaces]
  rfl

end Tree

/-- A statement meets what its tree meets. -/
theorem Assembled.encounters_ofScript (s : Script Assembled) :
    (Assembled.ofScript s).encounters = (Tree.run {} s).encounters := by
  unfold Assembled.ofScript Tree.encounters
  cases (Tree.run {} s).root <;> rfl

theorem Assembled.template_ofScript (config : RenderConfig) (s : Script Assembled) :
    (Assembled.ofScript s).template config = (Tree.run {} s).template config := by
  unfold Assembled.ofScript Tree.template
  cases (Tree.run {} s).root <;> rfl

/-- Rendering something with formatters of one configuration, along one walk.
If the walk meets a failure, both modes fail with the first one. If not, there
is one template whose slots are the parameters of the walk, each under its own
number. Literal mode puts literals into the slots and collects nothing;
prepared mode puts in placeholders, counted on from the parameters it already
holds, and appends the parameters in the order of their numbers. -/
structure ModesAgree (config : RenderConfig) (xs : List Encounter)
    (render : Formatter → Except BuilderError String × Formatter) : Prop where
  fail : ∀ e, Encounter.failure? xs = some e →
    ∀ f : Formatter, f.style.config = config → (render f).1 = .error e
  succeed : Encounter.failure? xs = none →
    ∃ t : Template, t.slots.Perm ((Encounter.parameters xs).zipIdx 1)
      ∧ (∀ f : Formatter, f.style = ⟨.literal, config⟩ →
          (render f).1 = .ok (t.fill fun _ value => value.literal)
          ∧ (render f).2.params = f.params)
      ∧ (∀ f : Formatter, f.style = ⟨.prepared, config⟩ →
          (render f).1 = .ok (t.fill fun index _ =>
            config.placeholderStyle.placeholder (f.params.length + index))
          ∧ (render f).2.params = f.params ++ Encounter.parameters xs)
  identical : Encounter.parameters xs = [] →
    ∀ f g : Formatter, f.style = ⟨.literal, config⟩ → g.style = ⟨.prepared, config⟩ →
      (render f).1 = (render g).1

namespace ModesAgree

theorem of_denotes {config : RenderConfig} {xs : List Encounter} {t : Template}
    {act : Style → Render String} {orderly : Prop}
    (hact : ∀ style : Style, style.config = config →
      Denotes style (act style) xs fun before => t.fill (style.filling before))
    (hslots : Carries orderly t.slots xs) :
    ModesAgree config xs (fun f => f.run act) := by
  have hrun := fun (f : Formatter) (hf : f.style.config = config) =>
    f.run_of_denotes (hact f.style hf)
  refine ⟨?_, ?_, ?_⟩
  · intro e he f hf
    rw [(hrun f hf).1, Encounter.outcome, he]
  · intro hxs
    refine ⟨t, (hslots hxs).1, ?_, ?_⟩
    · rintro ⟨style, collected⟩ rfl
      obtain ⟨hout, hparams⟩ := hrun ⟨⟨.literal, config⟩, collected⟩ rfl
      rw [hout, hparams, Encounter.outcome_of_none hxs]
      exact ⟨rfl, List.append_nil _⟩
    · rintro ⟨style, collected⟩ rfl
      obtain ⟨hout, hparams⟩ := hrun ⟨⟨.prepared, config⟩, collected⟩ rfl
      rw [hout, hparams, Encounter.outcome_of_none hxs]
      exact ⟨rfl, rfl⟩
  · intro hparams f g hf hg
    rw [(hrun f (by rw [hf])).1, (hrun g (by rw [hg])).1]
    cases hxs : Encounter.failure? xs with
    | some e => simp only [Encounter.outcome, hxs]
    | none =>
        have hnone : t.slots = [] := by
          have h := (hslots hxs).1
          rw [Encounter.numbered, hparams] at h
          exact h.eq_nil
        rw [t.fill_congr_of_slots_eq_nil hnone]

end ModesAgree

/-- Literal and prepared rendering agree on every expression, node, tree and
statement. -/
theorem modes_agree (config : RenderConfig) :
    (∀ e : Expression Assembled, ModesAgree config e.encounters fun f => f.run (e.render ·))
    ∧ (∀ node : Node Assembled, ModesAgree config node.encounters fun f => f.renderNode node)
    ∧ (∀ tree : Tree Assembled, ModesAgree config tree.encounters fun f => f.renderTree tree)
    ∧ (∀ (α : Type) [Assemble α Assembled] (statement : α),
        ModesAgree config (Assembled.ofScript (Assemble.script statement)).encounters
          fun f => f.renderStatement statement) := by
  have hnode : ∀ node : Node Assembled,
      ModesAgree config node.encounters fun f => f.renderNode node := fun node =>
    .of_denotes (fun style hstyle => hstyle ▸ node.denotes style) (node.carries config)
  refine ⟨?_, hnode, ?_, ?_⟩
  · intro e
    exact .of_denotes (fun style hstyle => hstyle ▸ e.denotes style) (e.carries config)
  · intro tree
    unfold Tree.encounters Formatter.renderTree
    cases tree.root with
    | ok root => exact hnode root
    | error e =>
        refine ⟨?_, ?_, ?_⟩
        · intro e' he f _
          cases he
          rfl
        · intro h
          cases h
        · intros
          rfl
  · intro α _ statement
    exact .of_denotes (fun style hstyle => hstyle ▸ Assembled.denotes style _)
      (Assembled.carries config _)

end SqlBuilder
