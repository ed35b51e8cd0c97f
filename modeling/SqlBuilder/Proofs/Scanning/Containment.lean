import SqlBuilder.Proofs.Scanning.Statements

/-!
# String data stays inside its quotes

Whatever is written as it is being neutral, the literal text of a statement is
neutral, and every text value and every string constant in it, those in arrays and
in subqueries included, stands between its quotes in a text that does not depend on
it (`strings_stay_quoted`). The induction is over the subqueries (`Statement.safe`).
-/

namespace SqlBuilder

/-- Builders by the text of their node; a rejected builder has none. -/
def Reading.builder (config : RenderConfig) : Reading (Builder Assembled) :=
  .single (fun b => b.rejection = none ∧ b.node.Complete) fun b => b.node.literalText config

section Builders

variable {σ : Type} {config : RenderConfig} {f : σ → Marked Assembled}

namespace Safe

/-- A builder that is not rejected is as safe as its node. -/
theorem builder {α : Type} {m : Marked α} {g : α → Builder Assembled}
    (h : Safe (.node config fun a => (g a).node) m)
    (hrejection : m.Always fun a => (g a).rejection = none) :
    Safe (.builder config) (m.map g) :=
  .map (h.congr (hrejection.mono fun _ ha => ⟨and_iff_right ha, fun _ => rfl⟩))

/-- A builder as a subquery. -/
theorem assembled {m : Marked (Builder Assembled)} (h : Safe (.builder config) m) :
    Safe (.assembled config) (m.map fun b => .ofScript b.script) := by
  refine .map (h.congr (.of_forall (fun b => ?_) m))
  have hassembled := b.forms.assembled
  cases hrejection : b.rejection with
  | none =>
      rw [hrejection] at hassembled
      simp only [Reading.comap, Reading.assembled, Reading.builder, Reading.single, hassembled]
      exact ⟨(and_iff_right hrejection).symm, fun _ => rfl⟩
  | some reason =>
      have hrejected : ¬b.rejection = none := by simp [hrejection]
      refine ⟨iff_of_false ?_ fun hok => hrejected hok.1, fun hok => absurd hok.1 hrejected⟩
      simp only [Reading.comap, Reading.assembled, Reading.single, hassembled, hrejection]
      exact Option.some_ne_none _

end Safe

theorem Builder.safe (hf : ∀ i, Safe (.assembled config) (f i)) : ∀ b : Builder σ,
    Safe (.builder config) (b.marked config f)
  | .select s => (s.safe hf).builder (.of_forall (fun _ => rfl) _)
  | .insert i => (i.safe hf).builder (.of_forall (fun _ => rfl) _)
  | .update u => by
      rw [Builder.marked]
      cases hrejection : u.rejection with
      | none =>
          exact (u.safe hf).builder (u.always_rejection.mono fun _ h => h.trans hrejection)
      | some reason =>
          -- A rejected update is never written, whatever its strings are.
          intro _ hok
          have hwhole : (u.marked config f).whole.rejection = u.rejection := u.always_rejection.1
          exact absurd (hrejection.symm.trans (hwhole.symm.trans hok.1)) (Option.some_ne_none _)
  | .delete d => (d.safe hf).builder (.of_forall (fun _ => rfl) _)
  | .with_ isRecursive expressions none => by
      have hnone : Safe (.nodes config fun _ : Unit => []) (.pure ()) := .blank rfl
      have hnodes := (With.safe_expressionNodes hf isRecursive expressions).appendFixed hnone
      rw [Builder.marked]
      exact (hnodes.around false).builder (.of_forall (fun _ => rfl) _)
  | .with_ isRecursive expressions (some body) => by
      have hnodes := (With.safe_expressionNodes hf isRecursive expressions).pair
        ((body.safe hf).through Keeps.shown)
      rw [Builder.marked]
      refine (hnodes.through (Keeps.intercalate (by decide : Neutral " "))).mapEq
        (fun p => ?_) fun p => ?_
      · have hnode : (Builder.with_ isRecursive p.1 (some p.2)).node.Complete
            ↔ (∀ n ∈ With.expressionNodes { isRecursive, expressions := p.1 }, n.Complete)
              ∧ p.2.node.Complete :=
          (Node.complete_around _ _ _ false).trans <|
            (and_iff_right (List.forall_mem_nil _)).trans <|
              List.forall_mem_append.trans (and_congr_right' List.forall_mem_singleton)
        exact (and_congr_right' hnode).trans and_left_comm
      · refine congrArg ([·]) ((Node.literalText_around _ _ _ config false).trans ?_)
        simp [Reading.builder, joinedItems]
  | .commonTable c => (c.safe hf).builder (.of_forall (fun _ => rfl) _)
  | .join j => (j.safe hf).builder (.of_forall (fun _ => rfl) _)
  | .orderElement o => (o.safe hf).builder (.of_forall (fun _ => rfl) _)
  | .conditions c => (c.safe hf).builder (.of_forall (fun _ => rfl) _)

end Builders

theorem Statement.safe (config : RenderConfig) : ∀ s : Statement,
    Safe (.builder config) (s.marked config)
  | ⟨_, builder, nested⟩ => builder.safe fun i => ((nested i).safe config).assembled

/-! ## Rendering -/

theorem Builder.render_eq_ok {b : Builder Assembled} {config : RenderConfig} {text : String} :
    (render b config).value = .ok text
      ↔ (b.rejection = none ∧ b.node.Complete) ∧ b.node.literalText config = text := by
  rw [b.render_value]
  cases b.rejection with
  | none => simp [Formatter.renderNode_literal]
  | some reason => simp

theorem stringConstant_eq (s : String) :
    stringConstant s = "'" ++ String.ofList (Quoted.double '\'' s.toList) ++ "'" := by
  rw [← String.toList_inj]
  simp [stringConstant, quoted]

/-- Whatever string stands in the place, literal SQL shows it between quotes, with its
quotes doubled, in a text that is always the same. A scanner is outside where the
constant begins and where it ends. -/
def Place.StaysQuoted (config : RenderConfig) (p : Place (Builder Assembled)) : Prop :=
  ∃ before after, Neutral before ∧ Neutral after ∧ ∀ string,
    let constant := "'" ++ String.ofList (Quoted.double '\'' string.toList) ++ "'"
    Neutral (before ++ constant)
      ∧ (render (p.put string) config).value = .ok (before ++ constant ++ after)

/-- If everything that is written without quotes leaves a scanner outside, and there
are no dollar-quoted strings, then the literal text of a statement leaves it outside,
and every text value and every string constant in the statement stays quoted. -/
theorem strings_stay_quoted (s : Statement) (config : RenderConfig) (text : String)
    (hraw : ∀ t ∈ (s.marked config).raw, Neutral t)
    (hdollar : (s.marked config).dollarStrings = [])
    (h : (render s config).value = .ok text) :
    Neutral text
      ∧ ∀ p ∈ (s.marked config).strings, p.put p.content = s.outline ∧ p.StaysQuoted config := by
  have hwhole := s.whole_marked config
  have hrender : (render (s.marked config).whole config).value = .ok text := hwhole ▸ h
  obtain ⟨hok, htext⟩ := Builder.render_eq_ok.mp hrender
  obtain ⟨hneutral, hstrings⟩ := s.safe config ⟨hraw, hdollar⟩ hok
  refine ⟨htext ▸ List.forall_mem_singleton.mp hneutral, fun p hp => ?_⟩
  obtain ⟨hokp, hholds⟩ := hstrings p hp
  refine ⟨((s.marked config).put_content p hp).trans hwhole, ?_⟩
  obtain ⟨before, after, hbefore, hafter, hconstant⟩ := hholds.single
  refine ⟨before, after, hbefore, hafter, fun string => ?_⟩
  simp only
  rw [← stringConstant_eq]
  refine ⟨hbefore.append (neutral_stringConstant string), ?_⟩
  exact Builder.render_eq_ok.mpr ⟨hokp string, hconstant string⟩

/-- Quotes in a string constant, in an array, in the name of a table, and in a text of
a subquery. -/
def Statement.quotesEverywhere : Statement :=
  let text (s : String) : Value := .scalar (.text s)
  let named : Statement :=
    ⟨0, .select
      { outputs := [.column "id"]
        sources := [.column "users"]
        restriction := some (.compare (.column "name") "=" (.value (text "O'Brien"))) },
      Fin.elim0⟩
  ⟨1, .select
    { outputs := [.string "it's", .value (.array [text "'; --", text ""])]
      sources := [.column "rock'n'roll"]
      restriction := some (.inside (.column "id") (.nested (Fin.last 0))) },
    fun _ => named⟩

theorem strings_stay_quoted_everywhere :
    ∃ text, (render Statement.quotesEverywhere .postgres).value = .ok text
      ∧ text = "SELECT 'it''s', ARRAY['''; --', ''] FROM \"rock'n'roll\" "
          ++ "WHERE \"id\" IN (SELECT \"id\" FROM \"users\" WHERE \"name\" = 'O''Brien')"
      ∧ (Statement.quotesEverywhere.marked .postgres).strings.map Place.content
          = ["it's", "'; --", "", "O'Brien"]
      ∧ Neutral text
      ∧ ∀ p ∈ (Statement.quotesEverywhere.marked .postgres).strings,
          p.put p.content = Statement.quotesEverywhere.outline ∧ p.StaysQuoted .postgres :=
  ⟨_, rfl, by decide, rfl,
    strings_stay_quoted Statement.quotesEverywhere .postgres _ (by decide) rfl rfl⟩

end SqlBuilder
