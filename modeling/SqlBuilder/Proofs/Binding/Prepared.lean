import Mathlib.Data.List.Forall2
import SqlBuilder.Postgres.Prepare
import SqlBuilder.Proofs.Nesting.Statement
import SqlBuilder.Proofs.Rendering.Modes

/-!
# Prepared statements and their parameters

A parameter list holds its values one by one, and the only values that it can
refuse are arrays (`PgParams.bindValue_cases`). So binding either holds all values or
stops at the first array that is refused, and tells its index
(`PgParams.bindFrom_cases`). The index is that of a placeholder: the slots of a
statement of builders are numbered as they stand in the text
(`Statement.slots_template`), so text and parameters of what is prepared match
(`prepared_parameters_match`).
-/

namespace SqlBuilder

/-! ## Binding -/

/-- The parameter is made of the value. -/
inductive PgParam.Holds : PgParam → Value → Prop where
  | scalar (s : Scalar) : Holds (.scalar s) (.scalar s)
  | array {elements : List Value} {a : PgArray} (h : PgArray.ofValues elements = .ok a) :
      Holds (.array a) (.array elements)

namespace PgParams

/-- All arrays among the values can be made. -/
def Accepts (values : List Value) : Prop :=
  ∀ elements, .array elements ∈ values → ∃ a, PgArray.ofValues elements = .ok a

theorem Accepts.cons {p : PgParam} {v : Value} {rest : List Value} (hp : p.Holds v)
    (hrest : Accepts rest) : Accepts (v :: rest) := by
  intro elements hmem
  rcases List.mem_cons.mp hmem with rfl | hmem
  · cases hp with
    | array harray => exact ⟨_, harray⟩
  · exact hrest elements hmem

theorem accepts_of_holds {params : PgParams} {values : List Value}
    (h : List.Forall₂ PgParam.Holds params values) : Accepts values := by
  induction h with
  | nil => exact nofun
  | cons hp _ ih => exact ih.cons hp

/-- What a step does: it adds a parameter made of the value, or refuses an array and adds
nothing. -/
theorem bindValue_cases (index : Nat) (v : Value) (params : PgParams) :
    let attempt := target.bindValue index v params
    (∃ p, PgParam.Holds p v ∧ attempt.result = .ok () ∧ attempt.state = params ++ [p])
    ∨ ∃ elements reason, v = .array elements ∧ PgArray.ofValues elements = .error reason
        ∧ attempt.result = .error (.arrayConstruction reason) ∧ attempt.state = params := by
  cases v with
  | scalar s =>
      refine Or.inl ⟨.scalar s, .scalar s, ?_⟩
      cases s <;> exact ⟨rfl, rfl⟩
  | array elements =>
      simp only [BindTarget.bindValue, target, pushArray]
      cases h : PgArray.ofValues elements with
      | ok a => exact Or.inl ⟨.array a, .array h, rfl, rfl⟩
      | error reason => exact Or.inr ⟨elements, reason, rfl, h, rfl, rfl⟩

/-- Binding values in turn holds them all, or fails at the first array that is refused and
holds the values before it. -/
theorem bindFrom_cases (bound : Nat) (values : List Value) (params : PgParams) :
    let attempt := target.bindFrom bound values params
    (∃ held, List.Forall₂ PgParam.Holds held values
        ∧ attempt.result = .ok () ∧ attempt.state = params ++ held)
    ∨ ∃ before elements behind reason held, values = before ++ .array elements :: behind
        ∧ List.Forall₂ PgParam.Holds held before ∧ attempt.state = params ++ held
        ∧ PgArray.ofValues elements = .error reason
        ∧ attempt.result
            = .error ⟨bound + before.length + 1, .array, .arrayConstruction reason⟩ := by
  induction values generalizing bound params with
  | nil => exact Or.inl ⟨[], .nil, rfl, (List.append_nil _).symm⟩
  | cons v rest ih =>
      intro attempt
      rcases bindValue_cases (bound + 1) v params with
        ⟨p, hp, hresult, hstate⟩ | ⟨elements, reason, rfl, hrefused, hresult, hstate⟩
      · have hattempt : attempt.result = (target.bindFrom (bound + 1) rest (params ++ [p])).result
            ∧ attempt.state = (target.bindFrom (bound + 1) rest (params ++ [p])).state := by
          simp only [attempt, BindTarget.bindFrom, hresult, hstate, and_self]
        obtain ⟨hr, hs⟩ := hattempt
        rw [hr, hs]
        rcases ih (bound + 1) (params ++ [p]) with
          ⟨held, hheld, hok, hall⟩
          | ⟨before, elements, behind, reason, held, rfl, hheld, hkept, hrefused, he⟩
        · refine Or.inl ⟨p :: held, .cons hp hheld, hok, ?_⟩
          rw [hall, List.append_assoc, List.singleton_append]
        · refine Or.inr ⟨v :: before, elements, behind, reason, p :: held, rfl, .cons hp hheld,
            ?_, hrefused, ?_⟩
          · rw [hkept, List.append_assoc, List.singleton_append]
          · rw [he, List.length_cons, Nat.add_assoc bound 1, Nat.add_comm 1]
      · refine Or.inr ⟨[], elements, rest, reason, [], rfl, .nil, ?_, hrefused, ?_⟩
        · simp only [attempt, BindTarget.bindFrom, hresult, hstate, List.append_nil]
        · simp only [attempt, BindTarget.bindFrom, hresult]
          rfl

end PgParams

/-- The parameters of some values are made of them one by one, unless an array is refused:
then the first such array is told. -/
theorem PgParams.ofValues_cases (values : List Value) :
    (∃ params, List.Forall₂ PgParam.Holds params values
        ∧ (PgParams.ofValues values).value = .ok params)
    ∨ ∃ before elements behind reason, values = before ++ .array elements :: behind
        ∧ Accepts before ∧ PgArray.ofValues elements = .error reason
        ∧ (PgParams.ofValues values).value
            = .error ⟨before.length + 1, .array, .arrayConstruction reason⟩ := by
  unfold PgParams.ofValues BindTarget.bindParameters
  rcases bindFrom_cases 0 values [] with
    ⟨held, hheld, hok, hall⟩ | ⟨before, elements, behind, reason, held, rfl, hheld, -, hrefused, he⟩
  · refine Or.inl ⟨held, hheld, ?_⟩
    simp only [hok, hall, List.nil_append]
    rfl
  · refine Or.inr ⟨before, elements, behind, reason, rfl, accepts_of_holds hheld, hrefused, ?_⟩
    simp only [he, Nat.zero_add]
    rfl

/-! ## Rendering and binding -/

/-- The slots of a statement of builders hold the values that are met, numbered from one
in the order of the text. -/
theorem Statement.slots_template (s : Statement) (config : RenderConfig)
    (h : Encounter.failure? (Tree.of s).encounters = none) :
    ((Tree.of s).template config).slots
      = (Encounter.parameters (Tree.of s).encounters).zipIdx 1 := by
  have hcarries := s.assembled.carries config
  rw [s.assembled_eq, Assembled.encounters_ofScript, Assembled.template_ofScript] at hcarries
  have horderly := s.orderly
  rw [s.assembled_eq] at horderly
  obtain ⟨-, hslots⟩ := hcarries h
  exact hslots horderly

/-- The configuration that counts when a statement is prepared. -/
def RenderConfig.numbered (config : RenderConfig) : RenderConfig :=
  { config with placeholderStyle := .numbered }

section PrepareWith

variable {α : Type} [Assemble α Assembled] {statement : α} {config : RenderConfig}

theorem prepareWith_of_error {e : BuilderError}
    (h : (renderPrepared statement config.numbered).value = .error e) :
    prepareWith statement config
      = ⟨.error (.builder e), (renderPrepared statement config.numbered).log⟩ := by
  simp only [prepareWith, RenderConfig.numbered] at h ⊢
  rw [h]

theorem prepareWith_of_ok {p : PreparedStatement}
    (h : (renderPrepared statement config.numbered).value = .ok p) :
    (prepareWith statement config).value
      = match (PgParams.ofValues p.params).value with
        | .ok params => .ok ⟨p.sql, params⟩
        | .error e => .error (.bind e) := by
  simp only [prepareWith, RenderConfig.numbered] at h ⊢
  rw [h]
  dsimp only
  cases (PgParams.ofValues p.params).value <;> rfl

/-- Preparing fails where rendering fails, before anything is bound; else it holds all
parameters or stops at the first array that is refused. -/
theorem prepareWith_cases (statement : α) (config : RenderConfig) :
    let rendered := renderPrepared statement config.numbered
    let prepared := prepareWith statement config
    (∃ e, rendered.value = .error e ∧ prepared = ⟨.error (.builder e), rendered.log⟩)
    ∨ (∃ p params, rendered.value = .ok p ∧ List.Forall₂ PgParam.Holds params p.params
        ∧ prepared.value = .ok ⟨p.sql, params⟩)
    ∨ ∃ p before elements behind reason, rendered.value = .ok p
        ∧ p.params = before ++ .array elements :: behind ∧ PgParams.Accepts before
        ∧ PgArray.ofValues elements = .error reason
        ∧ prepared.value
            = .error (.bind ⟨before.length + 1, .array, .arrayConstruction reason⟩) := by
  intro rendered prepared
  cases hrendered : rendered.value with
  | error e => exact Or.inl ⟨e, rfl, prepareWith_of_error hrendered⟩
  | ok p =>
      have hprepared : prepared.value = _ := prepareWith_of_ok hrendered
      rcases PgParams.ofValues_cases p.params with
        ⟨params, hparams, hbound⟩
        | ⟨before, elements, behind, reason, hp, hbefore, hrefused, hbound⟩
      · rw [hbound] at hprepared
        exact Or.inr (Or.inl ⟨p, params, rfl, hparams, hprepared⟩)
      · rw [hbound] at hprepared
        exact Or.inr (Or.inr ⟨p, before, elements, behind, reason, rfl, hp, hbefore, hrefused,
          hprepared⟩)

theorem exists_prepareWith_eq_ok :
    (∃ prepared, (prepareWith statement config).value = .ok prepared)
      ↔ ∃ p, (renderPrepared statement config.numbered).value = .ok p
          ∧ PgParams.Accepts p.params := by
  rcases prepareWith_cases statement config with
    ⟨e, hfail, hstop⟩ | ⟨p, params, hrendered, hparams, hok⟩
    | ⟨p, before, elements, behind, reason, hrendered, hp, -, hrefused, hstop⟩
  · rw [hfail, hstop]
    exact ⟨nofun, nofun⟩
  · exact ⟨fun _ => ⟨p, hrendered, PgParams.accepts_of_holds hparams⟩, fun _ => ⟨_, hok⟩⟩
  · rw [hrendered, hstop]
    refine ⟨nofun, ?_⟩
    rintro ⟨_, ⟨⟩, haccepts⟩
    have hmem : .array elements ∈ p.params := by
      rw [hp]
      exact List.mem_append_right _ (List.mem_cons_self ..)
    obtain ⟨a, ha⟩ := haccepts elements hmem
    cases hrefused.symm.trans ha

theorem prepareWith_eq_ok {prepared : PgStatement}
    (h : (prepareWith statement config).value = .ok prepared) :
    ∃ values, (renderPrepared statement config.numbered).value = .ok ⟨prepared.sql, values⟩
      ∧ List.Forall₂ PgParam.Holds prepared.params values := by
  rcases prepareWith_cases statement config with
    ⟨e, -, hstop⟩ | ⟨p, params, hrendered, hparams, hok⟩
    | ⟨p, before, elements, behind, reason, -, -, -, -, hstop⟩
  · rw [hstop] at h
    cases h
  · obtain rfl := Except.ok.inj (hok.symm.trans h)
    exact ⟨p.params, hrendered, hparams⟩
  · cases hstop.symm.trans h

theorem prepareWith_eq_error {p : PreparedStatement} {e : PrepareError}
    (hrendered : (renderPrepared statement config.numbered).value = .ok p)
    (h : (prepareWith statement config).value = .error e) :
    ∃ before elements behind reason, p.params = before ++ .array elements :: behind
      ∧ PgParams.Accepts before ∧ PgArray.ofValues elements = .error reason
      ∧ e = .bind ⟨before.length + 1, .array, .arrayConstruction reason⟩ := by
  rcases prepareWith_cases statement config with
    ⟨e', hfail, -⟩ | ⟨q, params, -, -, hok⟩
    | ⟨q, before, elements, behind, reason, hsame, hq, hbefore, hrefused, hstop⟩
  · cases hfail.symm.trans hrendered
  · cases hok.symm.trans h
  · obtain rfl := Except.ok.inj (hsame.symm.trans hrendered)
    obtain rfl := Except.error.inj (hstop.symm.trans h)
    exact ⟨before, elements, behind, reason, hq, hbefore, hrefused, rfl⟩

end PrepareWith

/-- The text of a prepared statement of builders has the placeholders $1, $2 and so on
from left to right, and its parameters are made, one by one, of the values that stand
there in literal SQL. Of the configuration only the quoting counts. There is such a
statement if and only if rendering succeeds and every array among the values can be
made. If rendering fails, its error is told and nothing is bound; otherwise the error
names the first array that cannot be made, by the number of its placeholder. -/
theorem prepared_parameters_match (s : Statement) (config : RenderConfig) :
    let rendered := renderPrepared s config.numbered
    (∀ style, prepareWith s { config with placeholderStyle := style } = prepareWith s config)
    ∧ ((∃ prepared, (prepareWith s config).value = .ok prepared)
        ↔ ∃ p, rendered.value = .ok p ∧ PgParams.Accepts p.params)
    ∧ (∀ prepared, (prepareWith s config).value = .ok prepared →
        ∃ (values : List Value) (t : Template),
          rendered.value = .ok ⟨prepared.sql, values⟩
          ∧ t.slots = values.zipIdx 1
          ∧ prepared.sql = t.fill (fun index _ => "$" ++ toString index)
          ∧ (render s config.numbered).value = .ok (t.fill fun _ value => value.literal)
          ∧ prepared.params.length = t.slots.length
          ∧ List.Forall₂ PgParam.Holds prepared.params values)
    ∧ (∀ e, rendered.value = .error e →
        prepareWith s config = ⟨.error (.builder e), rendered.log⟩)
    ∧ ∀ p, rendered.value = .ok p → ∀ e, (prepareWith s config).value = .error e →
        ∃ before elements behind reason, p.params = before ++ .array elements :: behind
          ∧ PgParams.Accepts before ∧ PgArray.ofValues elements = .error reason
          ∧ e = .bind ⟨before.length + 1, .array, .arrayConstruction reason⟩ := by
  refine ⟨fun _ => rfl, exists_prepareWith_eq_ok, ?_, fun _ => prepareWith_of_error,
    fun _ hrendered _ => prepareWith_eq_error hrendered⟩
  intro prepared hok
  obtain ⟨values, hrendered, hparams⟩ := prepareWith_eq_ok hok
  let tree := Tree.of s
  have hvalue := (tree.renderPrepared_outcome config.numbered).symm.trans hrendered
  obtain ⟨hfail, hsame⟩ := Encounter.outcome_eq_ok.mp hvalue
  obtain ⟨hsql, rfl⟩ := PreparedStatement.mk.inj hsame
  have hslots := s.slots_template config.numbered hfail
  have hliteral := (tree.render_outcome config.numbered).trans (Encounter.outcome_of_none hfail _)
  refine ⟨_, tree.template config.numbered, hrendered, hslots, hsql.symm, hliteral, ?_, hparams⟩
  rw [hslots, List.length_zipIdx]
  exact hparams.length_eq

/-- A scalar behind a list cannot stand in an array; the array is the second parameter. -/
example :
    let number : Value := .scalar (.int32 1)
    let outputs : List (Expression (Fin 0)) :=
      [.value number, .value (.array [.array [number], number])]
    let s : Statement := ⟨0, .select { outputs }, Fin.elim0⟩
    (prepareWith s {}).value
      = .error (.bind ⟨2, .array, .arrayConstruction (.scalarDepth 0 1)⟩) := by
  rfl

end SqlBuilder
