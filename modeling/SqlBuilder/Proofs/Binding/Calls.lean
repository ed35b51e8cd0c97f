import SqlBuilder.Proofs.Binding.Prepared

/-!
# The calls that a target receives

What binding asks of a target is seen from the target's side: `BindTarget.observed` is
the same target with a record of its calls, in which every method notes itself, the index
and the value that it was handed, and what came of it. A step of binding is one call of
the method of the value's kind (`BindTarget.bindValue_observed`), and a run is as many
calls as it takes to the first that fails (`BindTarget.bindFrom_observed`). No property
of the target is used.

The parameters for Postgres are a target that fails at arrays only, and a failed call
leaves them as they are (`PgParams.bindFrom_cases`). Both together are
`binding_stops_at_first_failure`.
-/

namespace SqlBuilder

variable {τ : Type}

/-! ## Observed targets -/

/-- A call of a method of a target: what it was handed, and what it made of the state. -/
structure BindCall (τ : Type) where
  method : ValueKind
  index : Nat
  value : Value
  before : τ
  result : Except BindReason Unit
  after : τ

/-- The state of a target and the calls that it has received. -/
structure Observed (τ : Type) where
  state : τ
  calls : List (BindCall τ)

/-- Runs a method on the state and notes the call. -/
def Observed.call (method : ValueKind) (index : Nat) (value : Value)
    (act : τ → Attempt BindReason τ) (o : Observed τ) : Attempt BindReason (Observed τ) :=
  let attempt := act o.state
  let noted : BindCall τ := ⟨method, index, value, o.state, attempt.result, attempt.state⟩
  ⟨attempt.result, ⟨attempt.state, o.calls ++ [noted]⟩, attempt.log⟩

namespace BindTarget

/-- The target with all its methods noting their calls. -/
def observed (target : BindTarget τ) : BindTarget (Observed τ) where
  bindNull i := Observed.call .null i (.scalar .null) (target.bindNull i)
  bindBool i b := Observed.call .bool i (.scalar (.bool b)) (target.bindBool i b)
  bindInt16 i n := Observed.call .int16 i (.scalar (.int16 n)) (target.bindInt16 i n)
  bindInt32 i n := Observed.call .int32 i (.scalar (.int32 n)) (target.bindInt32 i n)
  bindInt64 i n := Observed.call .int64 i (.scalar (.int64 n)) (target.bindInt64 i n)
  bindFloat32 i bits :=
    Observed.call .float32 i (.scalar (.float32 bits)) (target.bindFloat32 i bits)
  bindFloat64 i bits :=
    Observed.call .float64 i (.scalar (.float64 bits)) (target.bindFloat64 i bits)
  bindText i s := Observed.call .text i (.scalar (.text s)) (target.bindText i s)
  bindBytes i bs := Observed.call .bytes i (.scalar (.bytes bs)) (target.bindBytes i bs)
  bindDate i d := Observed.call .date i (.scalar (.date d)) (target.bindDate i d)
  bindTime i t := Observed.call .time i (.scalar (.time t)) (target.bindTime i t)
  bindTimestamp i t :=
    Observed.call .timestamp i (.scalar (.timestamp t)) (target.bindTimestamp i t)
  bindTimestampTz i t :=
    Observed.call .timestampTz i (.scalar (.timestampTz t)) (target.bindTimestampTz i t)
  bindUuid i u := Observed.call .uuid i (.scalar (.uuid u)) (target.bindUuid i u)
  bindJson i j := Observed.call .json i (.scalar (.json j)) (target.bindJson i j)
  bindArray i elements := Observed.call .array i (.array elements) (target.bindArray i elements)

/-- The calls lead a target from a state to a state: each finds what the one before it
left, and leaves what the target makes of its value there. -/
inductive Leads (target : BindTarget τ) : τ → List (BindCall τ) → τ → Prop where
  | nil (state : τ) : Leads target state [] state
  | cons {state : τ} {c : BindCall τ} {rest : List (BindCall τ)} {final : τ}
      (hbefore : c.before = state)
      (hresult : (target.bindValue c.index c.value c.before).result = c.result)
      (hafter : (target.bindValue c.index c.value c.before).state = c.after)
      (hrest : Leads target c.after rest final) : Leads target state (c :: rest) final

theorem Leads.step {target : BindTarget τ} {state final : τ} {method : ValueKind} {index : Nat}
    {v : Value} {rest : List (BindCall τ)}
    (h : target.Leads (target.bindValue index v state).state rest final) :
    target.Leads state (⟨method, index, v, state, (target.bindValue index v state).result,
      (target.bindValue index v state).state⟩ :: rest) final :=
  .cons rfl rfl rfl h

theorem Leads.eq_after {target : BindTarget τ} {state final : τ} {earlier : List (BindCall τ)}
    {last : BindCall τ} (h : target.Leads state (earlier ++ [last]) final) :
    final = last.after := by
  induction earlier generalizing state with
  | nil =>
      cases h with
      | cons _ _ _ hrest =>
          cases hrest
          rfl
  | cons c earlier ih =>
      cases h with
      | cons _ _ _ hrest => exact ih hrest

/-! ## One step -/

/-- A value is bound by one call, of the method of its kind. -/
theorem bindValue_observed (target : BindTarget τ) (index : Nat) (v : Value) (o : Observed τ) :
    target.observed.bindValue index v o
      = Observed.call v.kind index v (target.bindValue index v) o := by
  cases v with
  | scalar s => cases s <;> rfl
  | array elements => rfl

/-! ## Runs -/

/-- How the calls of a run end: all values are bound, or the last call fails, and its
index, kind and reason are told. -/
inductive Outcome (params : List Value) : List (BindCall τ) → Except BindError Unit → Prop where
  | bound {calls : List (BindCall τ)} (hall : ∀ c ∈ calls, c.result = .ok ())
      (hlength : calls.length = params.length) : Outcome params calls (.ok ())
  | failed {earlier : List (BindCall τ)} {last : BindCall τ} {reason : BindReason}
      (hearlier : ∀ c ∈ earlier, c.result = .ok ()) (hlast : last.result = .error reason) :
      Outcome params (earlier ++ [last]) (.error ⟨last.index, last.value.kind, reason⟩)

theorem Outcome.eq_ok_iff {params : List Value} {calls : List (BindCall τ)}
    {result : Except BindError Unit} (h : Outcome params calls result) :
    result = .ok () ↔ ∀ c ∈ calls, c.result = .ok () := by
  cases h with
  | bound hall _ => exact ⟨fun _ => hall, fun _ => rfl⟩
  | failed _ hlast =>
      refine ⟨nofun, fun hall => ?_⟩
      have hok := hall _ (List.mem_append_right _ (List.mem_singleton_self _))
      cases hok.symm.trans hlast

theorem Outcome.length_eq {params : List Value} {calls : List (BindCall τ)}
    (h : Outcome params calls (.ok ())) : calls.length = params.length := by
  cases h with
  | bound _ hlength => exact hlength

theorem Outcome.exists_last {params : List Value} {calls : List (BindCall τ)} {e : BindError}
    (h : Outcome params calls (.error e)) :
    ∃ earlier last, calls = earlier ++ [last] ∧ (∀ c ∈ earlier, c.result = .ok ())
      ∧ last.result = .error e.reason ∧ last.index = e.index ∧ last.value.kind = e.kind := by
  cases h with
  | failed hearlier hlast => exact ⟨_, _, rfl, hearlier, hlast, rfl, rfl⟩

theorem Outcome.cons {v : Value} {params : List Value} {c : BindCall τ}
    {calls : List (BindCall τ)} {result : Except BindError Unit} (hc : c.result = .ok ())
    (h : Outcome params calls result) : Outcome (v :: params) (c :: calls) result := by
  cases h with
  | bound hall hlength =>
      refine .bound (List.forall_mem_cons.mpr ⟨hc, hall⟩) ?_
      rw [List.length_cons, hlength, List.length_cons]
  | failed hearlier hlast =>
      exact .failed (List.forall_mem_cons.mpr ⟨hc, hearlier⟩) hlast

/-- The calls that are due: the method of each value's kind, with the value and its index. -/
def due (bound : Nat) (params : List Value) : List (ValueKind × Nat × Value) :=
  (params.zipIdx (bound + 1)).map fun (v, index) => (v.kind, index, v)

/-- A run makes the calls that are due, in order, up to the first that fails. -/
theorem bindFrom_observed (target : BindTarget τ) (bound : Nat) (params : List Value)
    (o : Observed τ) :
    let attempt := target.bindFrom bound params o.state
    ∃ calls, target.observed.bindFrom bound params o
        = ⟨attempt.result, ⟨attempt.state, o.calls ++ calls⟩, attempt.log⟩
      ∧ calls.map (fun c => (c.method, c.index, c.value))
        = (due bound params).take calls.length
      ∧ target.Leads o.state calls attempt.state
      ∧ Outcome params calls attempt.result := by
  induction params generalizing bound o with
  | nil =>
      refine ⟨[], ?_, rfl, .nil _, .bound (List.forall_mem_nil _) rfl⟩
      simp only [bindFrom, List.append_nil]
  | cons v rest ih =>
      intro attempt
      let step := target.bindValue (bound + 1) v o.state
      let c : BindCall τ := ⟨v.kind, bound + 1, v, o.state, step.result, step.state⟩
      have hdue : due bound (v :: rest) = (v.kind, bound + 1, v) :: due (bound + 1) rest := rfl
      have hstep := target.bindValue_observed (bound + 1) v o
      cases hresult : step.result with
      | error reason =>
          have hattempt : attempt = ⟨.error ⟨bound + 1, v.kind, reason⟩, step.state,
              .bindingParameter (bound + 1) v.kind :: step.log⟩ := by
            simp only [attempt, bindFrom, step, hresult]
          rw [hattempt]
          have hfailed : Outcome (v :: rest) ([] ++ [c]) (.error ⟨bound + 1, v.kind, reason⟩) :=
            .failed (List.forall_mem_nil _) hresult
          refine ⟨[c], ?_, ?_, .step (.nil _), hfailed⟩
          · simp only [bindFrom, hstep, Observed.call, c, step, hresult]
          · rw [hdue]
            rfl
      | ok =>
          obtain ⟨calls, hsame, hasked, hleads, hends⟩ :=
            ih (bound + 1) ⟨step.state, o.calls ++ [c]⟩
          have hattempt : attempt = { target.bindFrom (bound + 1) rest step.state with
              log := .bindingParameter (bound + 1) v.kind :: step.log
                ++ (target.bindFrom (bound + 1) rest step.state).log } := by
            simp only [attempt, bindFrom, step, hresult]
          rw [hattempt]
          refine ⟨c :: calls, ?_, ?_, .step hleads, hends.cons hresult⟩
          · have hnoted : Observed.call v.kind (bound + 1) v (target.bindValue (bound + 1) v) o
                = ⟨.ok (), ⟨step.state, o.calls ++ [c]⟩, step.log⟩ := by
              simp only [Observed.call, c, step, hresult]
            simp only [bindFrom, hstep, hnoted, hsame, List.append_assoc, List.singleton_append]
          · rw [hdue, List.map_cons, hasked, List.length_cons, List.take_succ_cons]

end BindTarget

/-! ## Parameters for Postgres -/

namespace PgParams

theorem ofValues_eq_ok {values : List Value} {params : PgParams}
    (h : (PgParams.ofValues values).value = .ok params) :
    List.Forall₂ PgParam.Holds params values := by
  rcases ofValues_cases values with
    ⟨held, hheld, hok⟩ | ⟨before, elements, behind, reason, -, -, -, he⟩
  · obtain rfl := Except.ok.inj (hok.symm.trans h)
    exact hheld
  · cases he.symm.trans h

theorem exists_ofValues_eq_ok {values : List Value} :
    (∃ params, (PgParams.ofValues values).value = .ok params) ↔ Accepts values := by
  refine ⟨fun ⟨params, h⟩ => accepts_of_holds (ofValues_eq_ok h), fun haccepts => ?_⟩
  rcases ofValues_cases values with
    ⟨held, -, hok⟩ | ⟨before, elements, behind, reason, rfl, -, hrefused, -⟩
  · exact ⟨held, hok⟩
  · have hmem : .array elements ∈ before ++ .array elements :: behind :=
      List.mem_append_right _ (List.mem_cons_self ..)
    obtain ⟨a, ha⟩ := haccepts elements hmem
    cases hrefused.symm.trans ha

theorem bindParameters_of_ok {values : List Value} {held : PgParams}
    (h : (target.bindParameters values held).result = .ok ()) :
    ∃ made, (target.bindParameters values held).state = held ++ made
      ∧ List.Forall₂ PgParam.Holds made values := by
  rcases bindFrom_cases 0 values held with
    ⟨made, hmade, -, hstate⟩ | ⟨before, elements, behind, reason, made, -, -, -, -, he⟩
  · exact ⟨made, hstate, hmade⟩
  · have hfailed : (target.bindParameters values held).result = _ := he
    cases hfailed.symm.trans h

/-- A failed call adds nothing, so only the values before it are held. -/
theorem bindParameters_of_error {values : List Value} {held : PgParams} {e : BindError}
    (h : (target.bindParameters values held).result = .error e) :
    ∃ made, (target.bindParameters values held).state = held ++ made
      ∧ made.length + 1 = e.index ∧ List.Forall₂ PgParam.Holds made (values.take made.length) := by
  rcases bindFrom_cases 0 values held with
    ⟨made, -, hok, -⟩ | ⟨before, elements, behind, reason, made, rfl, hmade, hstate, -, he⟩
  · have hbound : (target.bindParameters values held).result = _ := hok
    cases hbound.symm.trans h
  · obtain rfl := Except.error.inj (he.symm.trans h)
    have hlength := hmade.length_eq
    refine ⟨made, hstate, ?_, ?_⟩
    · show made.length + 1 = 0 + before.length + 1
      omega
    · rw [hlength, List.take_left]
      exact hmade

end PgParams

/-! ## Binding -/

/-- A target is asked to bind the values one by one, each by the method of its kind, with
its index counted from one, until a call fails or no value is left. Binding succeeds if
and only if no call fails; otherwise the error tells the index and the kind of the value
that was handed in the last call, and the reason that the target gave. The state is what
the calls made of it, one after the other, and that the calls are observed changes nothing.

For Postgres, all parameters are held, one for each value, if and only if every array
among the values can be made. Where one cannot, the parameters for the values before it
have been added to what was held, and nothing else. -/
theorem binding_stops_at_first_failure (values : List Value) :
    (∀ {τ : Type} (target : BindTarget τ) (state : τ),
      let attempt := target.bindParameters values state
      let observed := target.observed.bindParameters values ⟨state, []⟩
      let calls := observed.state.calls
      attempt = ⟨observed.result, observed.state.state, observed.log⟩
      ∧ calls.map (fun c => (c.method, c.index, c.value))
        = ((values.zipIdx 1).map fun (v, index) => (v.kind, index, v)).take calls.length
      ∧ target.Leads state calls attempt.state
      ∧ (attempt.result = .ok () ↔ ∀ c ∈ calls, c.result = .ok ())
      ∧ (attempt.result = .ok () → calls.length = values.length)
      ∧ ∀ e, attempt.result = .error e → ∃ (earlier : List (BindCall τ)) (last : BindCall τ),
          calls = earlier ++ [last] ∧ (∀ c ∈ earlier, c.result = .ok ())
          ∧ last.result = .error e.reason ∧ last.index = e.index ∧ last.value.kind = e.kind
          ∧ last.after = attempt.state)
    ∧ ((∃ params, (PgParams.ofValues values).value = .ok params) ↔ PgParams.Accepts values)
    ∧ (∀ params, (PgParams.ofValues values).value = .ok params →
        List.Forall₂ PgParam.Holds params values)
    ∧ ∀ held : PgParams,
        let attempt := PgParams.target.bindParameters values held
        (attempt.result = .ok () →
          ∃ made, attempt.state = held ++ made ∧ List.Forall₂ PgParam.Holds made values)
        ∧ ∀ e, attempt.result = .error e →
            ∃ made, attempt.state = held ++ made ∧ made.length + 1 = e.index
              ∧ List.Forall₂ PgParam.Holds made (values.take made.length) := by
  refine ⟨fun target state => ?_, PgParams.exists_ofValues_eq_ok,
    fun _ => PgParams.ofValues_eq_ok,
    fun _ => ⟨PgParams.bindParameters_of_ok, fun _ => PgParams.bindParameters_of_error⟩⟩
  intro attempt observed calls
  obtain ⟨made, hsame, hasked, hleads, hends⟩ := target.bindFrom_observed 0 values ⟨state, []⟩
  have hobserved : observed = ⟨attempt.result, ⟨attempt.state, made⟩, attempt.log⟩ := hsame
  have hcalls : calls = made := congrArg (·.state.calls) hobserved
  rw [hobserved, hcalls]
  refine ⟨rfl, hasked, hleads, hends.eq_ok_iff, fun hok => ?_, fun e he => ?_⟩
  · exact BindTarget.Outcome.length_eq (hok ▸ hends)
  · have hfailed : BindTarget.Outcome values made (.error e) := he ▸ hends
    obtain ⟨earlier, last, rfl, hearlier, hreason, hindex, hkind⟩ := hfailed.exists_last
    exact ⟨earlier, last, rfl, hearlier, hreason, hindex, hkind, hleads.eq_after.symm⟩

/-- A target with a place for numbers only holds the one before the text, and is not asked
for the one behind it. -/
example :
    let numbers : BindTarget (List Int32) :=
      { bindInt32 := fun _ n held => .done (held ++ [n]) }
    let attempt := numbers.bindParameters
      [.scalar (.int32 1), .scalar (.text "two"), .scalar (.int32 3)] []
    attempt.result = .error ⟨2, .text, .unsupported⟩ ∧ attempt.state = [1] :=
  ⟨rfl, rfl⟩

end SqlBuilder
