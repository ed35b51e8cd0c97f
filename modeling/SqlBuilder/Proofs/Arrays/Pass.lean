import SqlBuilder.Proofs.Arrays.Shape

/-!
# The pass over nested lists

The check of a shape goes through nested lists once. Here it is a run over the
visits of that walk, and what it knows after some visits is a function of these
(`Reached`). A visit is refused just if an earlier one does not allow it
(`Reached.visit_cases`); so the run goes through to its end if and only if every
visit allows all later ones (`Reached.run_cases`).
-/

namespace SqlBuilder

namespace PgArray

/-- What the pass meets. -/
inductive Visit where
  /-- A list begins among the elements of a depth. -/
  | list (depth : Nat)
  | scalar (depth : Nat) (s : Scalar)
  /-- A list of a depth ends. -/
  | ending (depth length : Nat)

namespace Visit

def scalar? : Visit → Option Scalar
  | .scalar _ s => some s
  | _ => none

/-- Whether a visit allows another one behind it. -/
def Allows : Visit → Visit → Prop
  | .scalar d s, .scalar d' s' =>
      d = d' ∧ (s.isNull = false → s'.isNull = false → s.kind = s'.kind)
  | .scalar d _, .list d' => d' < d
  | .ending d n, .ending d' n' => d = d' → n = n'
  | _, _ => True

end Visit

mutual

/-- The visits of a value that is an element at a depth. -/
def visits (depth : Nat) : Value → List Visit
  | .scalar s => [.scalar depth s]
  | .array elements =>
      .list depth :: (visitsAll (depth + 1) elements ++ [.ending (depth + 1) elements.length])

def visitsAll (depth : Nat) : List Value → List Visit
  | [] => []
  | v :: rest => visits depth v ++ visitsAll depth rest

end

/-! ## The pass is a run over visits -/

namespace Flattened

def visit (f : Flattened) : Visit → Except ArrayError Flattened
  | .list depth => do
      f.enterList depth
      return f
  | .scalar depth s => f.addScalar depth s
  | .ending depth length => f.endList depth length

def run (f : Flattened) (vs : List Visit) : Except ArrayError Flattened := vs.foldlM visit f

theorem run_append (f : Flattened) (vs ws : List Visit) :
    f.run (vs ++ ws) = f.run vs >>= fun f => f.run ws := List.foldlM_append

@[simp] theorem run_singleton (f : Flattened) (v : Visit) : f.run [v] = f.visit v := by
  rw [run, List.foldlM_cons]
  cases f.visit v <;> rfl

mutual

theorem addItem_eq (depth : Nat) : ∀ (v : Value) (f : Flattened),
    addItem depth v f = f.run (visits depth v)
  | .scalar s, f => (run_singleton f (.scalar depth s)).symm
  | .array elements, f => by
      rw [addItem, visits, run, List.foldlM_cons, visit]
      cases f.enterList depth with
      | error e => rfl
      | ok =>
          show _ = f.run _
          rw [run_append, ← addItems_eq (depth + 1) elements f]
          simp only [run_singleton, visit]
          rfl

theorem addItems_eq (depth : Nat) : ∀ (vs : List Value) (f : Flattened),
    addItems depth vs f = f.run (visitsAll depth vs)
  | [], f => rfl
  | v :: rest, f => by
      rw [addItems, visitsAll, run_append, addItem_eq depth v f]
      congr 1
      funext f
      exact addItems_eq depth rest f

end

end Flattened

/-! ## The table of lengths -/

open Flattened (insertLength)

theorem mem_insertLength {depth length : Nat} {p : Nat × Nat} {lengths : List (Nat × Nat)} :
    p ∈ insertLength depth length lengths ↔ p = (depth, length) ∨ p ∈ lengths := by
  induction lengths with
  | nil => simp [insertLength]
  | cons q rest ih =>
      obtain ⟨d, l⟩ := q
      unfold insertLength
      split
      · simp
      · rw [List.mem_cons, ih, List.mem_cons]
        exact or_left_comm

theorem sorted_insertLength {depth length : Nat} {lengths : List (Nat × Nat)}
    (hsorted : lengths.Pairwise (·.1 < ·.1)) (hnew : lengths.lookup depth = none) :
    (insertLength depth length lengths).Pairwise (·.1 < ·.1) := by
  rw [List.lookup_eq_none_iff] at hnew
  induction lengths with
  | nil => exact List.pairwise_singleton _ _
  | cons q rest ih =>
      obtain ⟨d, l⟩ := q
      obtain ⟨hbehind, hrest⟩ := List.pairwise_cons.mp hsorted
      obtain ⟨hd, hnew⟩ := List.forall_mem_cons.mp hnew
      unfold insertLength
      split
      · rename_i hlt
        refine List.pairwise_cons.mpr ⟨List.forall_mem_cons.mpr ⟨hlt, fun p hp => ?_⟩, hsorted⟩
        exact Nat.lt_trans hlt (hbehind p hp)
      · rename_i hle
        refine List.pairwise_cons.mpr ⟨fun p hp => ?_, ih hrest hnew⟩
        rcases mem_insertLength.mp hp with rfl | hp
        · have : depth ≠ d := by simpa using hd
          show d < depth
          omega
        · exact hbehind p hp

theorem lookup_eq_some_iff_mem {depth length : Nat} {lengths : List (Nat × Nat)}
    (hsorted : lengths.Pairwise (·.1 < ·.1)) :
    lengths.lookup depth = some length ↔ (depth, length) ∈ lengths := by
  induction lengths with
  | nil => simp
  | cons q rest ih =>
      obtain ⟨d, l⟩ := q
      obtain ⟨hbehind, hrest⟩ := List.pairwise_cons.mp hsorted
      rw [List.lookup_cons, List.mem_cons, Prod.mk.injEq]
      by_cases hd : depth = d
      · subst hd
        have hout : (depth, length) ∉ rest := fun h => Nat.lt_irrefl depth (hbehind _ h)
        simp [hout, eq_comm]
      · rw [beq_false_of_ne hd]
        simp [hd, ih hrest]

/-- The three outcomes for a scalar: it stands at another depth than an earlier
one, it is of another kind, or it is added. -/
theorem Flattened.addScalar_cases (f : Flattened) (depth : Nat) (s : Scalar) :
    (∃ d, f.scalarDepth = some d ∧ d ≠ depth ∧ f.addScalar depth s = .error (.scalarDepth depth d))
    ∨ (∃ k, f.kind = some k ∧ s.isNull = false ∧ k ≠ s.kind
        ∧ f.addScalar depth s = .error (.mixedKinds k s.kind))
    ∨ (∀ d, f.scalarDepth = some d → d = depth)
      ∧ (∀ k, f.kind = some k → s.isNull = false → k = s.kind)
      ∧ f.addScalar depth s = .ok { f with
          elements := f.elements ++ [s]
          scalarDepth := some depth
          kind := if s.isNull then f.kind else some s.kind } := by
  obtain ⟨elements, lengths, scalarDepth, kind⟩ := f
  by_cases hdepth : ∃ d, scalarDepth = some d ∧ d ≠ depth
  · obtain ⟨d, rfl, hd⟩ := hdepth
    exact Or.inl ⟨d, rfl, hd, by simp only [addScalar, if_pos hd]; rfl⟩
  · have hdepth (d : Nat) (h : scalarDepth = some d) : d = depth :=
      Decidable.byContradiction fun hd => hdepth ⟨d, h, hd⟩
    by_cases hkind : ∃ k, kind = some k ∧ s.isNull = false ∧ k ≠ s.kind
    · obtain ⟨k, rfl, hs, hk⟩ := hkind
      refine Or.inr (Or.inl ⟨k, rfl, hs, hk, ?_⟩)
      cases scalarDepth with
      | none => simp only [addScalar, hs, Bool.not_false, if_true, if_pos hk]; rfl
      | some d =>
          obtain rfl := hdepth d rfl
          simp only [addScalar, hs, Bool.not_false, if_true, if_pos hk, ne_eq, not_true_eq_false,
            if_false]
          rfl
    · have hkind (k : ValueKind) (h : kind = some k) (hs : s.isNull = false) : k = s.kind :=
        Decidable.byContradiction fun hk => hkind ⟨k, h, hs, hk⟩
      refine Or.inr (Or.inr ⟨hdepth, hkind, ?_⟩)
      cases hnull : s.isNull <;> cases scalarDepth <;> cases kind <;>
        simp_all [addScalar]
      all_goals rfl

/-! ## What is known after some visits -/

structure Reached (met : List Visit) (f : Flattened) : Prop where
  elements : f.elements = met.filterMap Visit.scalar?
  scalarDepth : ∀ d, f.scalarDepth = some d ↔ ∃ s, .scalar d s ∈ met
  kind : ∀ k, f.kind = some k ↔ ∃ d s, .scalar d s ∈ met ∧ s.isNull = false ∧ s.kind = k
  lengths : ∀ d n, (d, n) ∈ f.lengths ↔ .ending d n ∈ met
  sorted : f.lengths.Pairwise (·.1 < ·.1)

namespace Reached

variable {met : List Visit} {f : Flattened}

theorem nil : Reached [] {} := by
  constructor <;> simp

/-- Both outcomes of a visit, with all that is known of them. -/
def Outcome (met : List Visit) (v : Visit) (outcome : Except ArrayError Flattened) : Prop :=
  match outcome with
  | .ok f => (∀ u ∈ met, u.Allows v) ∧ Reached (met ++ [v]) f
  | .error _ => ∃ u ∈ met, ¬u.Allows v

theorem visit_list (h : Reached met f) (depth : Nat) :
    Outcome met (.list depth) (f.visit (.list depth)) := by
  have hreached : Reached (met ++ [.list depth]) f := by
    constructor
    · simp [h.elements, Visit.scalar?]
    · simpa using h.scalarDepth
    · simpa using h.kind
    · simpa using h.lengths
    · exact h.sorted
  unfold Flattened.visit Flattened.enterList
  cases hdepth : f.scalarDepth with
  | none =>
      refine ⟨fun u hu => ?_, hreached⟩
      cases u with
      | scalar d s => cases hdepth ▸ (h.scalarDepth d).mpr ⟨s, hu⟩
      | list _ | ending _ _ => trivial
  | some d =>
      obtain ⟨s, hs⟩ := (h.scalarDepth d).mp hdepth
      by_cases hle : d ≤ depth
      · simp only [if_pos hle]
        exact ⟨_, hs, Nat.not_lt.mpr hle⟩
      · simp only [if_neg hle]
        refine ⟨fun u hu => ?_, hreached⟩
        cases u with
        | scalar d' s' =>
            obtain rfl := Option.some.inj (hdepth ▸ (h.scalarDepth d').mpr ⟨s', hu⟩)
            exact Nat.not_le.mp hle
        | list _ | ending _ _ => trivial

theorem visit_ending (h : Reached met f) (depth length : Nat) :
    Outcome met (.ending depth length) (f.visit (.ending depth length)) := by
  have hlookup (n : Nat) : f.lengths.lookup depth = some n ↔ .ending depth n ∈ met :=
    (lookup_eq_some_iff_mem h.sorted).trans (h.lengths depth n)
  rw [Flattened.visit, Flattened.endList]
  cases hfound : f.lengths.lookup depth with
  | none =>
      have hnone (n : Nat) : .ending depth n ∉ met := by
        rw [← hlookup, hfound]
        exact nofun
      refine ⟨fun u hu => ?_, ?_⟩
      · cases u with
        | ending d n =>
            rintro rfl
            exact absurd hu (hnone n)
        | list _ | scalar _ _ => trivial
      · constructor
        · simp [h.elements, Visit.scalar?]
        · simpa using h.scalarDepth
        · simpa using h.kind
        · intro d n
          rw [mem_insertLength, h.lengths, List.mem_append, List.mem_singleton, Prod.mk.injEq,
            Visit.ending.injEq]
          exact or_comm
        · exact sorted_insertLength h.sorted hfound
  | some expected =>
      have hexpected : .ending depth expected ∈ met := (hlookup expected).mp hfound
      by_cases heq : expected = length
      · subst heq
        show Outcome met _ (if expected = expected then _ else _)
        rw [if_pos rfl]
        refine ⟨fun u hu => ?_, ?_⟩
        · cases u with
          | ending d n =>
              rintro rfl
              exact Option.some.inj (((hlookup n).mpr hu).symm.trans hfound)
          | list _ | scalar _ _ => trivial
        · constructor
          · simp [h.elements, Visit.scalar?]
          · simpa using h.scalarDepth
          · simpa using h.kind
          · intro d n
            rw [h.lengths, List.mem_append, List.mem_singleton, Visit.ending.injEq]
            refine ⟨Or.inl, ?_⟩
            rintro (hmem | ⟨rfl, rfl⟩)
            · exact hmem
            · exact hexpected
          · exact h.sorted
      · show Outcome met _ (if expected = length then _ else _)
        rw [if_neg heq]
        exact ⟨_, hexpected, fun hallows => heq (hallows rfl)⟩

theorem visit_scalar (h : Reached met f) (depth : Nat) (s : Scalar) :
    Outcome met (.scalar depth s) (f.visit (.scalar depth s)) := by
  have hallows (u : Visit) (hu : u ∈ met)
      (hdepth : ∀ d, f.scalarDepth = some d → d = depth)
      (hkind : ∀ k, f.kind = some k → s.isNull = false → k = s.kind) :
      u.Allows (.scalar depth s) := by
    cases u with
    | scalar d s' =>
        refine ⟨hdepth d ((h.scalarDepth d).mpr ⟨s', hu⟩), fun hs' hs => ?_⟩
        exact hkind _ ((h.kind _).mpr ⟨d, s', hu, hs', rfl⟩) hs
    | list _ | ending _ _ => trivial
  rw [Flattened.visit]
  rcases f.addScalar_cases depth s with ⟨d, hd, hne, hvisit⟩ | ⟨k, hk, hs, hne, hvisit⟩
    | ⟨hdepth, hkind, hvisit⟩
  · rw [hvisit]
    obtain ⟨s', hs'⟩ := (h.scalarDepth d).mp hd
    exact ⟨_, hs', fun hallowed => hne hallowed.1⟩
  · rw [hvisit]
    obtain ⟨d, s', hmem, hs', rfl⟩ := (h.kind k).mp hk
    exact ⟨_, hmem, fun hallowed => hne (hallowed.2 hs' hs)⟩
  · rw [hvisit]
    refine ⟨fun u hu => hallows u hu hdepth hkind, ?_⟩
    constructor
    · simp [h.elements, Visit.scalar?]
    · intro d
      constructor
      · intro hd
        obtain rfl := Option.some.inj hd
        exact ⟨s, List.mem_append_right _ (List.mem_singleton_self _)⟩
      · rintro ⟨s', hs'⟩
        rcases List.mem_append.mp hs' with hmem | hlast
        · exact congrArg some (hdepth d ((h.scalarDepth d).mpr ⟨s', hmem⟩)).symm
        · cases List.mem_singleton.mp hlast
          rfl
    · intro k
      cases hs : s.isNull with
      | true =>
          refine (h.kind k).trans ⟨?_, ?_⟩
          · rintro ⟨d, s', hmem, hk⟩
            exact ⟨d, s', List.mem_append_left _ hmem, hk⟩
          · rintro ⟨d, s', hmem, hs', hk⟩
            rcases List.mem_append.mp hmem with hmem | hlast
            · exact ⟨d, s', hmem, hs', hk⟩
            · cases List.mem_singleton.mp hlast
              cases hs.symm.trans hs'
      | false =>
          constructor
          · intro hk
            exact ⟨depth, s, List.mem_append_right _ (List.mem_singleton_self _), hs,
              Option.some.inj hk⟩
          · rintro ⟨d, s', hmem, hs', rfl⟩
            rcases List.mem_append.mp hmem with hmem | hlast
            · exact congrArg some (hkind _ ((h.kind _).mpr ⟨d, s', hmem, hs', rfl⟩) hs).symm
            · cases List.mem_singleton.mp hlast
              rfl
    · simpa using h.lengths
    · exact h.sorted

/-- What one visit can do. -/
theorem visit_cases (h : Reached met f) (v : Visit) : Outcome met v (f.visit v) := by
  cases v with
  | list depth => exact h.visit_list depth
  | scalar depth s => exact h.visit_scalar depth s
  | ending depth length => exact h.visit_ending depth length

/-- What a run can do: it reaches its end if the visits allow each other, and
stops with an error if not. -/
theorem run_cases (h : Reached met f) (hmet : met.Pairwise Visit.Allows) (vs : List Visit) :
    match f.run vs with
    | .ok f' => (met ++ vs).Pairwise Visit.Allows ∧ Reached (met ++ vs) f'
    | .error _ => ¬(met ++ vs).Pairwise Visit.Allows := by
  induction vs generalizing met f with
  | nil =>
      rw [List.append_nil]
      exact ⟨hmet, h⟩
  | cons v rest ih =>
      have hvisit := h.visit_cases v
      rw [Flattened.run, List.foldlM_cons]
      cases hv : f.visit v with
      | ok f' =>
          rw [hv] at hvisit
          obtain ⟨hallowed, hreached⟩ := hvisit
          have hmet' : (met ++ [v]).Pairwise Visit.Allows :=
            List.pairwise_append.mpr ⟨hmet, List.pairwise_singleton _ _, fun u hu w hw =>
              List.mem_singleton.mp hw ▸ hallowed u hu⟩
          have := ih hreached hmet'
          rwa [List.append_assoc] at this
      | error e =>
          rw [hv] at hvisit
          obtain ⟨u, hu, hrefused⟩ := hvisit
          intro hall
          exact hrefused ((List.pairwise_append.mp hall).2.2 u hu v (List.mem_cons_self ..))

end Reached

end PgArray

end SqlBuilder
