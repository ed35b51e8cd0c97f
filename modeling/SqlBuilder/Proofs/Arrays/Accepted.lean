import Mathlib.Algebra.BigOperators.Ring.List
import Mathlib.Algebra.GroupWithZero.Nat
import Mathlib.Data.List.Sort
import SqlBuilder.Postgres.Params
import SqlBuilder.Proofs.Arrays.Pass

/-!
# Which nested lists are arrays

The walk through nested lists visits every element of every depth
(`mem_visitsAll`), so that the visits allow each other if lists are well shaped.
The converse fails in one case: a list may stand beside scalars if it comes
before them. Such a list holds no scalar, so it ends in an empty one, and a length
of zero contradicts the number of elements (`Reached.zero_mem`).
-/

namespace SqlBuilder

namespace PgArray

/-! ## The visits of a walk -/

/-- The visits that an element makes by itself. -/
def ownVisits (depth : Nat) : Value → List Visit
  | .scalar s => [.scalar depth s]
  | .array elements => [.list depth, .ending (depth + 1) elements.length]

theorem mem_itemsAt_cons {depth : Nat} {x v : Value} {rest : List Value} :
    x ∈ itemsAt depth (v :: rest)
      ↔ (depth = 0 ∧ x = v) ∨ (∃ l below, v = .array l ∧ depth = below + 1 ∧ x ∈ itemsAt below l)
        ∨ x ∈ itemsAt depth rest := by
  cases depth with
  | zero => simp [itemsAt]
  | succ below =>
      rw [mem_itemsAt_succ, mem_itemsAt_succ]
      constructor
      · rintro ⟨l, hl, hx⟩
        rcases List.mem_cons.mp hl with hl | hl
        · exact Or.inr (Or.inl ⟨l, below, hl.symm, rfl, hx⟩)
        · exact Or.inr (Or.inr ⟨l, hl, hx⟩)
      · rintro (⟨h, -⟩ | ⟨l, _, rfl, hbelow, hx⟩ | ⟨l, hl, hx⟩)
        · cases h
        · cases hbelow
          exact ⟨l, List.mem_cons_self .., hx⟩
        · exact ⟨l, List.mem_cons_of_mem _ hl, hx⟩

mutual

theorem mem_visits (depth : Nat) : ∀ (v : Value) {u : Visit},
    u ∈ visits depth v
      ↔ u ∈ ownVisits depth v
        ∨ ∃ l below, v = .array l ∧ ∃ x ∈ itemsAt below l, u ∈ ownVisits (depth + (below + 1)) x
  | .scalar s, u => by simp [visits, ownVisits]
  | .array elements, u => by
      have hbelow := mem_visitsAll (depth + 1) elements (u := u)
      simp only [Nat.add_assoc, Nat.add_comm 1] at hbelow
      simp only [visits, ownVisits, List.mem_cons, List.mem_append, List.not_mem_nil, or_false,
        hbelow, Value.array.injEq]
      constructor
      · rintro (rfl | ⟨below, x, hx, hu⟩ | rfl)
        · exact Or.inl (Or.inl rfl)
        · exact Or.inr ⟨elements, below, rfl, x, hx, hu⟩
        · exact Or.inl (Or.inr rfl)
      · rintro ((rfl | rfl) | ⟨_, below, rfl, x, hx, hu⟩)
        · exact Or.inl rfl
        · exact Or.inr (Or.inr rfl)
        · exact Or.inr (Or.inl ⟨below, x, hx, hu⟩)

theorem mem_visitsAll (depth : Nat) : ∀ (vs : List Value) {u : Visit},
    u ∈ visitsAll depth vs ↔ ∃ below, ∃ x ∈ itemsAt below vs, u ∈ ownVisits (depth + below) x
  | [], u => by
      have hnone (below : Nat) : itemsAt below [] = [] := by cases below <;> rfl
      simp [visitsAll, hnone]
  | v :: rest, u => by
      rw [visitsAll, List.mem_append, mem_visits depth v, mem_visitsAll depth rest]
      constructor
      · rintro ((hu | ⟨l, below, rfl, x, hx, hu⟩) | ⟨below, x, hx, hu⟩)
        · exact ⟨0, v, mem_itemsAt_cons.mpr (Or.inl ⟨rfl, rfl⟩), hu⟩
        · exact ⟨below + 1, x, mem_itemsAt_cons.mpr (Or.inr (Or.inl ⟨l, below, rfl, rfl, hx⟩)), hu⟩
        · exact ⟨below, x, mem_itemsAt_cons.mpr (Or.inr (Or.inr hx)), hu⟩
      · rintro ⟨below, x, hitem, hu⟩
        rcases mem_itemsAt_cons.mp hitem with ⟨rfl, rfl⟩ | ⟨l, below, rfl, rfl, hx⟩ | hx
        · exact Or.inl (Or.inl hu)
        · exact Or.inl (Or.inr ⟨l, below, rfl, x, hx, hu⟩)
        · exact Or.inr ⟨below, x, hx, hu⟩

end

/-- All visits of the walk through a list of values. -/
def walk (values : List Value) : List Visit :=
  visitsAll 0 values ++ [.ending 0 values.length]

section Walk

variable {values : List Value} {depth : Nat}

theorem scalar_mem_walk {s : Scalar} :
    .scalar depth s ∈ walk values ↔ s ∈ scalarsAt depth values := by
  rw [walk, List.mem_append, mem_visitsAll, mem_scalarsAt]
  constructor
  · rintro (⟨below, x, hx, hu⟩ | hu)
    · cases x with
      | scalar t =>
          simp only [ownVisits, Nat.zero_add, List.mem_singleton, Visit.scalar.injEq] at hu
          obtain ⟨rfl, rfl⟩ := hu
          exact hx
      | array l => simp [ownVisits] at hu
    · simp at hu
  · intro hs
    exact Or.inl ⟨depth, _, hs, by simp [ownVisits]⟩

theorem list_mem_walk : .list depth ∈ walk values ↔ listsAt (depth + 1) values ≠ [] := by
  rw [walk, List.mem_append, mem_visitsAll]
  constructor
  · rintro (⟨below, x, hx, hu⟩ | hu)
    · cases x with
      | scalar t => simp [ownVisits] at hu
      | array l =>
          simp only [ownVisits, Nat.zero_add, List.mem_cons, Visit.list.injEq, reduceCtorEq,
            List.not_mem_nil, or_false] at hu
          obtain rfl := hu
          exact List.ne_nil_of_mem (mem_listsAt_succ.mpr hx)
    · simp at hu
  · intro hne
    obtain ⟨l, hl⟩ := List.exists_mem_of_ne_nil _ hne
    exact Or.inl ⟨depth, _, mem_listsAt_succ.mp hl, by simp [ownVisits]⟩

theorem ending_mem_walk {length : Nat} :
    .ending depth length ∈ walk values ↔ ∃ l ∈ listsAt depth values, l.length = length := by
  rw [walk, List.mem_append, mem_visitsAll, List.mem_singleton, Visit.ending.injEq]
  constructor
  · rintro (⟨below, x, hx, hu⟩ | ⟨rfl, rfl⟩)
    · cases x with
      | scalar t => simp [ownVisits] at hu
      | array l =>
          simp only [ownVisits, Nat.zero_add, List.mem_cons, Visit.ending.injEq, reduceCtorEq,
            List.not_mem_nil, or_false, false_or] at hu
          obtain ⟨rfl, rfl⟩ := hu
          exact ⟨l, mem_listsAt_succ.mpr hx, rfl⟩
    · exact ⟨values, List.mem_singleton_self _, rfl⟩
  · rintro ⟨l, hl, rfl⟩
    cases depth with
    | zero =>
        obtain rfl := List.mem_singleton.mp hl
        exact Or.inr ⟨rfl, rfl⟩
    | succ depth => exact Or.inl ⟨depth, _, mem_listsAt_succ.mp hl, by simp [ownVisits]⟩

end Walk

mutual

theorem scalars_visits (depth : Nat) : ∀ v : Value,
    (visits depth v).filterMap Visit.scalar? = v.scalars
  | .scalar s => rfl
  | .array elements => by
      rw [visits, List.filterMap_cons_none rfl, List.filterMap_append,
        scalars_visitsAll (depth + 1) elements]
      exact List.append_nil _

theorem scalars_visitsAll (depth : Nat) : ∀ vs : List Value,
    (visitsAll depth vs).filterMap Visit.scalar? = Value.scalarsAll vs
  | [] => rfl
  | v :: rest => by
      rw [visitsAll, List.filterMap_append, scalars_visits depth v, scalars_visitsAll depth rest]
      rfl

end

theorem scalars_walk (values : List Value) :
    (walk values).filterMap Visit.scalar? = Value.scalarsAll values := by
  rw [walk, List.filterMap_append, scalars_visitsAll]
  exact List.append_nil _

theorem scalarsAll_ne_nil_iff {values : List Value} :
    Value.scalarsAll values ≠ [] ↔ ∃ depth, scalarsAt depth values ≠ [] := by
  rw [← scalars_walk]
  constructor
  · intro hne
    obtain ⟨s, hs⟩ := List.exists_mem_of_ne_nil _ hne
    obtain ⟨u, hu, hsome⟩ := List.mem_filterMap.mp hs
    cases u with
    | scalar depth t => exact ⟨depth, List.ne_nil_of_mem (scalar_mem_walk.mp hu)⟩
    | list _ | ending _ _ => cases hsome
  · rintro ⟨depth, hne⟩
    obtain ⟨s, hs⟩ := List.exists_mem_of_ne_nil _ hne
    exact List.ne_nil_of_mem
      (List.mem_filterMap.mpr ⟨_, scalar_mem_walk.mpr hs, (rfl : _ = some s)⟩)

/-! ## Well-shaped lists let the walk through -/

theorem WellShaped.walk_allows {values : List Value} (h : WellShaped values) :
    (walk values).Pairwise Visit.Allows := by
  refine List.pairwise_of_forall_mem_list fun u hu w hw => ?_
  cases u with
  | list _ => trivial
  | scalar d s =>
      have hs := scalar_mem_walk.mp hu
      cases w with
      | scalar d' s' =>
          have hs' := scalar_mem_walk.mp hw
          exact ⟨h.one_depth d d' (List.ne_nil_of_mem hs) (List.ne_nil_of_mem hs'),
            h.one_kind d d' s hs s' hs'⟩
      | list d' =>
          show d' < d
          refine Decidable.byContradiction fun hle => list_mem_walk.mp hw ?_
          exact h.no_list_beside d d' (List.ne_nil_of_mem hs) (Nat.not_lt.mp hle)
      | ending _ _ => trivial
  | ending d n =>
      cases w with
      | ending d' n' =>
          obtain ⟨l, hl, rfl⟩ := ending_mem_walk.mp hu
          obtain ⟨l', hl', rfl⟩ := ending_mem_walk.mp hw
          rintro rfl
          exact h.equal_lengths d l hl l' hl'
      | list _ | scalar _ _ => trivial

/-! ## What the walk leaves of well-shaped lists -/

section Reached

variable {values : List Value} {f : Flattened} {depth : Nat}

theorem Reached.length_mem (h : Reached (walk values) f) {l : List Value}
    (hl : l ∈ listsAt depth values) : (depth, l.length) ∈ f.lengths :=
  (h.lengths _ _).mpr (ending_mem_walk.mpr ⟨l, hl, rfl⟩)

theorem Reached.exists_list (h : Reached (walk values) f) {p : Nat × Nat} (hp : p ∈ f.lengths) :
    ∃ l ∈ listsAt p.1 values, l.length = p.2 :=
  ending_mem_walk.mp ((h.lengths _ _).mp hp)

theorem Reached.equal_lengths (h : Reached (walk values) f) {l l' : List Value}
    (hl : l ∈ listsAt depth values) (hl' : l' ∈ listsAt depth values) :
    l.length = l'.length := by
  have hfound := (lookup_eq_some_iff_mem h.sorted).mpr (h.length_mem hl)
  rw [(lookup_eq_some_iff_mem h.sorted).mpr (h.length_mem hl')] at hfound
  exact (Option.some.inj hfound).symm

theorem Reached.depth_eq (h : Reached (walk values) f) (hne : scalarsAt depth values ≠ []) :
    f.scalarDepth = some depth := by
  obtain ⟨s, hs⟩ := List.exists_mem_of_ne_nil _ hne
  exact (h.scalarDepth depth).mpr ⟨s, scalar_mem_walk.mpr hs⟩

theorem Reached.scalars_ne_nil (h : Reached (walk values) f) (hdepth : f.scalarDepth = some depth) :
    scalarsAt depth values ≠ [] := by
  obtain ⟨s, hs⟩ := (h.scalarDepth depth).mp hdepth
  exact List.ne_nil_of_mem (scalar_mem_walk.mp hs)

/-- A list that is an element where scalars stand, or deeper, leaves a length of
zero in the table. -/
theorem Reached.zero_mem (h : Reached (walk values) f) {depth' : Nat}
    (hdepth : f.scalarDepth = some depth) (hle : depth ≤ depth')
    (hbeside : listsAt (depth' + 1) values ≠ []) : 0 ∈ f.lengths.map Prod.snd := by
  have hlists : listsAt (depth + 1) values ≠ [] := by
    refine listsAt_ne_nil (depth' - depth) ?_
    rwa [show depth + 1 + (depth' - depth) = depth' + 1 by omega]
  obtain ⟨l, hl⟩ := List.exists_mem_of_ne_nil _ hlists
  have hnone : Value.scalarsAll l = [] := by
    refine Decidable.byContradiction fun hne => ?_
    obtain ⟨below, hsome⟩ := scalarsAll_ne_nil_iff.mp hne
    obtain ⟨s, hs⟩ := List.exists_mem_of_ne_nil _ hsome
    have hdeep := mem_scalarsAt.mpr (itemsAt_add hl (mem_scalarsAt.mp hs))
    have := hdepth.symm.trans (h.depth_eq (List.ne_nil_of_mem hdeep))
    have := Option.some.inj this
    omega
  obtain ⟨below, hempty⟩ := Value.ends_empty_all l hnone
  exact List.mem_map.mpr ⟨_, h.length_mem (listsAt_add hl hempty), rfl⟩

theorem Reached.wellShaped (h : Reached (walk values) f)
    (hzero : ∀ d, f.scalarDepth = some d → 0 ∉ f.lengths.map Prod.snd) : WellShaped values where
  equal_lengths _ _ hl _ hl' := h.equal_lengths hl hl'
  one_depth d d' hd hd' := Option.some.inj ((h.depth_eq hd).symm.trans (h.depth_eq hd'))
  no_list_beside d d' hd hle := by
    have hdepth := h.depth_eq hd
    exact Decidable.byContradiction fun hne => hzero d hdepth (h.zero_mem hdepth hle hne)
  one_kind d d' s hs s' hs' hnull hnull' := by
    have hkind := (h.kind s.kind).mpr ⟨d, s, scalar_mem_walk.mpr hs, hnull, rfl⟩
    rw [(h.kind s'.kind).mpr ⟨d', s', scalar_mem_walk.mpr hs', hnull', rfl⟩] at hkind
    exact (Option.some.inj hkind).symm

/-- The length that the lists of a depth have. -/
def lengthAt (values : List Value) (depth : Nat) : Nat := ((listsAt depth values).headD []).length

theorem WellShaped.length_eq (h : WellShaped values) {l : List Value}
    (hl : l ∈ listsAt depth values) : l.length = lengthAt values depth := by
  unfold lengthAt
  cases hlists : listsAt depth values with
  | nil => exact absurd (hlists ▸ hl) List.not_mem_nil
  | cons first rest =>
      exact h.equal_lengths depth l hl first (hlists ▸ List.mem_cons_self ..)

theorem WellShaped.hasShape (h : WellShaped values) (hne : scalarsAt depth values ≠ []) :
    HasShape ((List.range (depth + 1)).map (lengthAt values)) (.array values) := by
  refine hasShape_of_depth (fun d l hl => h.length_eq hl) (fun d hd => ?_) ?_
  · exact Decidable.byContradiction fun hsome => Nat.ne_of_lt hd (h.one_depth d depth hsome hne)
  · exact h.no_list_beside depth depth hne (Nat.le_refl depth)

theorem WellShaped.listsAt_ne_nil_iff (h : WellShaped values) (hne : scalarsAt depth values ≠ [])
    {d : Nat} : listsAt d values ≠ [] ↔ d < depth + 1 := by
  constructor
  · intro hlists
    refine Decidable.byContradiction fun hlt => hlists ?_
    have := h.no_list_beside depth (d - 1) hne (by omega)
    rwa [show d - 1 + 1 = d by omega] at this
  · intro hlt
    obtain ⟨s, hs⟩ := List.exists_mem_of_ne_nil _ hne
    obtain ⟨l, hl, -⟩ := mem_itemsAt.mp (mem_scalarsAt.mp hs)
    refine listsAt_ne_nil (depth - d) ?_
    rw [show d + (depth - d) = depth by omega]
    exact List.ne_nil_of_mem hl

/-- The table holds the lengths of all depths down to the scalars. -/
theorem Reached.lengths_eq (h : Reached (walk values) f) (hshape : WellShaped values)
    (hne : scalarsAt depth values ≠ []) :
    f.lengths = (List.range (depth + 1)).map fun d => (d, lengthAt values d) := by
  have hkeys : f.lengths.map Prod.fst = List.range (depth + 1) := by
    refine (List.pairwise_map.mpr h.sorted).eq_of_mem_iff List.pairwise_lt_range fun d => ?_
    rw [List.mem_range, ← hshape.listsAt_ne_nil_iff hne, List.mem_map]
    constructor
    · rintro ⟨p, hp, rfl⟩
      obtain ⟨l, hl, -⟩ := h.exists_list hp
      exact List.ne_nil_of_mem hl
    · intro hlists
      obtain ⟨l, hl⟩ := List.exists_mem_of_ne_nil _ hlists
      exact ⟨_, h.length_mem hl, rfl⟩
  have hentries : ∀ p ∈ f.lengths, id p = (p.1, lengthAt values p.1) := by
    intro p hp
    obtain ⟨l, hl, hlength⟩ := h.exists_list hp
    exact Prod.ext rfl (hlength.symm.trans (hshape.length_eq hl))
  rw [← hkeys, List.map_map]
  exact (List.map_id f.lengths).symm.trans (List.map_congr_left hentries)

end Reached

/-! ## The array behind the walk -/

/-- What is made of the walk when it has ended. -/
def Flattened.finish (f : Flattened) : Except ArrayError PgArray := do
  if f.scalarDepth.isNone then
    return ⟨[], []⟩
  let dimensions ← f.lengths.mapM dimension
  let expected := dimensions.foldl (fun n d => n * d.length) 1
  if expected ≠ f.elements.length then
    throw (.elementCount expected f.elements.length)
  return ⟨dimensions, f.elements⟩

theorem ofValues_eq (values : List Value) :
    ofValues values = Flattened.run {} (walk values) >>= Flattened.finish := by
  rw [walk, Flattened.run_append, ← Flattened.addItems_eq, bind_assoc]
  simp only [Flattened.run_singleton, Flattened.visit]
  rfl

theorem mapM_dimension {lengths : List (Nat × Nat)} (h : ∀ p ∈ lengths, p.2 ≤ maxLength) :
    lengths.mapM dimension = .ok (lengths.map fun p => { length := p.2 }) := by
  induction lengths with
  | nil => rfl
  | cons p rest ih =>
      obtain ⟨hp, hrest⟩ := List.forall_mem_cons.mp h
      rw [List.mapM_cons, ih hrest, dimension, if_pos hp]
      rfl

theorem Flattened.finish_of_none {f : Flattened} (h : f.scalarDepth = none) :
    f.finish = .ok ⟨[], []⟩ := by
  rw [finish, h]
  rfl

theorem Flattened.finish_of_some {f : Flattened} {depth : Nat} (h : f.scalarDepth = some depth)
    (hfits : ∀ p ∈ f.lengths, p.2 ≤ maxLength) :
    f.finish
      = if (f.lengths.map Prod.snd).prod = f.elements.length then
          .ok ⟨f.lengths.map fun p => { length := p.2 }, f.elements⟩
        else .error (.elementCount (f.lengths.map Prod.snd).prod f.elements.length) := by
  have hexpected : (f.lengths.map fun p => ({ length := p.2 } : Dimension)).foldl
      (fun n d => n * d.length) 1 = (f.lengths.map Prod.snd).prod := by
    rw [List.prod_eq_foldl, List.foldl_map, List.foldl_map]
  rw [finish, h, mapM_dimension hfits]
  simp only [Option.isNone_some, Bool.false_eq_true, if_false, bind, Except.bind, hexpected]
  by_cases heq : (f.lengths.map Prod.snd).prod = f.elements.length
  · rw [if_pos heq, if_neg (not_not_intro heq)]
    rfl
  · rw [if_neg heq, if_pos heq]
    rfl

/-! ## Acceptance -/

/-- The array of a list of values with scalars in it: a dimension for each
depth, as long as the lists there, and the scalars in order. Cutting these by the
dimensions gives the list back. -/
structure Arranges (values : List Value) (a : PgArray) : Prop where
  dimensions : ∀ depth, a.dimensions[depth]?
    = (listsAt depth values).head?.map fun l => { length := l.length, lowerBound := 1 }
  count : (a.dimensions.map Dimension.length).prod = a.elements.length
  elements : a.elements = Value.scalarsAll values
  regrouped : regroup (a.dimensions.map Dimension.length) a.elements = .array values

theorem WellShaped.arranges {values : List Value} {f : Flattened} {depth : Nat}
    (hshape : WellShaped values) (h : Reached (walk values) f)
    (hdepth : f.scalarDepth = some depth) :
    Arranges values ⟨f.lengths.map fun p => { length := p.2 }, f.elements⟩ := by
  have hne := h.scalars_ne_nil hdepth
  have hscalars : f.elements = Value.scalarsAll values := h.elements.trans (scalars_walk values)
  have hlengths : (f.lengths.map fun p => ({ length := p.2 } : Dimension)).map Dimension.length
      = (List.range (depth + 1)).map (lengthAt values) := by
    rw [h.lengths_eq hshape hne, List.map_map, List.map_map]
    rfl
  have harray := hshape.hasShape hne
  refine ⟨fun d => ?_, ?_, hscalars, ?_⟩
  · have hlists := hshape.listsAt_ne_nil_iff hne (d := d)
    rw [h.lengths_eq hshape hne, List.map_map, List.getElem?_map]
    cases hd : listsAt d values with
    | nil =>
        have hout : ¬d < depth + 1 := fun hlt => hlists.mpr hlt hd
        rw [List.getElem?_eq_none (by simpa using hout)]
        rfl
    | cons first rest =>
        have hin : d < depth + 1 := hlists.mp (by rw [hd]; exact List.cons_ne_nil _ _)
        rw [List.getElem?_range hin]
        simp [lengthAt, hd]
  · rw [hlengths, ← harray.scalars_length, hscalars]
    rfl
  · rw [hlengths, hscalars]
    exact harray.regroup_scalars

/-- What the check makes of nested lists whose walk went through. -/
def Flattened.Decides (values : List Value) (result : Except ArrayError PgArray) : Prop :=
  match result with
  | .ok a =>
      WellShaped values ∧ (Value.scalarsAll values = [] → a = ⟨[], []⟩)
        ∧ (Value.scalarsAll values ≠ [] → Arranges values a)
  | .error _ => ¬WellShaped values

theorem Reached.finish_decides {values : List Value} {f : Flattened} (hfits : Fits values)
    (h : Reached (walk values) f) : Flattened.Decides values f.finish := by
  cases hdepth : f.scalarDepth with
  | none =>
      have hnone : Value.scalarsAll values = [] := by
        refine Decidable.byContradiction fun hne => ?_
        obtain ⟨depth, hscalars⟩ := scalarsAll_ne_nil_iff.mp hne
        cases hdepth.symm.trans (h.depth_eq hscalars)
      rw [Flattened.finish_of_none hdepth]
      refine ⟨h.wellShaped fun d hd => ?_, fun _ => rfl, fun hne => absurd hnone hne⟩
      cases hdepth.symm.trans hd
  | some depth =>
      have hshort : ∀ p ∈ f.lengths, p.2 ≤ maxLength := fun p hp => by
        obtain ⟨l, hl, hlength⟩ := h.exists_list hp
        exact hlength ▸ hfits p.1 l hl
      have hscalars := h.scalars_ne_nil hdepth
      have hne : Value.scalarsAll values ≠ [] := scalarsAll_ne_nil_iff.mpr ⟨depth, hscalars⟩
      rw [Flattened.finish_of_some hdepth hshort]
      split
      · rename_i hcount
        -- a length of zero says that there is no element, but there is a scalar
        have hzero : 0 ∉ f.lengths.map Prod.snd := by
          intro hmem
          have hprod : (f.lengths.map Prod.snd).prod = 0 := List.prod_eq_zero hmem
          rw [hprod, h.elements, scalars_walk] at hcount
          exact hne (List.length_eq_zero_iff.mp hcount.symm)
        have hshape := h.wellShaped fun _ _ => hzero
        exact ⟨hshape, fun hnone => absurd hnone hne, fun _ => hshape.arranges h hdepth⟩
      · rename_i hcount
        intro hshape
        have := (hshape.arranges h hdepth).count
        rw [List.map_map] at this
        exact hcount this

theorem ofValues_decides {values : List Value} (hfits : Fits values) :
    Flattened.Decides values (ofValues values) := by
  have hrun := Reached.nil.run_cases List.Pairwise.nil (walk values)
  rw [ofValues_eq]
  cases hf : Flattened.run {} (walk values) with
  | error e =>
      rw [hf] at hrun
      exact fun hshape => hrun hshape.walk_allows
  | ok f =>
      rw [hf] at hrun
      exact hrun.2.finish_decides hfits

/-- Nested lists are accepted if and only if they are well shaped, and otherwise
refused with the reason why they are no array. Those with scalars in them become
the array that holds just these; those without become the array without
dimensions. -/
theorem accepts_well_shaped (values : List Value) (hfits : Fits values) :
    ((∃ a, ofValues values = .ok a) ↔ WellShaped values)
    ∧ (¬WellShaped values → ∃ e, ofValues values = .error e
        ∧ ∀ index params, (PgParams.pushArray index values params).result
            = .error (.arrayConstruction e))
    ∧ ∀ a, ofValues values = .ok a →
        (Value.scalarsAll values = [] → a = ⟨[], []⟩)
        ∧ (Value.scalarsAll values ≠ [] → Arranges values a) := by
  have hdecides := ofValues_decides hfits
  cases h : ofValues values with
  | error e =>
      rw [h] at hdecides
      refine ⟨⟨nofun, fun hshape => absurd hshape hdecides⟩, fun _ => ⟨e, rfl, ?_⟩, nofun⟩
      intro index params
      rw [PgParams.pushArray, h]
  | ok a =>
      rw [h] at hdecides
      obtain ⟨hshape, hresult⟩ := hdecides
      refine ⟨⟨fun _ => hshape, fun _ => ⟨a, rfl⟩⟩, fun hnot => absurd hshape hnot, ?_⟩
      rintro _ ⟨⟩
      exact hresult

/-- A table of two rows with a null in it fits, is well shaped and becomes an array
of two dimensions. -/
theorem accepts_well_shaped_table :
    let table := [.array [.scalar (.int32 1), .scalar .null],
      .array [.scalar (.int32 3), .scalar (.int32 4)]]
    Fits table ∧ WellShaped table ∧ Arranges table
      ⟨[{ length := 2 }, { length := 2 }], [.int32 1, .null, .int32 3, .int32 4]⟩ := by
  intro table
  have hfits : Fits table := by
    intro depth l hl
    match depth with
    | 0 | 1 =>
        simp only [table, listsAt, itemsAt, List.filterMap, Value.elements?, List.mem_cons,
          List.not_mem_nil, or_false] at hl
        rcases hl with rfl | rfl <;> simp [maxLength]
    | below + 2 =>
        have hdeep : listsAt 2 table = [] := rfl
        rw [Nat.add_comm] at hl
        exact absurd hdeep (listsAt_ne_nil below (List.ne_nil_of_mem hl))
  have haccepted : ofValues table = .ok
      ⟨[{ length := 2 }, { length := 2 }], [.int32 1, .null, .int32 3, .int32 4]⟩ := rfl
  obtain ⟨hiff, -, hresult⟩ := accepts_well_shaped table hfits
  exact ⟨hfits, hiff.mp ⟨_, haccepted⟩, (hresult _ haccepted).2 (List.cons_ne_nil _ _)⟩

end PgArray

end SqlBuilder
