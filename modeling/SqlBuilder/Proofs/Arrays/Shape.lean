import Mathlib.Algebra.BigOperators.Group.List.Basic
import SqlBuilder.Postgres.Array

/-!
# Nested lists and their shapes

What stands at which depth of nested lists, and what it takes for them to be an
array: `WellShaped`. A value that has a shape holds as many scalars as the shape
says, and is got back by cutting its scalars into blocks
(`HasShape.scalars_length`, `HasShape.regroup_scalars`).
-/

namespace SqlBuilder

/-! ## What stands at a depth -/

mutual

/-- The scalars of a value, the last index running fastest. -/
def Value.scalars : Value → List Scalar
  | .scalar s => [s]
  | .array elements => Value.scalarsAll elements

def Value.scalarsAll : List Value → List Scalar
  | [] => []
  | v :: rest => v.scalars ++ Value.scalarsAll rest

end

theorem Value.scalarsAll_eq_flatMap (vs : List Value) :
    Value.scalarsAll vs = vs.flatMap Value.scalars := by
  induction vs with
  | nil => rfl
  | cons v rest ih => rw [Value.scalarsAll, ih, List.flatMap_cons]

def Value.scalar? : Value → Option Scalar
  | .scalar s => some s
  | .array _ => none

def Value.elements? : Value → Option (List Value)
  | .scalar _ => none
  | .array elements => some elements

@[simp] theorem Value.scalar?_eq_some {v : Value} {s : Scalar} :
    v.scalar? = some s ↔ v = .scalar s := by
  cases v <;> simp [Value.scalar?]

@[simp] theorem Value.elements?_eq_some {v : Value} {vs : List Value} :
    v.elements? = some vs ↔ v = .array vs := by
  cases v <;> simp [Value.elements?]

namespace PgArray

/-- The elements that stand at a depth; the outermost list's own are at depth
zero. -/
def itemsAt : Nat → List Value → List Value
  | 0, values => values
  | depth + 1, values => (values.filterMap Value.elements?).flatMap (itemsAt depth)

/-- The lists of a depth: the outermost list by itself, then those that are
elements at the depth before. -/
def listsAt : Nat → List Value → List (List Value)
  | 0, values => [values]
  | depth + 1, values => (itemsAt depth values).filterMap Value.elements?

/-- The scalars among the elements at a depth. -/
def scalarsAt (depth : Nat) (values : List Value) : List Scalar :=
  (itemsAt depth values).filterMap Value.scalar?

/-- What nested lists must be like to be an array. -/
structure WellShaped (values : List Value) : Prop where
  equal_lengths : ∀ depth, ∀ l ∈ listsAt depth values, ∀ l' ∈ listsAt depth values,
    l.length = l'.length
  one_depth : ∀ depth depth', scalarsAt depth values ≠ [] → scalarsAt depth' values ≠ [] →
    depth = depth'
  /-- Where scalars stand, or deeper, no list is an element. -/
  no_list_beside : ∀ depth depth', scalarsAt depth values ≠ [] → depth ≤ depth' →
    listsAt (depth' + 1) values = []
  one_kind : ∀ depth depth', ∀ s ∈ scalarsAt depth values, ∀ s' ∈ scalarsAt depth' values,
    s.isNull = false → s'.isNull = false → s.kind = s'.kind

/-- No list is longer than a dimension can say. -/
def Fits (values : List Value) : Prop :=
  ∀ depth, ∀ l ∈ listsAt depth values, l.length ≤ maxLength

section Depths

variable {values l : List Value} {v : Value} {s : Scalar} {depth : Nat}

theorem mem_itemsAt_succ :
    v ∈ itemsAt (depth + 1) values ↔ ∃ l, .array l ∈ values ∧ v ∈ itemsAt depth l := by
  simp [itemsAt]

theorem mem_listsAt_succ : l ∈ listsAt (depth + 1) values ↔ .array l ∈ itemsAt depth values := by
  simp [listsAt]

theorem mem_scalarsAt : s ∈ scalarsAt depth values ↔ .scalar s ∈ itemsAt depth values := by
  simp [scalarsAt]

/-- The elements of a depth are those of its lists. -/
theorem mem_itemsAt : ∀ {depth : Nat} {values : List Value},
    v ∈ itemsAt depth values ↔ ∃ l ∈ listsAt depth values, v ∈ l
  | 0, values => by simp [itemsAt, listsAt]
  | depth + 1, values => by
      rw [mem_itemsAt_succ]
      constructor
      · rintro ⟨m, hm, hv⟩
        obtain ⟨l, hl, hvl⟩ := mem_itemsAt.mp hv
        refine ⟨l, mem_listsAt_succ.mpr ?_, hvl⟩
        cases depth with
        | zero =>
            obtain rfl := List.mem_singleton.mp hl
            exact hm
        | succ depth => exact mem_itemsAt_succ.mpr ⟨m, hm, mem_listsAt_succ.mp hl⟩
      · rintro ⟨l, hl, hv⟩
        rw [mem_listsAt_succ] at hl
        cases depth with
        | zero => exact ⟨l, hl, hv⟩
        | succ depth =>
            obtain ⟨m, hm, hlm⟩ := mem_itemsAt_succ.mp hl
            exact ⟨m, hm, mem_itemsAt.mpr ⟨l, mem_listsAt_succ.mpr hlm, hv⟩⟩

/-- What stands in a list of a depth stands that much deeper in the whole. -/
theorem itemsAt_add {below : Nat} (hl : l ∈ listsAt depth values) (hv : v ∈ itemsAt below l) :
    v ∈ itemsAt (depth + below) values := by
  induction depth generalizing l below with
  | zero =>
      obtain rfl := List.mem_singleton.mp hl
      rwa [Nat.zero_add]
  | succ depth ih =>
      obtain ⟨m, hm, hlm⟩ := mem_itemsAt.mp (mem_listsAt_succ.mp hl)
      have hv' : v ∈ itemsAt (below + 1) m := mem_itemsAt_succ.mpr ⟨l, hlm, hv⟩
      rw [Nat.add_right_comm, Nat.add_assoc]
      exact ih hm hv'

theorem listsAt_add {m : List Value} {below : Nat} (hl : l ∈ listsAt depth values)
    (hm : m ∈ listsAt below l) : m ∈ listsAt (depth + below) values := by
  cases below with
  | zero =>
      obtain rfl := List.mem_singleton.mp hm
      exact hl
  | succ below => exact mem_listsAt_succ.mpr (itemsAt_add hl (mem_listsAt_succ.mp hm))

/-- A list of some depth stands in lists of all depths before. -/
theorem listsAt_ne_nil (below : Nat) (h : listsAt (depth + below) values ≠ []) :
    listsAt depth values ≠ [] := by
  induction below with
  | zero => exact h
  | succ below ih =>
      refine ih ?_
      obtain ⟨l, hl⟩ := List.exists_mem_of_ne_nil _ h
      obtain ⟨m, hm, -⟩ := mem_itemsAt.mp (mem_listsAt_succ.mp hl)
      exact List.ne_nil_of_mem hm

end Depths

/-! ## Values that have a shape -/

/-- The value is nested as deep as there are lengths, and every list is as long
as that of its depth. -/
def HasShape : List Nat → Value → Prop
  | [], .scalar _ => True
  | n :: lengths, .array elements =>
      elements.length = n ∧ ∀ v ∈ elements, HasShape lengths v
  | _, _ => False

/-- So many blocks of a size, one after the other. -/
def blocks {α : Type} (size : Nat) : Nat → List α → List (List α)
  | 0, _ => []
  | count + 1, as => as.take size :: blocks size count (as.drop size)

/-- The value of a shape with some scalars. -/
def regroup : List Nat → List Scalar → Value
  | [], scalars => .scalar (scalars.headD .null)
  | n :: lengths, scalars => .array ((blocks lengths.prod n scalars).map (regroup lengths))

namespace HasShape

theorem cases_cons {n : Nat} {lengths : List Nat} {v : Value} (h : HasShape (n :: lengths) v) :
    ∃ elements, v = .array elements ∧ elements.length = n
      ∧ ∀ v ∈ elements, HasShape lengths v := by
  cases v with
  | scalar s => exact absurd h id
  | array elements => exact ⟨elements, rfl, h⟩

theorem cases_nil {v : Value} (h : HasShape [] v) : ∃ s, v = .scalar s := by
  cases v with
  | scalar s => exact ⟨s, rfl⟩
  | array elements => exact absurd h id

theorem scalars_length {lengths : List Nat} {v : Value} (h : HasShape lengths v) :
    v.scalars.length = lengths.prod := by
  induction lengths generalizing v with
  | nil =>
      obtain ⟨s, rfl⟩ := h.cases_nil
      rfl
  | cons n lengths ih =>
      obtain ⟨elements, rfl, rfl, helements⟩ := h.cases_cons
      rw [Value.scalars, Value.scalarsAll_eq_flatMap, List.length_flatMap, List.prod_cons,
        List.map_congr_left fun v hv => ih (helements v hv)]
      simp

theorem regroup_scalars {lengths : List Nat} {v : Value} (h : HasShape lengths v) :
    regroup lengths v.scalars = v := by
  induction lengths generalizing v with
  | nil =>
      obtain ⟨s, rfl⟩ := h.cases_nil
      rfl
  | cons n lengths ih =>
      obtain ⟨elements, rfl, rfl, helements⟩ := h.cases_cons
      rw [regroup, Value.scalars]
      congr 1
      clear h
      induction elements with
      | nil => rfl
      | cons v rest ihrest =>
          obtain ⟨hv, hrest⟩ := List.forall_mem_cons.mp helements
          rw [List.length_cons, blocks, Value.scalarsAll, ← hv.scalars_length, List.take_left,
            List.drop_left, List.map_cons, ih hv, hv.scalars_length, ihrest hrest]

end HasShape

/-- If all scalars stand at one depth, with no list beside them, and lists of one
depth have one length, then these lengths are a shape. -/
theorem hasShape_of_depth {depth : Nat} {values : List Value} {length : Nat → Nat}
    (hlength : ∀ d, ∀ l ∈ listsAt d values, l.length = length d)
    (hscalars : ∀ d < depth, scalarsAt d values = []) (hdeep : listsAt (depth + 1) values = []) :
    HasShape ((List.range (depth + 1)).map length) (.array values) := by
  induction depth generalizing values length with
  | zero =>
      refine ⟨hlength 0 values (List.mem_singleton_self _), fun v hv => ?_⟩
      cases v with
      | scalar s => trivial
      | array l => exact absurd (hdeep ▸ mem_listsAt_succ.mpr hv) List.not_mem_nil
  | succ depth ih =>
      rw [List.range_succ_eq_map, List.map_cons, List.map_map]
      refine ⟨hlength 0 values (List.mem_singleton_self _), fun v hv => ?_⟩
      cases v with
      | scalar s =>
          have hs : s ∈ scalarsAt 0 values := mem_scalarsAt.mpr hv
          rw [hscalars 0 (Nat.zero_lt_succ depth)] at hs
          exact absurd hs List.not_mem_nil
      | array m =>
          have hm : m ∈ listsAt 1 values := mem_listsAt_succ.mpr hv
          refine ih ?_ ?_ ?_
          · intro d l hl
            have := listsAt_add hm hl
            rw [Nat.add_comm] at this
            exact hlength (d + 1) l this
          · intro d hd
            refine List.eq_nil_iff_forall_not_mem.mpr fun s hs => ?_
            have := itemsAt_add hm (mem_scalarsAt.mp hs)
            rw [Nat.add_comm, ← mem_scalarsAt, hscalars (d + 1) (Nat.succ_lt_succ hd)] at this
            exact absurd this List.not_mem_nil
          · refine List.eq_nil_iff_forall_not_mem.mpr fun l hl => ?_
            have := listsAt_add hm hl
            rw [Nat.add_comm, hdeep] at this
            exact absurd this List.not_mem_nil

mutual

/-- A value without any scalar is nested lists that end in an empty one. -/
theorem Value.ends_empty : ∀ v : Value, v.scalars = [] →
    ∃ l, v = .array l ∧ ∃ depth, [] ∈ listsAt depth l
  | .scalar s, h => absurd h (List.cons_ne_nil s [])
  | .array elements, h => ⟨elements, rfl, Value.ends_empty_all elements h⟩

theorem Value.ends_empty_all : ∀ values : List Value, Value.scalarsAll values = [] →
    ∃ depth, [] ∈ listsAt depth values
  | [], _ => ⟨0, List.mem_singleton_self _⟩
  | v :: rest, h => by
      rw [Value.scalarsAll, List.append_eq_nil_iff] at h
      obtain ⟨l, rfl, depth, hempty⟩ := Value.ends_empty v h.1
      have hl : l ∈ listsAt 1 (.array l :: rest) := mem_listsAt_succ.mpr (List.mem_cons_self ..)
      exact ⟨1 + depth, listsAt_add hl hempty⟩

end

end PgArray

end SqlBuilder
