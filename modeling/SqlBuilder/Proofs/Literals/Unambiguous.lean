import SqlBuilder.Proofs.Arrays.Shape
import SqlBuilder.Proofs.Literals.Scalars

/-!
# Literals tell their values

The literal of an array is taken apart element by element. Whatever an element holds, it
is told where its literal ends: an atom in front of a comma or a bracket, an array at
the bracket that closes it (`Value.literal_append_inj`, by induction on the value). So
two values whose scalars are null or of one kind have one literal only if they are
equal (`literals_unambiguous`).
-/

namespace SqlBuilder

open Literal (Ends Atom)

namespace Value

/-- What stands behind the first element of an array. -/
def tail : List Value → List Char
  | [] => [']']
  | v :: rest => ',' :: ' ' :: (v.literal.toList ++ tail rest)

/-- What stands behind the opening bracket of an array. -/
def interior : List Value → List Char
  | [] => [']']
  | v :: rest => v.literal.toList ++ tail rest

theorem ends_tail (vs : List Value) (rest : List Char) : Ends (tail vs ++ rest) := by
  cases vs <;> simp [tail, Ends]

theorem toList_literal_array (vs : List Value) :
    (array vs).literal.toList = 'A' :: ("RRAY[".toList ++ interior vs) := by
  have hinterior (v : Value) (vs : List Value) :
      (", ".intercalate (literals (v :: vs))).toList ++ [']'] = v.literal.toList ++ tail vs := by
    induction vs generalizing v with
    | nil => simp [literals, tail]
    | cons w vs ih =>
        have hcons : ", ".intercalate (literals (v :: w :: vs))
            = v.literal ++ ", " ++ ", ".intercalate (literals (w :: vs)) :=
          String.intercalate_cons_cons
        rw [hcons, String.toList_append, String.toList_append, List.append_assoc, ih]
        simp [tail]
  cases vs with
  | nil => rfl
  | cons v vs =>
      rw [interior, ← hinterior]
      simp [literal, arrayLiteral]

/-- All scalars are null or of one kind. -/
def OfKind (k : ValueKind) (v : Value) : Prop := ∀ s ∈ v.scalars, s = .null ∨ s.kind = k

section Kinds

variable {k : ValueKind} {s : Scalar} {v w : Value} {vs ws : List Value} {rest rest' : List Char}

theorem ofKind_scalar : OfKind k (.scalar s) ↔ s = .null ∨ s.kind = k :=
  List.forall_mem_singleton

theorem ofKind_array : OfKind k (.array vs) ↔ ∀ v ∈ vs, OfKind k v := by
  rw [OfKind, scalars, scalarsAll_eq_flatMap, List.forall_mem_flatMap]
  rfl

theorem OfKind.atom (hk : k ∈ ValueKind.atomic) (hs : OfKind k (.scalar s)) : Atom s.literal :=
  Scalar.atom_literal ((ofKind_scalar.mp hs).imp_right fun hkind : s.kind = k => hkind ▸ hk)

theorem scalar_ne_array (hk : k ∈ ValueKind.atomic) (hs : OfKind k (.scalar s)) :
    s.literal.toList ++ rest ≠ (array ws).literal.toList ++ rest' := by
  obtain ⟨c, cs, hcons, hc, -⟩ := (hs.atom hk).exists_cons
  rw [hcons, toList_literal_array]
  simp [hc]

/-- No element begins with the bracket that closes an array. -/
theorem interior_nil_ne_cons (hk : k ∈ ValueKind.atomic) (hw : OfKind k w) :
    interior [] ++ rest ≠ interior (w :: ws) ++ rest' := by
  have hhead : ∃ c cs, w.literal.toList = c :: cs ∧ c ≠ ']' := by
    cases w with
    | scalar s =>
        obtain ⟨c, cs, hcons, -, hc⟩ := (hw.atom hk).exists_cons
        exact ⟨c, cs, hcons, hc⟩
    | array ws => exact ⟨_, _, toList_literal_array ws, by decide⟩
  obtain ⟨c, cs, hcons, hc⟩ := hhead
  rw [interior, interior, hcons]
  simp [hc.symm]

/-- The first elements stand alone, all others behind a comma; but arrays with equal texts
behind their brackets both have a first element, or none. -/
theorem tail_append_eq (hk : k ∈ ValueKind.atomic) (hvs : ∀ v ∈ vs, OfKind k v)
    (hws : ∀ w ∈ ws, OfKind k w) (h : interior vs ++ rest = interior ws ++ rest') :
    tail vs ++ rest = tail ws ++ rest' := by
  match vs, ws with
  | [], [] => exact h
  | [], _ :: _ => exact absurd h (interior_nil_ne_cons hk (List.forall_mem_cons.mp hws).1)
  | _ :: _, [] => exact absurd h.symm (interior_nil_ne_cons hk (List.forall_mem_cons.mp hvs).1)
  | v :: vs, w :: ws => exact congrArg (fun cs => ',' :: ' ' :: cs) h

end Kinds

mutual

/-- A literal tells its value and where it ends, whatever follows. -/
theorem literal_append_inj {k : ValueKind} (hk : k ∈ ValueKind.atomic) : ∀ {v w : Value},
    OfKind k v → OfKind k w → ∀ {rest rest' : List Char}, Ends rest → Ends rest' →
      v.literal.toList ++ rest = w.literal.toList ++ rest' → v = w ∧ rest = rest'
  | .scalar s, .scalar t, hv, hw, _, _, hrest, hrest', h => by
      obtain ⟨hliteral, hsame⟩ := (hv.atom hk).append_inj (hw.atom hk) hrest hrest' h
      have hst := Scalar.eq_of_literal_eq hk (ofKind_scalar.mp hv) (ofKind_scalar.mp hw) hliteral
      exact ⟨congrArg _ hst, hsame⟩
  -- An array begins with a letter that no atom begins with.
  | .scalar s, .array ws, hv, _, _, _, _, _, h => absurd h (scalar_ne_array hk hv)
  | .array vs, .scalar t, _, hw, _, _, _, _, h => absurd h.symm (scalar_ne_array hk hw)
  | .array vs, .array ws, hv, hw, _, _, _, _, h => by
      have hvs := ofKind_array.mp hv
      have hws := ofKind_array.mp hw
      simp only [toList_literal_array, List.cons_append, List.append_assoc, List.cons.injEq,
        List.append_cancel_left_eq, true_and] at h
      obtain ⟨hsame, hrest⟩ := tail_append_inj hk hvs hws (tail_append_eq hk hvs hws h)
      exact ⟨congrArg _ hsame, hrest⟩

theorem tail_append_inj {k : ValueKind} (hk : k ∈ ValueKind.atomic) : ∀ {vs ws : List Value},
    (∀ v ∈ vs, OfKind k v) → (∀ w ∈ ws, OfKind k w) → ∀ {rest rest' : List Char},
      tail vs ++ rest = tail ws ++ rest' → vs = ws ∧ rest = rest'
  | [], [], _, _, _, _, h => ⟨rfl, (List.cons.inj h).2⟩
  | [], w :: ws, _, _, _, _, h => absurd (List.cons.inj h).1 (by decide)
  | v :: vs, [], _, _, _, _, h => absurd (List.cons.inj h).1 (by decide)
  | v :: vs, w :: ws, hvs, hws, rest, rest', h => by
      obtain ⟨hv, hvs⟩ := List.forall_mem_cons.mp hvs
      obtain ⟨hw, hws⟩ := List.forall_mem_cons.mp hws
      simp only [tail, List.cons_append, List.append_assoc, List.cons.injEq, true_and] at h
      obtain ⟨hfirst, htails⟩ :=
        literal_append_inj hk hv hw (ends_tail vs rest) (ends_tail ws rest') h
      obtain ⟨hothers, hrest⟩ := tail_append_inj hk hvs hws htails
      exact ⟨congrArg₂ _ hfirst hothers, hrest⟩

end

end Value

/-- Literals of one kind and of arrays of it, nulls among them, are equal exactly if the
values are. -/
theorem literals_unambiguous {k : ValueKind} (hk : k ∈ ValueKind.atomic) (v w : Value)
    (hv : v.OfKind k) (hw : w.OfKind k) : v.literal = w.literal ↔ v = w := by
  refine ⟨fun h => ?_, congrArg Value.literal⟩
  exact (Value.literal_append_inj hk hv hw Ends.nil Ends.nil (by rw [h])).1

/-- A text with the quotes and the comma between two texts is one text, and the word for
null in quotes is not null. -/
theorem literals_unambiguous_quotes :
    let one : Value := .array [.text "a', 'b", .array [.text "NULL"], .null]
    let two : Value := .array [.text "a", .text "b", .array [.null], .null]
    one.literal = "ARRAY['a'', ''b', ARRAY['NULL'], NULL]"
      ∧ two.literal = "ARRAY['a', 'b', ARRAY[NULL], NULL]"
      ∧ one.OfKind .text ∧ two.OfKind .text
      ∧ (one.literal = two.literal ↔ one = two) := by
  intro one two
  have hone : one.OfKind .text := by
    simp [one, Value.OfKind, Value.scalars, Value.scalarsAll, Value.text, Value.null, Scalar.kind]
  have htwo : two.OfKind .text := by
    simp [two, Value.OfKind, Value.scalars, Value.scalarsAll, Value.text, Value.null, Scalar.kind]
  exact ⟨rfl, rfl, hone, htwo, literals_unambiguous (by decide) one two hone htwo⟩

end SqlBuilder
