import SqlBuilder.Proofs.Literals.Calendar
import SqlBuilder.Proofs.Quoting.Reader
import SqlBuilder.Proofs.Rendering.ValueText

/-!
# Literals of scalars

The literal of a scalar is an atom: a word, which ends in front of a comma or a closing
bracket, or a string constant, which ends at the quote that closes it. Of two atoms that
begin one text, each ends where the other does (`Literal.Atom.append_inj`). For every kind but
those of floating-point numbers, bytes and JSON, the literals of the kind tell its
scalars, from each other and from null (`Scalar.eq_of_literal_eq`).
-/

namespace SqlBuilder

/-! ## Identifiers -/

namespace Hex

theorem digit_inj {m n : Nat} (hm : m < 16) (hn : n < 16) (h : digit m = digit n) : m = n := by
  rw [← Option.some_inj, ← digit?_digit m hm, h, digit?_digit n hn]

theorem byte_injective : Function.Injective byte := by
  intro b c h
  have hb := b.toNat_lt
  have hc := c.toNat_lt
  simp only [byte, List.cons.injEq, and_true] at h
  have hhigh := digit_inj (by omega) (by omega) h.1
  have hlow := digit_inj (by omega) (by omega) h.2
  exact UInt8.toNat_inj.mp (by omega)

theorem bytes_injective : Function.Injective bytes := by
  intro bs
  induction bs with
  | nil =>
      intro cs h
      cases cs with
      | nil => rfl
      | cons c cs => simp [bytes, byte] at h
  | cons b bs ih =>
      intro cs h
      cases cs with
      | nil => simp [bytes, byte] at h
      | cons c cs =>
          have happend : byte b ++ bytes bs = byte c ++ bytes cs := h
          obtain ⟨hbyte, hrest⟩ := List.append_inj happend rfl
          rw [byte_injective hbyte, ih hrest]

theorem hyphen_notMem_bytes (bs : List UInt8) : '-' ∉ bytes bs := by
  have hdigit : ∀ n < 16, '-' ≠ digit n := by decide
  intro h
  obtain ⟨b, -, hb⟩ := List.mem_flatMap.mp h
  have hlt := b.toNat_lt
  simp only [byte, List.mem_cons, List.not_mem_nil, or_false] at hb
  obtain hhigh | hlow := hb
  · exact hdigit _ (by omega) hhigh
  · exact hdigit _ (by omega) hlow

end Hex

namespace Uuid

/-- Without its hyphens, the text is the digits of the bytes. -/
theorem filter_grouped (sizes : List Nat) (bs : List UInt8) :
    (grouped sizes bs).filter (· != '-') = Hex.bytes (bs.take sizes.sum) := by
  have hbytes (bs : List UInt8) : (Hex.bytes bs).filter (· != '-') = Hex.bytes bs :=
    List.filter_eq_self.mpr fun c hc => by
      have hne : c ≠ '-' := ne_of_mem_of_not_mem hc (Hex.hyphen_notMem_bytes bs)
      simpa using hne
  fun_induction grouped sizes bs with
  | case1 => rfl
  | case2 n bs => simpa using hbytes (bs.take n)
  | case3 n ns bs _ ih =>
      rw [List.filter_append, hbytes, List.filter_cons_of_neg (by decide), ih, List.sum_cons,
        List.take_add]
      exact List.flatMap_append.symm

theorem text_injective : Function.Injective text := by
  intro u v h
  have hgroups : grouped groups u.bytes = grouped groups v.bytes := String.ofList_injective h
  have hread (w : Uuid) : (grouped groups w.bytes).filter (· != '-') = Hex.bytes w.bytes := by
    have hall : w.bytes.take groups.sum = w.bytes :=
      List.take_of_length_le (Nat.le_of_eq w.length_bytes)
    rw [filter_grouped, hall]
  have hbytes : Hex.bytes u.bytes = Hex.bytes v.bytes := by
    rw [← hread, hgroups, hread]
  cases u
  cases v
  simpa using Hex.bytes_injective hbytes

end Uuid

/-! ## Atoms -/

namespace Literal

/-- What can follow a literal within an array, or nothing at all. -/
def Ends (rest : List Char) : Prop := ∀ c ∈ rest.head?, c ∈ [',', ']']

theorem Ends.nil : Ends [] := nofun

theorem Ends.quote_notMem {rest : List Char} (h : Ends rest) : '\'' ∉ rest.head? :=
  fun hquote => absurd (h _ hquote) (by decide)

/-- Free of the characters that end a literal, and of those that a string constant and an
array begin with. -/
structure IsWord (text : String) : Prop where
  ne_empty : text ≠ ""
  plain : ∀ c ∈ text.toList, c ∉ [',', ']', '\'', 'A']

theorem IsWord.exists_cons {text : String} (h : IsWord text) : ∃ c cs, text.toList = c :: cs :=
  List.exists_cons_of_ne_nil (mt String.toList_eq_nil_iff.mp h.ne_empty)

/-- A word ends where the first comma or closing bracket stands. -/
theorem IsWord.takeWhile_append {text : String} (h : IsWord text) {rest : List Char}
    (hrest : Ends rest) : (text.toList ++ rest).takeWhile (· ∉ [',', ']']) = text.toList := by
  have hplain (c) (hc : c ∈ text.toList) : decide (c ∉ [',', ']']) = true := by
    have hmem := h.plain c hc
    simp_all
  rw [List.takeWhile_append_of_pos hplain]
  cases rest with
  | nil => simp
  | cons c rest =>
      have hc : c ∈ [',', ']'] := hrest c rfl
      rw [List.takeWhile_cons_of_neg (by rwa [decide_eq_true_eq, not_not]), List.append_nil]

/-- A string constant reads back behind the quote that opens it. -/
theorem read_stringConstant (text : String) {rest : List Char} (h : Ends rest) :
    ∃ cs, (stringConstant text).toList ++ rest = '\'' :: cs
      ∧ Quoted.read '\'' cs = some (text.toList, rest) :=
  ⟨_, by simp [stringConstant, quoted], Quoted.read_double text.toList h.quote_notMem⟩

theorem stringConstant_append_inj {s t : String} {rest rest' : List Char} (hrest : Ends rest)
    (hrest' : Ends rest')
    (h : (stringConstant s).toList ++ rest = (stringConstant t).toList ++ rest') :
    s = t ∧ rest = rest' := by
  obtain ⟨cs, hcs, hread⟩ := read_stringConstant s hrest
  obtain ⟨cs', hcs', hread'⟩ := read_stringConstant t hrest'
  have hsame : cs = cs' := by simpa [hcs, hcs'] using h
  rw [hsame, hread', Option.some.injEq, Prod.mk.injEq] at hread
  exact ⟨String.toList_inj.mp hread.1.symm, hread.2.symm⟩

theorem stringConstant_injective : Function.Injective stringConstant := fun s t h =>
  (stringConstant_append_inj Ends.nil Ends.nil (by rw [h])).1

/-- A literal that is no array. -/
inductive Atom : String → Prop
  | word {text : String} (h : IsWord text) : Atom text
  | constant (text : String) : Atom (stringConstant text)

namespace Atom

theorem exists_cons {text : String} (h : Atom text) :
    ∃ c cs, text.toList = c :: cs ∧ c ≠ 'A' ∧ c ≠ ']' := by
  cases h with
  | word h =>
      obtain ⟨c, cs, hcons⟩ := h.exists_cons
      have hc := h.plain c (by simp [hcons])
      exact ⟨c, cs, hcons, by simp_all, by simp_all⟩
  | constant text =>
      obtain ⟨cs, hconstant, -⟩ := read_stringConstant text Ends.nil
      exact ⟨'\'', cs, by simpa using hconstant, by decide, by decide⟩

variable {s t : String} {rest rest' : List Char}

theorem word_ne_constant (hs : IsWord s) (hrest' : Ends rest') :
    s.toList ++ rest ≠ (stringConstant t).toList ++ rest' := by
  obtain ⟨c, cs, hcons⟩ := hs.exists_cons
  obtain ⟨cs', hconstant, -⟩ := read_stringConstant t hrest'
  have hc := hs.plain c (by simp [hcons])
  rw [hcons, hconstant]
  simp_all

/-- Of two atoms that begin one text, each ends where the other does. -/
theorem append_inj (hs : Atom s) (ht : Atom t) (hrest : Ends rest) (hrest' : Ends rest')
    (h : s.toList ++ rest = t.toList ++ rest') : s = t ∧ rest = rest' := by
  cases hs with
  | word hs =>
      cases ht with
      | word ht =>
          have hst : s.toList = t.toList := by
            rw [← hs.takeWhile_append hrest, h, ht.takeWhile_append hrest']
          rw [hst, List.append_cancel_left_eq] at h
          exact ⟨String.toList_inj.mp hst, h⟩
      -- No word begins with a quote.
      | constant t => exact absurd h (word_ne_constant hs hrest')
  | constant s =>
      cases ht with
      | word ht => exact absurd h.symm (word_ne_constant ht hrest)
      | constant t =>
          obtain ⟨rfl, hsame⟩ := stringConstant_append_inj hrest hrest' h
          exact ⟨rfl, hsame⟩

end Atom

end Literal

/-! ## Scalars -/

open Literal (IsWord Atom stringConstant_injective)

theorem isDigit_or_minus_of_mem_toString {n : Int} {c : Char} (h : c ∈ (toString n).toList) :
    c.isDigit = true ∨ c = '-' := by
  cases n with
  | ofNat n => exact .inl (isDigit_of_mem_toString h)
  | negSucc n =>
      have htext : (toString (Int.negSucc n)).toList = '-' :: (toString (n + 1)).toList :=
        String.toList_append
      rw [htext, List.mem_cons] at h
      exact h.symm.imp_left isDigit_of_mem_toString

theorem isWord_toString (n : Int) : IsWord (toString n) where
  ne_empty := toString_int_ne_empty n
  plain c hc hmem := by
    have hdigit := isDigit_or_minus_of_mem_toString hc
    simp only [List.mem_cons, List.not_mem_nil, or_false] at hmem
    obtain rfl | rfl | rfl | rfl := hmem <;> exact absurd hdigit (by decide)

theorem toString_int_injective : Function.Injective (toString : Int → String) := by
  intro m n h
  rw [← Numeral.signedValue_toString m, h, Numeral.signedValue_toString]

/-- The kinds in which every scalar has an atom of its own. -/
def ValueKind.atomic : List ValueKind :=
  [.bool, .int16, .int32, .int64, .text, .date, .time, .timestamp, .timestampTz, .uuid]

namespace Scalar

theorem isWord_null : IsWord "NULL" := ⟨by decide, by simp⟩

theorem atom_literal {s : Scalar} (h : s = .null ∨ s.kind ∈ ValueKind.atomic) :
    Atom s.literal := by
  cases s with
  | null => exact .word isWord_null
  | bool b =>
      refine .word ?_
      cases b
      · exact ⟨by decide, by simp [literal]⟩
      · exact ⟨by decide, by simp [literal]⟩
  | int16 _ | int32 _ | int64 _ => exact .word (isWord_toString _)
  | text _ | date _ | time _ | timestamp _ | timestampTz _ | uuid _ => exact .constant _
  | float32 _ | float64 _ | bytes _ | json _ => simp [kind, ValueKind.atomic] at h

theorem literal_ne_null {s : Scalar} (h : s.kind ∈ ValueKind.atomic) :
    s.literal ≠ "NULL" := by
  have hinteger (n : Int) : toString n ≠ "NULL" := fun heq =>
    absurd (isDigit_or_minus_of_mem_toString (n := n) (c := 'N') (by rw [heq]; decide)) (by decide)
  have hconstant (text : String) : stringConstant text ≠ "NULL" := by
    rw [Ne, ← String.toList_inj]
    simp [stringConstant, quoted]
  cases s with
  | null => simp [kind, ValueKind.atomic] at h
  | bool b => cases b <;> decide
  | int16 _ | int32 _ | int64 _ => exact hinteger _
  | text _ | date _ | time _ | timestamp _ | timestampTz _ | uuid _ => exact hconstant _
  | float32 _ | float64 _ | bytes _ | json _ => simp [kind, ValueKind.atomic] at h

theorem eq_of_literal_eq_of_kind_eq {s t : Scalar} (hkind : s.kind ∈ ValueKind.atomic)
    (hst : t.kind = s.kind) (h : s.literal = t.literal) : s = t := by
  cases s with
  | bool b =>
      cases t with
      | bool c =>
          have hdistinct : ∀ b c, (bool b).literal = (bool c).literal → b = c := by decide
          exact congrArg _ (hdistinct b c h)
      | _ => cases hst
  | int16 m =>
      cases t with
      | int16 n => exact congrArg _ (Int16.toInt_inj.mp (toString_int_injective h))
      | _ => cases hst
  | int32 m =>
      cases t with
      | int32 n => exact congrArg _ (Int32.toInt_inj.mp (toString_int_injective h))
      | _ => cases hst
  | int64 m =>
      cases t with
      | int64 n => exact congrArg _ (Int64.toInt_inj.mp (toString_int_injective h))
      | _ => cases hst
  | text a =>
      cases t with
      | text b => exact congrArg _ (stringConstant_injective h)
      | _ => cases hst
  | date d =>
      cases t with
      | date e => exact congrArg _ (Date.text_injective (stringConstant_injective h))
      | _ => cases hst
  | time a =>
      cases t with
      | time b => exact congrArg _ (Time.text_injective (stringConstant_injective h))
      | _ => cases hst
  | timestamp a =>
      cases t with
      | timestamp b => exact congrArg _ (Timestamp.text_injective (stringConstant_injective h))
      | _ => cases hst
  | timestampTz a =>
      cases t with
      | timestampTz b =>
          have htexts : a.text ++ "+00:00" = b.text ++ "+00:00" := stringConstant_injective h
          exact congrArg _ (Timestamp.text_injective (String.append_left_inj _ |>.mp htexts))
      | _ => cases hst
  | uuid u =>
      cases t with
      | uuid v => exact congrArg _ (Uuid.text_injective (stringConstant_injective h))
      | _ => cases hst
  | null | float32 _ | float64 _ | bytes _ | json _ => simp [kind, ValueKind.atomic] at hkind

/-- Null is told from all scalars of a kind, and they from each other. -/
theorem eq_of_literal_eq {k : ValueKind} (hk : k ∈ ValueKind.atomic) {s t : Scalar}
    (hs : s = .null ∨ s.kind = k) (ht : t = .null ∨ t.kind = k) (h : s.literal = t.literal) :
    s = t := by
  obtain rfl | hs := hs
  · obtain rfl | rfl := ht
    · rfl
    · exact absurd h.symm (literal_ne_null hk)
  · subst hs
    obtain rfl | ht := ht
    · exact absurd h (literal_ne_null hk)
    · exact eq_of_literal_eq_of_kind_eq hk ht h

end Scalar

end SqlBuilder
