import SqlBuilder.Config.Basic
import SqlBuilder.Value.Literal

/-!
# Values never render to nothing

Empty items are dropped from a node, so whether an item is empty decides
about delimiters around it. A value stands either as its literal or as a
placeholder, and neither is ever empty (`Value.literal_ne_empty`,
`PlaceholderStyle.placeholder_ne_empty`): the choice between them cannot
change which items are dropped.
-/

namespace SqlBuilder

/-! ## Texts with a character in them -/

theorem ofList_ne_empty {cs : List Char} (h : cs ≠ []) : String.ofList cs ≠ "" := by
  intro heq
  apply h
  have := congrArg String.toList heq
  simpa using this

/-- A text stays what it is, not empty, whatever follows it. -/
theorem append_ne_empty_left {s t : String} (h : s ≠ "") : s ++ t ≠ "" := by
  intro heq
  exact h (String.append_eq_empty_iff.mp heq).1

theorem append_ne_empty_right {s t : String} (h : t ≠ "") : s ++ t ≠ "" := by
  intro heq
  exact h (String.append_eq_empty_iff.mp heq).2

theorem toString_nat_ne_empty (n : Nat) : toString n ≠ "" := by
  intro heq
  have := congrArg String.toList heq
  simp at this

theorem toString_int_ne_empty (n : Int) : toString n ≠ "" := by
  cases n with
  | ofNat n => exact toString_nat_ne_empty n
  | negSucc n => exact append_ne_empty_left (by decide)

/-- The quotes are there even if there is nothing between them. -/
theorem quoted_ne_empty (quote : Char) (text : String) : quoted quote text ≠ "" :=
  ofList_ne_empty (List.cons_ne_nil _ _)

theorem stringConstant_ne_empty (text : String) : stringConstant text ≠ "" :=
  quoted_ne_empty _ text

theorem arrayLiteral_ne_empty (elements : List String) : arrayLiteral elements ≠ "" :=
  append_ne_empty_right (by decide)

/-! ## Floating-point text -/

namespace DecimalNumber

/-- A number has a digit, with or without a fraction. -/
theorem positional_ne_empty (d : DecimalNumber) : d.positional ≠ "" := by
  have hdigits : (toString d.significand).toList ≠ [] := by
    intro h
    apply toString_nat_ne_empty d.significand
    exact String.toList_eq_nil_iff.mp h
  unfold positional
  simp only
  split
  · exact append_ne_empty_left (ofList_ne_empty hdigits)
  · split
    · exact append_ne_empty_left (append_ne_empty_right (by decide))
    · exact append_ne_empty_left (append_ne_empty_left (by decide))

end DecimalNumber

theorem literalLayout_finite_ne_empty (f : BinaryFormat) (negative : Bool)
    (significand : Nat) (exponent : Int) :
    literalLayout.finite f negative significand exponent ≠ "" := by
  unfold FloatLayout.finite
  apply append_ne_empty_right
  split
  · decide
  · exact append_ne_empty_left (DecimalNumber.positional_ne_empty _)

theorem floatLiteral_ne_empty (f : BinaryFormat) (bits : Nat) : floatLiteral f bits ≠ "" := by
  unfold floatLiteral
  split
  · exact stringConstant_ne_empty _
  · exact stringConstant_ne_empty _
  · exact stringConstant_ne_empty _
  · exact literalLayout_finite_ne_empty _ _ _ _

/-! ## Literals and placeholders -/

/-- No kind is written without a character: a word, a digit, a quote or a bracket. -/
theorem Scalar.literal_ne_empty (s : Scalar) : s.literal ≠ "" := by
  cases s with
  | null => decide
  | bool b => cases b <;> decide
  | int16 n => exact toString_int_ne_empty _
  | int32 n => exact toString_int_ne_empty _
  | int64 n => exact toString_int_ne_empty _
  | float32 bits => exact floatLiteral_ne_empty _ _
  | float64 bits => exact floatLiteral_ne_empty _ _
  | bytes bs => exact arrayLiteral_ne_empty _
  | text _ => exact stringConstant_ne_empty _
  | date _ => exact stringConstant_ne_empty _
  | time _ => exact stringConstant_ne_empty _
  | timestamp _ => exact stringConstant_ne_empty _
  | timestampTz _ => exact stringConstant_ne_empty _
  | uuid _ => exact stringConstant_ne_empty _
  | json _ => exact stringConstant_ne_empty _

theorem Value.literal_ne_empty (v : Value) : v.literal ≠ "" := by
  cases v with
  | scalar s => exact s.literal_ne_empty
  | array elements => exact arrayLiteral_ne_empty _

/-- Both styles mark a placeholder with a sign. -/
theorem PlaceholderStyle.placeholder_ne_empty (style : PlaceholderStyle) (index : Nat) :
    style.placeholder index ≠ "" := by
  cases style with
  | question => exact (by decide : "?" ≠ "")
  | numbered => exact append_ne_empty_left (by decide)

end SqlBuilder
