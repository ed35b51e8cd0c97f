import SqlBuilder.Render

/-!
# A scanner for quotes

A scanner reads SQL and knows of nothing but quotes: it is outside, inside a string
constant, or inside a quoted identifier. A text is neutral if a scanner that starts
outside ends there. Neutral texts may stand one after the other; whatever is quoted
is neutral, and so is every literal (`Scalar.neutral_literal`).
-/

namespace SqlBuilder

inductive Scanner where
  | outside
  /-- Inside a string constant. -/
  | single
  /-- Inside a quoted identifier. -/
  | double
deriving DecidableEq

namespace Scanner

def step : Scanner → Char → Scanner
  | .outside, c => if c = '\'' then .single else if c = '"' then .double else .outside
  | .single, c => if c = '\'' then .outside else .single
  | .double, c => if c = '"' then .outside else .double

/-- Where a scanner ends. -/
def scan (s : Scanner) (text : String) : Scanner := text.toList.foldl step s

theorem scan_append (s : Scanner) (a b : String) : s.scan (a ++ b) = (s.scan a).scan b := by
  rw [scan, String.toList_append, List.foldl_append]
  rfl

end Scanner

/-- A scanner that starts outside ends outside. -/
def Neutral (text : String) : Prop := Scanner.outside.scan text = .outside

instance (text : String) : Decidable (Neutral text) := inferInstanceAs (Decidable (_ = _))

namespace Neutral

theorem empty : Neutral "" := rfl

theorem append {a b : String} (ha : Neutral a) (hb : Neutral b) : Neutral (a ++ b) := by
  rw [Neutral, Scanner.scan_append, ha]
  exact hb

theorem intercalate {delimiter : String} (hd : Neutral delimiter) :
    ∀ {texts : List String}, (∀ t ∈ texts, Neutral t) → Neutral (delimiter.intercalate texts)
  | [], _ => empty
  | [t], h => h t (List.mem_singleton_self t)
  | t :: u :: rest, h => by
      obtain ⟨ht, hrest⟩ := List.forall_mem_cons.mp h
      rw [String.intercalate_cons_cons]
      exact (ht.append hd).append (intercalate hd hrest)

theorem parenthesize {text : String} (h : Neutral text) : Neutral (parenthesize text) :=
  ((by decide : Neutral "(").append h).append (by decide)

/-- Without any quote, a text is neutral. -/
theorem of_plain {text : String} (h : ∀ c ∈ text.toList, c ≠ '\'' ∧ c ≠ '"') :
    Neutral text := by
  unfold Neutral Scanner.scan
  generalize text.toList = cs at h
  induction cs with
  | nil => rfl
  | cons c rest ih =>
      obtain ⟨⟨hsingle, hdouble⟩, hrest⟩ := List.forall_mem_cons.mp h
      rw [List.foldl_cons, Scanner.step, if_neg hsingle, if_neg hdouble]
      exact ih hrest

end Neutral

/-! ## Quoted text -/

namespace Scanner

theorem foldl_double_single (cs : List Char) :
    (Quoted.double '\'' cs).foldl step .single = .single := by
  induction cs with
  | nil => rfl
  | cons c rest ih =>
      by_cases h : c = '\'' <;> simpa [Quoted.double, h, step] using ih

theorem foldl_double_double (cs : List Char) :
    (Quoted.double '"' cs).foldl step .double = .double := by
  induction cs with
  | nil => rfl
  | cons c rest ih =>
      by_cases h : c = '"' <;> simpa [Quoted.double, h, step] using ih

end Scanner

theorem neutral_stringConstant (text : String) : Neutral (stringConstant text) := by
  rw [Neutral, Scanner.scan, stringConstant, quoted, String.toList_ofList, List.foldl_cons,
    List.foldl_append]
  show List.foldl Scanner.step (List.foldl Scanner.step .single _) _ = _
  rw [Scanner.foldl_double_single]
  rfl

theorem neutral_quotedIdentifier (text : String) : Neutral (quotedIdentifier text) := by
  rw [Neutral, Scanner.scan, quotedIdentifier, quoted, String.toList_ofList, List.foldl_cons,
    List.foldl_append]
  show List.foldl Scanner.step (List.foldl Scanner.step .double _) _ = _
  rw [Scanner.foldl_double_double]
  rfl

/-! ## Numbers -/

theorem isDigit_of_mem_toString {n : Nat} {c : Char} (h : c ∈ (toString n).toList) :
    c.isDigit = true := by
  rw [Nat.toString_eq_repr, Nat.toList_repr] at h
  exact Nat.isDigit_of_mem_toDigits (by decide : 0 < 10) (by decide) h

theorem neutral_of_digits {cs : List Char} (h : ∀ c ∈ cs, c.isDigit = true) :
    Neutral (String.ofList cs) := by
  refine Neutral.of_plain fun c hc => ?_
  rw [String.toList_ofList] at hc
  have hdigit := h c hc
  constructor <;> rintro rfl <;> exact absurd hdigit (by decide)

theorem neutral_toString_nat (n : Nat) : Neutral (toString n) := by
  have h := neutral_of_digits fun c (hc : c ∈ (toString n).toList) => isDigit_of_mem_toString hc
  rwa [String.ofList_toList] at h

theorem neutral_toString_int (n : Int) : Neutral (toString n) := by
  cases n with
  | ofNat n => exact neutral_toString_nat n
  | negSucc n => exact (by decide : Neutral "-").append (neutral_toString_nat (n + 1))

theorem Numeral.neutral_zeros (n : Nat) : Neutral (zeros n) := by
  refine neutral_of_digits fun c hc => ?_
  rw [List.eq_of_mem_replicate hc]
  decide

theorem DecimalNumber.neutral_positional (d : DecimalNumber) : Neutral d.positional := by
  have hdigits (c : Char) (hc : c ∈ (toString d.significand).toList) := isDigit_of_mem_toString hc
  unfold positional
  simp only
  split
  · exact (neutral_of_digits hdigits).append (Numeral.neutral_zeros _)
  · split
    · refine Neutral.append (Neutral.append ?_ (by decide)) ?_
      · exact neutral_of_digits fun c hc => hdigits c (List.mem_of_mem_take hc)
      · exact neutral_of_digits fun c hc => hdigits c (List.mem_of_mem_drop hc)
    · exact ((by decide : Neutral "0.").append (Numeral.neutral_zeros _)).append
        (neutral_of_digits hdigits)

theorem neutral_literalLayout_finite (f : BinaryFormat) (negative : Bool) (significand : Nat)
    (exponent : Int) : Neutral (literalLayout.finite f negative significand exponent) := by
  have hsign : Neutral (if negative then "-" else "") := by
    cases negative <;> decide
  refine hsign.append ?_
  split
  · decide
  · exact (DecimalNumber.neutral_positional _).append Neutral.empty

theorem neutral_floatLiteral (f : BinaryFormat) (bits : Nat) : Neutral (floatLiteral f bits) := by
  unfold floatLiteral
  split
  · exact neutral_stringConstant _
  · exact neutral_stringConstant _
  · exact neutral_stringConstant _
  · exact neutral_literalLayout_finite _ _ _ _

/-! ## Literals -/

theorem neutral_arrayLiteral {texts : List String} (h : ∀ t ∈ texts, Neutral t) :
    Neutral (arrayLiteral texts) :=
  ((by decide : Neutral "ARRAY[").append (Neutral.intercalate (by decide) h)).append (by decide)

theorem Scalar.neutral_literal (s : Scalar) : Neutral s.literal := by
  cases s with
  | null => decide
  | bool b => cases b <;> decide
  | int16 n => exact neutral_toString_int _
  | int32 n => exact neutral_toString_int _
  | int64 n => exact neutral_toString_int _
  | float32 bits => exact neutral_floatLiteral _ _
  | float64 bits => exact neutral_floatLiteral _ _
  | bytes bs =>
      refine neutral_arrayLiteral fun t ht => ?_
      obtain ⟨b, -, rfl⟩ := List.mem_map.mp ht
      exact neutral_toString_nat _
  | text _ => exact neutral_stringConstant _
  | date _ => exact neutral_stringConstant _
  | time _ => exact neutral_stringConstant _
  | timestamp _ => exact neutral_stringConstant _
  | timestampTz _ => exact neutral_stringConstant _
  | uuid _ => exact neutral_stringConstant _
  | json _ => exact neutral_stringConstant _

/-! ## Names -/

namespace QualifiedName

theorem segments_ne_nil (cs : List Char) : segments cs ≠ [] := by
  cases cs with
  | nil => exact List.cons_ne_nil _ _
  | cons c rest =>
      unfold segments
      split
      · exact List.cons_ne_nil _ _
      · split <;> exact List.cons_ne_nil _ _

theorem intercalate_segments (cs : List Char) :
    ".".intercalate ((segments cs).map String.ofList) = String.ofList cs := by
  induction cs with
  | nil => rfl
  | cons c rest ih =>
      obtain ⟨first, others, hrest⟩ := List.exists_cons_of_ne_nil (segments_ne_nil rest)
      rw [hrest, List.map_cons] at ih
      by_cases hc : c = '.'
      · subst hc
        rw [segments, if_pos rfl, hrest, List.map_cons, List.map_cons,
          String.intercalate_cons_cons, ih, ← String.toList_inj]
        simp
      · rw [segments, if_neg hc, hrest, List.map_cons]
        cases others with
        | nil =>
            rw [List.map_nil, String.intercalate_singleton] at ih ⊢
            rw [← String.toList_inj] at ih ⊢
            simpa using ih
        | cons second others =>
            rw [List.map_cons, String.intercalate_cons_cons] at ih ⊢
            rw [← String.toList_inj] at ih ⊢
            simpa using ih

/-- A name that is not quoted is written as it is. -/
theorem text_unquoted (name : String) : text false name = name := by
  have hsegment : segmentText false = String.ofList := by
    funext segment
    simp [segmentText]
  rw [text, hsegment, intercalate_segments, String.ofList_toList]

/-- A name that is quoted segment by segment is neutral. -/
theorem neutral_text_quoted (name : String) : Neutral (text true name) := by
  refine Neutral.intercalate (by decide) fun t ht => ?_
  obtain ⟨segment, -, rfl⟩ := List.mem_map.mp ht
  unfold segmentText
  simp only
  split
  · exact neutral_quotedIdentifier _
  · rename_i hstar
    have : segment = ['*'] := by simpa using hstar
    subst this
    decide

end QualifiedName

end SqlBuilder
