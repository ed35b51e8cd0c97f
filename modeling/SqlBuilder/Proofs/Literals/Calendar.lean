import Mathlib.Algebra.Ring.Nat
import Mathlib.Data.List.Basic
import SqlBuilder.Calendar.Timestamp
import SqlBuilder.Proofs.Scanning.Scanner

/-!
# The texts of dates and times

A numeral reads back as its number, however it is padded and whether or not a sign
stands in front (`Numeral.value_padded`, `Date.signedValue_yearText`). Fields of a fixed
width are told apart by their places, and a fraction of a second by its length. So no
two dates have the same text, and neither do two times of day, those in leap seconds
included, or two timestamps (`Date.text_injective`, `Time.text_injective`,
`Timestamp.text_injective`).
-/

namespace SqlBuilder

/-! ## Numerals -/

namespace Numeral

/-- The number that some digits stand for. -/
def value (digits : List Char) : Nat := Nat.ofDigitChars 10 digits 0

/-- The number behind a sign; without one, that of the digits. -/
def signedValue : List Char → Int
  | '-' :: digits => -value digits
  | '+' :: digits => value digits
  | digits => value digits

theorem value_toString (n : Nat) : value (toString n).toList = n := by
  rw [value, Nat.toString_eq_repr, Nat.toList_repr, Nat.ofDigitChars_ten_toDigits]

theorem toList_padded (width n : Nat) :
    (padded width n).toList
      = List.replicate (width - (toString n).length) '0' ++ (toString n).toList := by
  simp [padded, zeros]

theorem value_padded (width n : Nat) : value (padded width n).toList = n := by
  have hzeros (k : Nat) : Nat.ofDigitChars 10 (List.replicate k '0') 0 = 0 := by simp
  rw [value, toList_padded, Nat.ofDigitChars_append, hzeros]
  exact value_toString n

theorem padded_inj {width m n : Nat} (h : (padded width m).toList = (padded width n).toList) :
    m = n := by
  rw [← value_padded width m, h, value_padded]

theorem isDigit_of_mem_padded {width n : Nat} {c : Char} (h : c ∈ (padded width n).toList) :
    c.isDigit = true := by
  rw [toList_padded, List.mem_append] at h
  obtain hzero | hdigit := h
  · rw [List.eq_of_mem_replicate hzero]
    decide
  · exact isDigit_of_mem_toString hdigit

theorem notMem_padded {width n : Nat} {c : Char} (hc : c.isDigit = false) :
    c ∉ (padded width n).toList :=
  fun h => absurd (isDigit_of_mem_padded h) (by simp [hc])

theorem length_padded {width n : Nat} (hwidth : 0 < width) (hn : n < 10 ^ width) :
    (padded width n).toList.length = width := by
  have hle : (toString n).length ≤ width := by
    rw [← String.length_toList, Nat.toString_eq_repr, Nat.toList_repr]
    exact (Nat.length_toDigits_le_iff (by decide) hwidth).mpr hn
  rw [toList_padded, List.length_append, List.length_replicate, String.length_toList]
  omega

theorem signedValue_of_digits {cs : List Char} (h : ∀ c ∈ cs, c.isDigit = true) :
    signedValue cs = value cs := by
  unfold signedValue
  split
  · exact absurd (h '-' (List.mem_cons_self ..)) (by decide)
  · exact absurd (h '+' (List.mem_cons_self ..)) (by decide)
  · rfl

theorem signedValue_minus (digits : String) :
    signedValue ("-" ++ digits).toList = -value digits.toList := by
  rw [String.toList_append]
  rfl

theorem signedValue_plus (digits : String) :
    signedValue ("+" ++ digits).toList = value digits.toList := by
  rw [String.toList_append]
  rfl

theorem signedValue_toString (n : Int) : signedValue (toString n).toList = n := by
  cases n with
  | ofNat n =>
      show signedValue (toString n).toList = n
      rw [signedValue_of_digits fun c hc => isDigit_of_mem_toString hc, value_toString]
  | negSucc n =>
      show signedValue ("-" ++ toString (n + 1)).toList = -((n + 1 : Nat) : Int)
      rw [signedValue_minus, value_toString]

end Numeral

open Numeral (padded value signedValue value_padded padded_inj length_padded)

/-! ## Dates -/

namespace Date

theorem signedValue_yearText (year : Int) : signedValue (yearText year).toList = year := by
  unfold yearText
  split
  case isTrue h =>
    rw [Numeral.signedValue_of_digits fun c hc => Numeral.isDigit_of_mem_padded hc, value_padded]
    omega
  case isFalse h =>
    split
    case isTrue hnegative =>
      rw [Numeral.signedValue_minus, value_padded]
      omega
    case isFalse hpositive =>
      rw [Numeral.signedValue_plus, value_padded]
      omega

theorem daysInMonth_le (year : Int) (month : Nat) : daysInMonth year month ≤ 31 := by
  unfold daysInMonth
  grind

theorem length_monthAndDay (d : Date) :
    (padded 2 d.month).toList.length = 2 ∧ (padded 2 d.day).toList.length = 2 := by
  have hday := daysInMonth_le d.year d.month
  have hmonth := d.month_bounds
  have hbounds := d.day_bounds
  exact ⟨length_padded (by decide) (by omega), length_padded (by decide) (by omega)⟩

theorem toList_text (d : Date) :
    d.text.toList = (yearText d.year).toList
      ++ ('-' :: ((padded 2 d.month).toList ++ '-' :: (padded 2 d.day).toList)) := by
  simp [text]

theorem text_injective : Function.Injective text := by
  intro d e h
  obtain ⟨hmonth, hday⟩ := d.length_monthAndDay
  obtain ⟨hmonth', hday'⟩ := e.length_monthAndDay
  have htexts : d.text.toList = e.text.toList := congrArg String.toList h
  rw [toList_text, toList_text] at htexts
  -- The year has no fixed width, so what follows it is cut off from the end.
  obtain ⟨hyears, hrest⟩ := List.append_inj' htexts (by simp [hmonth, hday, hmonth', hday'])
  obtain ⟨hmonths, hdays⟩ := List.append_inj (List.cons.inj hrest).2 (hmonth.trans hmonth'.symm)
  have hyear : d.year = e.year := by
    rw [← signedValue_yearText d.year, hyears, signedValue_yearText]
  have hmonth : d.month = e.month := padded_inj hmonths
  have hday : d.day = e.day := padded_inj (List.cons.inj hdays).2
  cases d
  cases e
  simp_all

end Date

/-! ## Times of day -/

namespace Time

/-- The nanoseconds of a fraction, by how many digits it has. -/
def readFraction (cs : List Char) : Nat := value (cs.drop 1) * 10 ^ (10 - cs.length)

theorem readFraction_padded {width n : Nat} (hwidth : 0 < width) (hn : n < 10 ^ width) :
    readFraction ("." ++ padded width n).toList = n * 10 ^ (9 - width) := by
  have hlength := length_padded hwidth hn
  have hread := value_padded width n
  simp [readFraction, hlength, hread]

theorem readFraction_fractionText {nanos : Nat} (h : nanos < 1000000000) :
    readFraction (fractionText nanos).toList = nanos := by
  unfold fractionText
  split
  case isTrue hzero => simp [hzero, readFraction, value]
  split
  case isTrue hmillis =>
    rw [readFraction_padded (by decide) (by omega)]
    omega
  split
  case isTrue hmicros =>
    rw [readFraction_padded (by decide) (by omega)]
    omega
  rw [readFraction_padded (by decide) (by omega)]
  omega

theorem toList_text (t : Time) :
    t.text.toList = (padded 2 t.hour).toList ++ ':' :: ((padded 2 t.minute).toList
      ++ ':' :: ((padded 2 (t.second + t.nanos / 1000000000)).toList
        ++ (fractionText (t.nanos % 1000000000)).toList)) := by
  simp [text]

theorem length_clock (t : Time) :
    (padded 2 t.hour).toList.length = 2 ∧ (padded 2 t.minute).toList.length = 2
      ∧ (padded 2 (t.second + t.nanos / 1000000000)).toList.length = 2 := by
  have hhour := t.hour_lt
  have hminute := t.minute_lt
  have hsecond := t.second_lt
  have hnanos := t.nanos_lt
  exact ⟨length_padded (by decide) (by omega), length_padded (by decide) (by omega),
    length_padded (by decide) (by omega)⟩

/-- The seconds that are written and the fraction behind them tell a leap second from the
second after it. -/
theorem eq_of_seconds {t u : Time}
    (hseconds : t.second + t.nanos / 1000000000 = u.second + u.nanos / 1000000000)
    (hfraction : t.nanos % 1000000000 = u.nanos % 1000000000) :
    t.second = u.second ∧ t.nanos = u.nanos := by
  have ht := t.second_lt
  have hu := u.second_lt
  have htnanos := t.nanos_lt
  have hunanos := u.nanos_lt
  omega

theorem text_injective : Function.Injective text := by
  intro t u h
  obtain ⟨hhour, hminute, hsecond⟩ := t.length_clock
  obtain ⟨hhour', hminute', hsecond'⟩ := u.length_clock
  have htexts : t.text.toList = u.text.toList := congrArg String.toList h
  rw [toList_text, toList_text] at htexts
  obtain ⟨hhours, hrest⟩ := List.append_inj htexts (hhour.trans hhour'.symm)
  obtain ⟨hminutes, hrest⟩ :=
    List.append_inj (List.cons.inj hrest).2 (hminute.trans hminute'.symm)
  obtain ⟨hseconds, hfractions⟩ :=
    List.append_inj (List.cons.inj hrest).2 (hsecond.trans hsecond'.symm)
  have hhour : t.hour = u.hour := padded_inj hhours
  have hminute : t.minute = u.minute := padded_inj hminutes
  have hwritten : t.second + t.nanos / 1000000000 = u.second + u.nanos / 1000000000 :=
    padded_inj hseconds
  have hfraction : t.nanos % 1000000000 = u.nanos % 1000000000 := by
    rw [← readFraction_fractionText (Nat.mod_lt t.nanos (by decide)), hfractions,
      readFraction_fractionText (Nat.mod_lt u.nanos (by decide))]
  obtain ⟨hsecond, hnanos⟩ := eq_of_seconds hwritten hfraction
  cases t
  cases u
  simp_all

end Time

/-! ## Timestamps -/

namespace Timestamp

/-- The letter between the date and the time stands in neither. -/
theorem notMem_text_date (d : Date) : 'T' ∉ d.text.toList := by
  have hdigits (width n : Nat) : 'T' ∉ (padded width n).toList :=
    Numeral.notMem_padded (by decide)
  have hyear : 'T' ∉ (Date.yearText d.year).toList := by
    unfold Date.yearText
    split
    · exact hdigits _ _
    · split <;> simp [hdigits]
  simp [Date.text, hyear, hdigits]

theorem notMem_text_time (t : Time) : 'T' ∉ t.text.toList := by
  have hdigits (width n : Nat) : 'T' ∉ (padded width n).toList :=
    Numeral.notMem_padded (by decide)
  have hfraction : 'T' ∉ (Time.fractionText (t.nanos % 1000000000)).toList := by
    unfold Time.fractionText
    split
    · simp
    · split
      · simp [hdigits]
      · split <;> simp [hdigits]
  simp [Time.text, hfraction, hdigits]

theorem text_injective : Function.Injective text := by
  intro t u h
  have htexts : t.date.text.toList ++ 'T' :: t.time.text.toList
      = u.date.text.toList ++ 'T' :: u.time.text.toList := by
    simpa [text] using congrArg String.toList h
  obtain ⟨hdates, -, htimes⟩ := (List.append_cons_inj_of_notMem (notMem_text_date _)
    (notMem_text_time _)).mp htexts
  have hdate : t.date = u.date := Date.text_injective (String.toList_inj.mp hdates)
  have htime : t.time = u.time := Time.text_injective (String.toList_inj.mp htimes)
  cases t
  cases u
  simp_all

end Timestamp

end SqlBuilder
