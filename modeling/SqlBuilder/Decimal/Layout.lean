import SqlBuilder.Decimal.Numeral
import SqlBuilder.Decimal.Shortest

/-!
# Layouts of floating-point text

How the digits of a finite floating-point number are laid out as text. A
`FloatLayout` holds the choices of one output format: which way an exact tie
between two shortest decimals goes, where positional notation ends, whether
a whole number keeps a `.0`, and whether an exponent carries its plus sign.
-/

namespace SqlBuilder

namespace DecimalNumber

/-- The exponent of the leading digit. -/
def leadingExponent (d : DecimalNumber) : Int :=
  d.exponent + (toString d.significand).length - 1

/-- All digits written out. -/
def positional (d : DecimalNumber) : String :=
  let digits := (toString d.significand).toList
  let places := (-d.exponent).toNat
  if 0 ≤ d.exponent then
    String.ofList digits ++ Numeral.zeros d.exponent.toNat
  else if places < digits.length then
    String.ofList (digits.take (digits.length - places)) ++ "."
      ++ String.ofList (digits.drop (digits.length - places))
  else
    "0." ++ Numeral.zeros (places - digits.length) ++ String.ofList digits

/-- One digit before the point, the others after it, then the exponent. -/
def scientific (d : DecimalNumber) (plusSign : Bool) : String :=
  let e := d.leadingExponent
  let mantissa :=
    match (toString d.significand).toList with
    | [] => ""
    | [digit] => String.ofList [digit]
    | digit :: rest => String.ofList (digit :: '.' :: rest)
  mantissa ++ "e" ++ (if plusSign && 0 ≤ e then "+" else "") ++ toString e

end DecimalNumber

/-- The choices of an output format for finite floating-point numbers. -/
structure FloatLayout where
  /-- Which of two equally near shortest decimals is written. -/
  tie : Tie
  /-- The least and the greatest exponent of a leading digit that are written
  positionally; without bounds every number is. -/
  positionalRange : Option (Int × Int)
  /-- Whether a whole number in positional notation ends in `.0`. -/
  pointZero : Bool
  /-- Whether a nonnegative exponent has a plus sign. -/
  plusSign : Bool

namespace FloatLayout

def decimal (l : FloatLayout) (d : DecimalNumber) : String :=
  let inside :=
    match l.positionalRange with
    | none => true
    | some (least, greatest) => least ≤ d.leadingExponent && d.leadingExponent ≤ greatest
  if inside then
    d.positional ++ (if l.pointZero && 0 ≤ d.exponent then ".0" else "")
  else
    d.scientific l.plusSign

/-- The text of `± significand · 2 ^ exponent`. Zero keeps its sign. -/
def finite (l : FloatLayout) (f : BinaryFormat) (negative : Bool)
    (significand : Nat) (exponent : Int) : String :=
  (if negative then "-" else "") ++
    if significand = 0 then (if l.pointZero then "0.0" else "0")
    else l.decimal (shortest f l.tie significand exponent)

end FloatLayout

end SqlBuilder
