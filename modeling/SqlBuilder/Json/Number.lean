import SqlBuilder.Decimal.Layout
import SqlBuilder.Json.Basic

/-!
# JSON numbers

Reading and writing numbers.

A number without a fraction and an exponent is an integer if it lies in the
range of signed or unsigned 64-bit words, except `-0`. All other numbers are
doubles: the digits are gathered into a 64-bit significand, which is rounded
to a double, and one multiplication or division by a power of ten follows,
itself rounded. Digits that no longer fit into the significand count as
zeros before the decimal point and are dropped after it.
-/

namespace SqlBuilder

namespace JsonNumber

open BinaryFormat

/-- The largest significand: that of 64 bits. -/
def maxSignificand : Nat := 18446744073709551615

/-- Digits gathered so far: the number is `significand · 10 ^ exponent`, and
once a digit did not fit, no later one is taken. -/
structure Gathered where
  significand : Nat
  exponent : Int
  full : Bool

/-- Takes a digit before the decimal point. -/
def Gathered.whole (g : Gathered) (digit : Nat) : Gathered :=
  if g.full || maxSignificand < g.significand * 10 + digit then
    { g with exponent := g.exponent + 1, full := true }
  else { g with significand := g.significand * 10 + digit }

/-- Takes a digit after the decimal point. -/
def Gathered.fraction (g : Gathered) (digit : Nat) : Gathered :=
  if g.full || maxSignificand < g.significand * 10 + digit then
    { g with full := true }
  else { g with significand := g.significand * 10 + digit, exponent := g.exponent - 1 }

/-- The greatest power of ten that is a double. -/
def maxPower : Nat := 308

/-- A power of ten up to the greatest as a double. -/
def power (n : Nat) : Nat := binary64.nearest (Nat.pow 10 n) 1

/-- A double divided by `10 ^ n`: by the greatest power as long as the
exponent is larger and something is left, then by the rest. -/
def dividedByPower (bits n : Nat) : Nat :=
  if n ≤ maxPower then binary64.dividedBy bits (power n)
  else if bits = 0 then 0
  else dividedByPower (binary64.dividedBy bits (power maxPower)) (n - maxPower)
termination_by n
decreasing_by simp [maxPower] at *; omega

/-- The pattern of the double for `significand · 10 ^ exponent`, unless it is
out of range. -/
def scaled? (significand : Nat) (exponent : Int) : Option Nat :=
  let bits := binary64.nearest significand 1
  if exponent < 0 then some (dividedByPower bits exponent.natAbs)
  else if bits = 0 then some 0
  else if maxPower < exponent.toNat then none
  else
    let product := binary64.times bits (power exponent.toNat)
    if product = binary64.infinityBits then none else some product

/-- A double by its magnitude and sign. -/
def ofMagnitude (negative : Bool) (bits : Nat) : JsonNumber :=
  .float (UInt64.ofNat (if negative then binary64.negated bits else bits))

/-- The greatest magnitude of a negative integer: that of 64 signed bits. -/
def maxNegative : Nat := 9223372036854775808

/-- A number without fraction and exponent. -/
def ofWhole (negative : Bool) (n : Nat) : JsonNumber :=
  if !negative then .integer n
  else if 0 < n ∧ n ≤ maxNegative then .integer (-n)
  else ofMagnitude true (binary64.nearest n 1)

/-- The value of a decimal digit. -/
def digitValue (c : Char) : Nat := c.toNat - '0'.toNat

/-- The digits at the start of a text, and what follows them. -/
def takeDigits (s : List Char) : List Nat × List Char :=
  ((s.takeWhile Char.isDigit).map digitValue, s.dropWhile Char.isDigit)

/-- The integer part at the start of a text: a lone `0`, or digits that do
not start with one. -/
def takeWhole? (s : List Char) : Option (List Nat × List Char) :=
  match takeDigits s with
  | ([], _) => none
  | (0 :: _ :: _, _) => none
  | found => some found

/-- The fraction at the start of a text, if there is one: `.` and digits. -/
def takeFraction? (s : List Char) : Option (List Nat × List Char) :=
  match s with
  | '.' :: rest =>
      match takeDigits rest with
      | ([], _) => none
      | found => some found
  | _ => some ([], s)

/-- The whole text as an exponent: nothing, or `e`, a sign and digits. -/
def exponent? (s : List Char) : Option (Option Int) :=
  let signed (sign : Int) (digits : List Char) : Option (Option Int) :=
    match takeDigits digits with
    | ([], _) => none
    | (ds, []) => some (some (sign * (ds.foldl (fun n d => n * 10 + d) 0 : Nat)))
    | _ => none
  match s with
  | [] => some none
  | c :: rest =>
      if c = 'e' ∨ c = 'E' then
        match rest with
        | '+' :: digits => signed 1 digits
        | '-' :: digits => signed (-1) digits
        | digits => signed 1 digits
      else none

/-- The number without its sign. -/
def ofUnsigned? (negative : Bool) (s : List Char) : Option JsonNumber := do
  let (whole, afterWhole) ← takeWhole? s
  let (fraction, afterFraction) ← takeFraction? afterWhole
  let exponent ← exponent? afterFraction
  let gathered := whole.foldl Gathered.whole ⟨0, 0, false⟩
  if fraction.isEmpty && exponent.isNone && !gathered.full then
    return ofWhole negative gathered.significand
  let total := fraction.foldl Gathered.fraction { gathered with full := false }
  let bits ← scaled? total.significand (total.exponent + exponent.getD 0)
  return ofMagnitude negative bits

/-- The number that a text writes. -/
def ofText? (s : List Char) : Option JsonNumber :=
  match s with
  | '-' :: rest => ofUnsigned? true rest
  | _ => ofUnsigned? false s

/-- How a double is written: positionally from `1e-5` up to below `1e16`,
with a fraction digit also on whole numbers; beyond, with an exponent that
has its sign. A tie goes to the even decimal. -/
def layout : FloatLayout := ⟨.even, some (-5, 15), true, true⟩

/-- The text of a number. A double that is not finite has none, and stands
as `null`. -/
def text : JsonNumber → String
  | .integer n => toString n
  | .float bits =>
      match binary64.decode bits.toNat with
      | .finite negative significand exponent =>
          layout.finite binary64 negative significand exponent
      | _ => "null"

end JsonNumber

end SqlBuilder
