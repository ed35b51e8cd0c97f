/-!
# Binary floating-point formats

The bit layout of the IEEE binary interchange formats, decoded into exact
integers, and rounding of a quotient back into a format. All of it is
arithmetic on `Nat` and `Int`, so that what is written for a number can be
reasoned about without an opaque floating-point type.

* `BinaryFormat.decode` reads a bit pattern as `± significand · 2 ^ exponent`.
* `BinaryFormat.nearest` rounds a quotient to the nearest pattern, a tie to
  the even one, and past the largest finite number to infinity.
-/

namespace SqlBuilder

/-- A binary format: how many bits hold the fraction and how many the
exponent; one more holds the sign. -/
structure BinaryFormat where
  fractionBits : Nat
  exponentBits : Nat
deriving DecidableEq

/-- What a bit pattern stands for. -/
inductive FloatReading where
  | nan
  | infinite (negative : Bool)
  /-- The number `± significand · 2 ^ exponent`. -/
  | finite (negative : Bool) (significand : Nat) (exponent : Int)
deriving DecidableEq

namespace BinaryFormat

def binary32 : BinaryFormat := ⟨23, 8⟩

def binary64 : BinaryFormat := ⟨52, 11⟩

/-- The exponent of the spacing between the smallest numbers. -/
def minExponent (f : BinaryFormat) : Int :=
  2 - (Nat.pow 2 (f.exponentBits - 1) : Nat) - f.fractionBits

/-- The pattern of positive infinity: all exponent bits set. -/
def infinityBits (f : BinaryFormat) : Nat :=
  (Nat.pow 2 f.exponentBits - 1) * Nat.pow 2 f.fractionBits

def decode (f : BinaryFormat) (bits : Nat) : FloatReading :=
  let fraction := bits % Nat.pow 2 f.fractionBits
  let biased := bits / Nat.pow 2 f.fractionBits % Nat.pow 2 f.exponentBits
  let negative := bits / Nat.pow 2 (f.fractionBits + f.exponentBits) % 2 == 1
  if biased = Nat.pow 2 f.exponentBits - 1 then
    if fraction = 0 then .infinite negative else .nan
  else if biased = 0 then
    .finite negative fraction f.minExponent
  else
    .finite negative (Nat.pow 2 f.fractionBits + fraction) (f.minExponent + biased - 1)

/-- The quotient rounded to the nearest whole number, a tie to the even one. -/
def roundHalfEven (num den : Nat) : Nat :=
  let floor := num / den
  let twice := 2 * (num % den)
  if twice < den then floor
  else if den < twice then floor + 1
  else floor + floor % 2

/-- The exponent at which `num / den` has a significand of full width, or the
least exponent where the number is too small for that. -/
def exponentOf (f : BinaryFormat) (num den : Nat) : Int :=
  let guess : Int := (Nat.log2 num : Int) - Nat.log2 den - f.fractionBits
  let scaled := num * Nat.pow 2 (-guess).toNat
  let full := den * Nat.pow 2 (guess.toNat + f.fractionBits)
  max f.minExponent (if scaled < full then guess - 1 else guess)

/-- The pattern of the nonnegative number nearest to `num / den`, for a
positive `den`. The significand carries into the exponent field by itself:
the pattern of the next number up is always the next pattern. -/
def nearest (f : BinaryFormat) (num den : Nat) : Nat :=
  if num = 0 then 0
  else
    let exponent := f.exponentOf num den
    let significand :=
      roundHalfEven (num * Nat.pow 2 (-exponent).toNat) (den * Nat.pow 2 exponent.toNat)
    let bits := (exponent - f.minExponent).toNat * Nat.pow 2 f.fractionBits + significand
    min bits f.infinityBits

/-- The number of a pattern as an exact quotient; its sign is left out, and
what is not finite counts as zero. -/
def ratio (f : BinaryFormat) (bits : Nat) : Nat × Nat :=
  match f.decode bits with
  | .finite _ significand exponent =>
      (significand * Nat.pow 2 exponent.toNat, Nat.pow 2 (-exponent).toNat)
  | _ => (0, 1)

/-- The rounded product of two nonnegative finite patterns. -/
def times (f : BinaryFormat) (a b : Nat) : Nat :=
  let (an, ad) := f.ratio a
  let (bn, bd) := f.ratio b
  f.nearest (an * bn) (ad * bd)

/-- The rounded quotient of a nonnegative and a positive finite pattern. -/
def dividedBy (f : BinaryFormat) (a b : Nat) : Nat :=
  let (an, ad) := f.ratio a
  let (bn, bd) := f.ratio b
  f.nearest (an * bd) (ad * bn)

/-- The pattern with the sign bit set. -/
def negated (f : BinaryFormat) (bits : Nat) : Nat :=
  bits + Nat.pow 2 (f.fractionBits + f.exponentBits)

end BinaryFormat

end SqlBuilder
