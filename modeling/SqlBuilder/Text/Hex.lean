/-!
# Hexadecimal digits

Lowercase hexadecimal text of bytes, two digits a byte.
-/

namespace SqlBuilder

namespace Hex

/-- The digit of a number below sixteen. -/
def digit (n : Nat) : Char :=
  if n < 10 then Char.ofNat ('0'.toNat + n) else Char.ofNat ('a'.toNat + (n - 10))

/-- The value of a digit of either case. -/
def digit? (c : Char) : Option Nat :=
  if '0' ≤ c ∧ c ≤ '9' then some (c.toNat - '0'.toNat)
  else if 'a' ≤ c ∧ c ≤ 'f' then some (c.toNat - 'a'.toNat + 10)
  else if 'A' ≤ c ∧ c ≤ 'F' then some (c.toNat - 'A'.toNat + 10)
  else none

/-- The two digits of a byte, the high one first. -/
def byte (b : UInt8) : List Char := [digit (b.toNat / 16), digit (b.toNat % 16)]

/-- The digits of some bytes, in their order. -/
def bytes (bs : List UInt8) : List Char := bs.flatMap byte

/-- A digit reads back as its number. -/
theorem digit?_digit : ∀ n < 16, digit? (digit n) = some n := by decide

end Hex

end SqlBuilder
