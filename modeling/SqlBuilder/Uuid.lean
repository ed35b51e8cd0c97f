import SqlBuilder.Text.Hex

/-!
# Universally unique identifiers

Sixteen bytes, written as five groups of hexadecimal digits.
-/

namespace SqlBuilder

structure Uuid where
  bytes : List UInt8
  length_bytes : bytes.length = 16
deriving DecidableEq

namespace Uuid

/-- The identifier with these bytes, if there are sixteen. -/
def ofBytes? (bytes : List UInt8) : Option Uuid :=
  if h : bytes.length = 16 then some ⟨bytes, h⟩ else none

/-- How many bytes each hyphenated group holds. -/
def groups : List Nat := [4, 2, 2, 2, 6]

/-- The digits of the bytes, cut into groups of the given sizes, with a
hyphen between two groups. -/
def grouped : List Nat → List UInt8 → List Char
  | [], _ => []
  | [n], bytes => Hex.bytes (bytes.take n)
  | n :: ns, bytes => Hex.bytes (bytes.take n) ++ '-' :: grouped ns (bytes.drop n)

/-- The hyphenated text, 8-4-4-4-12 digits. -/
def text (u : Uuid) : String := String.ofList (grouped groups u.bytes)

end Uuid

end SqlBuilder
