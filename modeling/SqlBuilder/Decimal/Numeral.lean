/-!
# Decimal numerals

Whole numbers written in base ten, padded with zeros where a field has a
least width.
-/

namespace SqlBuilder

namespace Numeral

def zeros (n : Nat) : String := String.ofList (List.replicate n '0')

/-- A number with zeros in front, at least `width` digits wide. -/
def padded (width n : Nat) : String :=
  let digits := toString n
  zeros (width - digits.length) ++ digits

end Numeral

end SqlBuilder
