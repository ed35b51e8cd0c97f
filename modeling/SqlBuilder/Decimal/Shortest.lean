import SqlBuilder.Decimal.Binary

/-!
# Shortest decimals

The fewest decimal digits that read back as a given binary number. The
reals that round to the number form an interval around it; the answer is a
point of the coarsest decimal grid that meets the interval, and of two such
points the nearer one. Only an exact tie between the two is left to the
format that writes the number.
-/

namespace SqlBuilder

/-- The number `significand · 10 ^ exponent`. -/
structure DecimalNumber where
  significand : Nat
  exponent : Int
deriving DecidableEq

/-- Which of two equally near candidates is written. -/
inductive Tie where
  | upper
  | even
deriving DecidableEq

/-- The interval of the reals that round to a positive binary number, in
quarters of the spacing `2 ^ exponent`. -/
structure RoundingInterval where
  exponent : Int
  low : Nat
  middle : Nat
  high : Nat
  closed : Bool

namespace RoundingInterval

/-- The interval around `significand · 2 ^ exponent`. Below a power of two
the neighbour is half as far away, so that side is half as wide. The ends
belong to it when the significand is even. -/
def around (f : BinaryFormat) (significand : Nat) (exponent : Int) :
    RoundingInterval :=
  let narrow := significand = Nat.pow 2 f.fractionBits ∧ f.minExponent < exponent
  { exponent
    low := 4 * significand - (if narrow then 1 else 2)
    middle := 4 * significand
    high := 4 * significand + 2
    closed := significand % 2 == 0 }

/-- The factors that compare quarters of the spacing with points of the grid
`10 ^ k`: a quarter count times the first against a point times the second. -/
def factors (i : RoundingInterval) (k : Int) : Nat × Nat :=
  (Nat.pow 2 (i.exponent - 2).toNat * Nat.pow 10 (-k).toNat,
   Nat.pow 2 (2 - i.exponent).toNat * Nat.pow 10 k.toNat)

/-- Whether the point `c` of the grid `10 ^ k` lies in the interval. -/
def holds (i : RoundingInterval) (k : Int) (c : Nat) : Bool :=
  let (quarter, point) := i.factors k
  if i.closed then i.low * quarter ≤ c * point ∧ c * point ≤ i.high * quarter
  else i.low * quarter < c * point ∧ c * point < i.high * quarter

/-- The best point of the grid `10 ^ k` in the interval: one of the two
neighbours of the middle. -/
def pick? (i : RoundingInterval) (tie : Tie) (k : Int) : Option DecimalNumber :=
  let (quarter, point) := i.factors k
  let below := i.middle * quarter / point
  let twiceRest := 2 * (i.middle * quarter % point)
  match i.holds k below, i.holds k (below + 1) with
  | false, false => none
  | true, false => some ⟨below, k⟩
  | false, true => some ⟨below + 1, k⟩
  | true, true =>
      let up :=
        if twiceRest = point then
          match tie with
          | .upper => true
          | .even => below % 2 == 1
        else decide (point < twiceRest)
      some ⟨if up then below + 1 else below, k⟩

end RoundingInterval

/-- The shortest decimal that reads back as `significand · 2 ^ exponent`. The
grids run from one coarser than the number down to one that contains it. -/
def shortest (f : BinaryFormat) (tie : Tie) (significand : Nat) (exponent : Int) :
    DecimalNumber :=
  let scaled := significand * Nat.pow 2 exponent.toNat
  let whole := scaled / Nat.pow 2 (-exponent).toNat
  let top := (toString whole).length
  let grids := (List.range (top + (-exponent).toNat + 1)).map fun (i : Nat) => (top : Int) - i
  match grids.findSome? ((RoundingInterval.around f significand exponent).pick? tie) with
  | some d => d
  | none => ⟨scaled * Nat.pow 5 (-exponent).toNat, min exponent 0⟩

end SqlBuilder
