import SqlBuilder.Decimal.Numeral

/-!
# Times of day

Nanosecond times of day. A leap second is kept as second 59 with a whole
second of nanoseconds on top, and written as second 60. The library chrono
also lets 10^9 nanoseconds and more stand behind seconds other than 59; such
times are left out.
-/

namespace SqlBuilder

structure Time where
  hour : Nat
  minute : Nat
  second : Nat
  nanos : Nat
  hour_lt : hour < 24
  minute_lt : minute < 60
  second_lt : second < 60
  nanos_lt : nanos < 1000000000 ∨ (second = 59 ∧ nanos < 2000000000)
deriving DecidableEq

namespace Time

/-- The time with these parts, if there is one. -/
def ofParts? (hour minute second nanos : Nat) : Option Time :=
  if h : hour < 24 ∧ minute < 60 ∧ second < 60
      ∧ (nanos < 1000000000 ∨ (second = 59 ∧ nanos < 2000000000)) then
    some ⟨hour, minute, second, nanos, h.1, h.2.1, h.2.2.1, h.2.2.2⟩
  else none

def midnight : Time := ⟨0, 0, 0, 0, by decide, by decide, by decide, by decide⟩

/-- The nanoseconds since midnight, those of a leap second included. -/
def nanosSinceMidnight (t : Time) : Nat :=
  ((t.hour * 60 + t.minute) * 60 + t.second) * 1000000000 + t.nanos

/-- A fraction of a second: nothing if it is zero, else the fewest of three,
six or nine digits that are exact. -/
def fractionText (nanos : Nat) : String :=
  if nanos = 0 then ""
  else if nanos % 1000000 = 0 then "." ++ Numeral.padded 3 (nanos / 1000000)
  else if nanos % 1000 = 0 then "." ++ Numeral.padded 6 (nanos / 1000)
  else "." ++ Numeral.padded 9 nanos

/-- The text `hour:minute:second` with the fraction. -/
def text (t : Time) : String :=
  Numeral.padded 2 t.hour ++ ":" ++ Numeral.padded 2 t.minute ++ ":"
    ++ Numeral.padded 2 (t.second + t.nanos / 1000000000)
    ++ fractionText (t.nanos % 1000000000)

end Time

end SqlBuilder
