import SqlBuilder.Calendar.Date
import SqlBuilder.Calendar.Time

/-!
# Timestamps

A date and a time of day together, and the distance between two of them.
-/

namespace SqlBuilder

/-- A point in time without a time zone. -/
structure Timestamp where
  date : Date
  time : Time
deriving DecidableEq

namespace Timestamp

/-- The text of the date and of the time, with `T` between them. -/
def text (t : Timestamp) : String := t.date.text ++ "T" ++ t.time.text

/-- The nanoseconds since the start of a day. -/
def nanosSince (t : Timestamp) (origin : Date) : Int :=
  t.date.daysSince origin * 86400000000000 + t.time.nanosSinceMidnight

end Timestamp

end SqlBuilder
