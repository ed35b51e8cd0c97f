import SqlBuilder.Json.Text
import SqlBuilder.Postgres.Array
import SqlBuilder.Postgres.Type

/-!
# The binary format

Parameters as bytes. A scalar has a fixed set of types that it can be sent
as; null can be sent as any. An array is sent with its shape and the type of
its elements in front, and each element behind its length.
-/

namespace SqlBuilder

/-- Why a value cannot be sent. -/
inductive WireError where
  /-- Its kind is not one of those of the type asked for. -/
  | wrongType
  /-- It is longer than a length in the format can say. -/
  | tooLarge
deriving DecidableEq

/-- The bytes of a value, or none for null. -/
abbrev WireValue := Option (List UInt8)

namespace Wire

/-- A number in so many bytes, the highest first; what does not fit is cut. -/
def bigEndian : Nat → Nat → List UInt8
  | 0, _ => []
  | width + 1, n => UInt8.ofNat (n / Nat.pow 256 width) :: bigEndian width n

/-- A signed number in so many bytes, in two's complement. -/
def signed (width : Nat) (n : Int) : List UInt8 :=
  bigEndian width (n % (Nat.pow 256 width : Nat)).toNat

/-- A count of dimensions or bytes. -/
def count (n : Nat) : Except WireError (List UInt8) :=
  if n ≤ PgArray.maxLength then .ok (signed 4 n) else .error .tooLarge

/-- Nanoseconds in whole microseconds, toward zero. -/
def micros (nanos : Int) : Int := nanos.tdiv 1000

/-- The bytes of a text. -/
def utf8 (s : String) : List UInt8 := s.toUTF8.toList

/-- The bytes of a text in a form that may have a version, which is 1, in front. -/
def versioned (hasVersion : Bool) (s : String) : List UInt8 :=
  if hasVersion then 1 :: utf8 s else utf8 s

/-- The microseconds of a timestamp, counted from the start of 2000. -/
def timestamp (t : Timestamp) : List UInt8 := signed 8 (micros (t.nanosSince Date.year2000))

end Wire

namespace Scalar

def accepts : Scalar → PgBaseType → Bool
  | .null, _ => true
  | .bool _, .bool => true
  | .int16 _, .int2 => true
  | .int32 _, .int4 => true
  | .int64 _, .int8 => true
  | .float32 _, .float4 => true
  | .float64 _, .float8 => true
  | .text _, type => type.takesText
  | .bytes _, .bytea => true
  | .date _, .date => true
  | .time _, .time => true
  | .timestamp _, .timestamp => true
  | .timestampTz _, .timestamptz => true
  | .uuid _, .uuid => true
  | .json _, .json | .json _, .jsonb => true
  | _, _ => false

/-- The bytes of a scalar sent as a type that accepts it. -/
def bytesFor (type : PgBaseType) : Scalar → WireValue
  | .null => none
  | .bool b => some [if b then 1 else 0]
  | .int16 n => some (Wire.signed 2 n.toInt)
  | .int32 n => some (Wire.signed 4 n.toInt)
  | .int64 n => some (Wire.signed 8 n.toInt)
  | .float32 bits => some (Wire.bigEndian 4 bits.toNat)
  | .float64 bits => some (Wire.bigEndian 8 bits.toNat)
  | .text s => some (Wire.versioned type.textHasVersion s)
  | .bytes bs => some bs
  | .date d => some (Wire.signed 4 (d.daysSince Date.year2000))
  | .time t => some (Wire.signed 8 (Wire.micros t.nanosSinceMidnight))
  | .timestamp t => some (Wire.timestamp t)
  | .timestampTz t => some (Wire.timestamp t)
  | .uuid u => some u.bytes
  | .json j => some (Wire.versioned (type = .jsonb) j.text)

/-- Sends a scalar as a type. -/
def encode (type : PgBaseType) (s : Scalar) : Except WireError WireValue :=
  if s.accepts type then .ok (s.bytesFor type) else .error .wrongType

end Scalar

namespace PgArray

/-- A dimension: its length and its lower bound. -/
def dimensionBytes (d : Dimension) : List UInt8 :=
  Wire.signed 4 d.length ++ Wire.signed 4 d.lowerBound

/-- An element behind its length; null has the length -1. -/
def elementBytes (element : PgBaseType) (s : Scalar) : Except WireError (List UInt8) := do
  match ← s.encode element with
  | none => return Wire.signed 4 (-1)
  | some bytes => return (← Wire.count bytes.length) ++ bytes

/-- The bytes of an array: the number of dimensions, whether there is a null,
the type of the elements, the dimensions, and the elements. -/
def encode (element : PgBaseType) (a : PgArray) : Except WireError (List UInt8) := do
  let count ← Wire.count a.dimensions.length
  let anyNull : Int := if a.elements.any Scalar.isNull then 1 else 0
  let elements ← a.elements.mapM (elementBytes element)
  return count
    ++ Wire.signed 4 anyNull
    ++ Wire.bigEndian 4 element.oid
    ++ a.dimensions.flatMap dimensionBytes
    ++ elements.flatten

end PgArray

end SqlBuilder
