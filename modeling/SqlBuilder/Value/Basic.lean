import SqlBuilder.Calendar.Timestamp
import SqlBuilder.Json.Basic
import SqlBuilder.Uuid

/-!
# Values

The constants that a statement carries. A value is a scalar or an array of
values; a scalar is null or belongs to one of fourteen kinds. Null is always
written into the text of a statement, all other values can be parameters.
-/

namespace SqlBuilder

/-- The kind of a value, without the value itself. -/
inductive ValueKind where
  | null | bool | int16 | int32 | int64 | float32 | float64 | text | bytes
  | date | time | timestamp | timestampTz | uuid | json | array
deriving DecidableEq

namespace ValueKind

/-- The name of a kind in messages. -/
def name : ValueKind → String
  | .null => "null"
  | .bool => "bool"
  | .int16 => "int16"
  | .int32 => "int32"
  | .int64 => "int64"
  | .float32 => "float32"
  | .float64 => "float64"
  | .text => "text"
  | .bytes => "bytes"
  | .date => "date"
  | .time => "time"
  | .timestamp => "timestamp"
  | .timestampTz => "timestamptz"
  | .uuid => "uuid"
  | .json => "json"
  | .array => "array"

end ValueKind

/-- A value that is no array. Floating-point numbers are held as their bit
patterns, so that every one of them, NaNs included, is a value of its own. -/
inductive Scalar where
  | null
  | bool (b : Bool)
  | int16 (n : Int16)
  | int32 (n : Int32)
  | int64 (n : Int64)
  | float32 (bits : UInt32)
  | float64 (bits : UInt64)
  | text (s : String)
  | bytes (bs : List UInt8)
  | date (d : Date)
  | time (t : Time)
  | timestamp (t : Timestamp)
  /-- A point in time, in UTC. -/
  | timestampTz (t : Timestamp)
  | uuid (u : Uuid)
  | json (j : Json)

namespace Scalar

def kind : Scalar → ValueKind
  | .null => .null
  | .bool _ => .bool
  | .int16 _ => .int16
  | .int32 _ => .int32
  | .int64 _ => .int64
  | .float32 _ => .float32
  | .float64 _ => .float64
  | .text _ => .text
  | .bytes _ => .bytes
  | .date _ => .date
  | .time _ => .time
  | .timestamp _ => .timestamp
  | .timestampTz _ => .timestampTz
  | .uuid _ => .uuid
  | .json _ => .json

def isNull : Scalar → Bool
  | .null => true
  | _ => false

end Scalar

/-- A constant: a scalar, or an array of constants. -/
inductive Value where
  | scalar (s : Scalar)
  | array (elements : List Value)

namespace Value

def null : Value := .scalar .null

def text (s : String) : Value := .scalar (.text s)

/-- The value of an option: null for none. -/
def ofOption (v : Option Value) : Value := v.getD null

def kind : Value → ValueKind
  | .scalar s => s.kind
  | .array _ => .array

/-- Whether a value can be a parameter: null cannot. -/
def isPreparable : Value → Bool
  | .scalar s => !s.isNull
  | .array _ => true

end Value

end SqlBuilder
