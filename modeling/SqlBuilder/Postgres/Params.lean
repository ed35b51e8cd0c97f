import SqlBuilder.Binding
import SqlBuilder.Postgres.Wire

/-!
# Postgres parameters

A list of parameters is a target for binding that takes every kind of value.
Arrays are checked for their shape when they are bound.
-/

namespace SqlBuilder

/-- A parameter that can be sent. -/
inductive PgParam where
  | scalar (s : Scalar)
  | array (a : PgArray)

namespace PgParam

/-- Sends a parameter as a type: scalars as base types, arrays as array
types, and null as any. -/
def encode : PgParam → PgType → Except WireError WireValue
  | .scalar .null, _ => .ok none
  | .scalar s, .base type => s.encode type
  | .array a, .array element => (a.encode element).map some
  | _, _ => .error .wrongType

end PgParam

/-- Parameters in the order of their placeholders. -/
abbrev PgParams := List PgParam

namespace PgParams

def push (s : Scalar) (params : PgParams) : Attempt BindReason PgParams :=
  .done (params ++ [.scalar s])

/-- Adds an array, if its values have the shape of one. -/
def pushArray (index : Nat) (elements : List Value) (params : PgParams) :
    Attempt BindReason PgParams :=
  match PgArray.ofValues elements with
  | .ok a => ⟨.ok (), params ++ [.array a], [.bindingArray index a.dimensions.length]⟩
  | .error e => ⟨.error (.arrayConstruction e), params, []⟩

/-- Parameters as a target. -/
def target : BindTarget PgParams where
  bindNull _ := push .null
  bindBool _ b := push (.bool b)
  bindInt16 _ n := push (.int16 n)
  bindInt32 _ n := push (.int32 n)
  bindInt64 _ n := push (.int64 n)
  bindFloat32 _ bits := push (.float32 bits)
  bindFloat64 _ bits := push (.float64 bits)
  bindText _ s := push (.text s)
  bindBytes _ bs := push (.bytes bs)
  bindDate _ d := push (.date d)
  bindTime _ t := push (.time t)
  bindTimestamp _ t := push (.timestamp t)
  bindTimestampTz _ t := push (.timestampTz t)
  bindUuid _ u := push (.uuid u)
  bindJson _ j := push (.json j)
  bindArray := pushArray

/-- The parameters of some values. -/
def ofValues (values : List Value) : Logged (Except BindError PgParams) :=
  let attempt := target.bindParameters values []
  ⟨attempt.result.map fun _ => attempt.state, attempt.log⟩

end PgParams

end SqlBuilder
