import SqlBuilder.Error

/-!
# Arrays with dimensions

Postgres arrays are rectangular: nested lists of values become a list of
scalars with a length for each dimension. One pass over the nested lists
checks the shape. The first scalar fixes the depth at which scalars stand,
the first scalar that is not null fixes their kind, and the first list to
end at a depth fixes the length of that dimension.
-/

namespace SqlBuilder

/-- A dimension of an array. -/
structure Dimension where
  length : Nat
  lowerBound : Int := 1
deriving DecidableEq

/-- A rectangular array: its dimensions from the outermost inwards and its
elements, the last index running fastest. -/
structure PgArray where
  dimensions : List Dimension
  elements : List Scalar

namespace PgArray

/-- What is known after a part of the pass. -/
structure Flattened where
  elements : List Scalar := []
  /-- The lengths found so far, ordered by depth. -/
  lengths : List (Nat × Nat) := []
  scalarDepth : Option Nat := none
  kind : Option ValueKind := none

namespace Flattened

/-- Puts the length of a depth into an ordered list that has none. -/
def insertLength (depth length : Nat) : List (Nat × Nat) → List (Nat × Nat)
  | [] => [(depth, length)]
  | (d, l) :: rest =>
      if depth < d then (depth, length) :: (d, l) :: rest
      else (d, l) :: insertLength depth length rest

/-- A list begins among the items of a depth: no scalar may stand there or
above. -/
def enterList (f : Flattened) (depth : Nat) : Except ArrayError Unit :=
  match f.scalarDepth with
  | some scalarDepth => if scalarDepth ≤ depth then .error (.listBesideScalars depth) else .ok ()
  | none => .ok ()

/-- A list of a depth ends: it is as long as the others. -/
def endList (f : Flattened) (depth length : Nat) : Except ArrayError Flattened :=
  match f.lengths.lookup depth with
  | none => .ok { f with lengths := insertLength depth length f.lengths }
  | some expected =>
      if expected = length then .ok f else .error (.ragged depth expected length)

/-- A scalar stands at a depth: all do, and all but null are of one kind. -/
def addScalar (f : Flattened) (depth : Nat) (s : Scalar) : Except ArrayError Flattened := do
  if let some expected := f.scalarDepth then
    if expected ≠ depth then
      throw (.scalarDepth depth expected)
  if !s.isNull then
    if let some expected := f.kind then
      if expected ≠ s.kind then
        throw (.mixedKinds expected s.kind)
  return { f with
    elements := f.elements ++ [s]
    scalarDepth := some depth
    kind := if s.isNull then f.kind else some s.kind }

mutual

/-- An item of a list at a depth. -/
def addItem (depth : Nat) : Value → Flattened → Except ArrayError Flattened
  | .scalar s, f => f.addScalar depth s
  | .array nested, f => do
      f.enterList depth
      let f ← addItems (depth + 1) nested f
      f.endList (depth + 1) nested.length

/-- The items of a list at a depth. -/
def addItems (depth : Nat) : List Value → Flattened → Except ArrayError Flattened
  | [], f => .ok f
  | item :: rest, f => do
      let f ← addItem depth item f
      addItems depth rest f

end

end Flattened

/-- The greatest length that the format can say: that of 32 signed bits. -/
def maxLength : Nat := 2147483647

/-- The dimension of a length at a depth. -/
def dimension : Nat × Nat → Except ArrayError Dimension
  | (depth, length) => if length ≤ maxLength then .ok { length } else .error (.tooLong depth length)

/-- The array of a list of values. Lists without any scalar have no
dimensions. -/
def ofValues (values : List Value) : Except ArrayError PgArray := do
  let f ← Flattened.addItems 0 values {}
  let f ← f.endList 0 values.length
  if f.scalarDepth.isNone then
    return ⟨[], []⟩
  let dimensions ← f.lengths.mapM dimension
  let expected := dimensions.foldl (fun n d => n * d.length) 1
  if expected ≠ f.elements.length then
    throw (.elementCount expected f.elements.length)
  return ⟨dimensions, f.elements⟩

end PgArray

end SqlBuilder
