import SqlBuilder.Event

/-!
# Binding parameters

Parameters are handed to a target one after the other, each by the method of
its kind and with its index, counted from one. The first method that fails
ends it; what the target has taken until then, it keeps.
-/

namespace SqlBuilder

/-- What became of an attempt on a state: whether it failed, the state
afterwards in both cases, and what was noted. -/
structure Attempt (ε τ : Type) where
  result : Except ε Unit
  state : τ
  log : List Event := []

namespace Attempt

variable {τ : Type}

/-- Refuses a kind of value and leaves the state as it is. -/
def unsupported (state : τ) : Attempt BindReason τ := ⟨.error .unsupported, state, []⟩

def done (state : τ) : Attempt BindReason τ := ⟨.ok (), state, []⟩

end Attempt

/-- A destination of parameters with a state of type `τ`: for each kind of
value, what happens to the state when a value is bound at an index. A kind
that a target says nothing about is unsupported. -/
structure BindTarget (τ : Type) where
  bindNull : Nat → τ → Attempt BindReason τ := fun _ => .unsupported
  bindBool : Nat → Bool → τ → Attempt BindReason τ := fun _ _ => .unsupported
  bindInt16 : Nat → Int16 → τ → Attempt BindReason τ := fun _ _ => .unsupported
  bindInt32 : Nat → Int32 → τ → Attempt BindReason τ := fun _ _ => .unsupported
  bindInt64 : Nat → Int64 → τ → Attempt BindReason τ := fun _ _ => .unsupported
  bindFloat32 : Nat → UInt32 → τ → Attempt BindReason τ := fun _ _ => .unsupported
  bindFloat64 : Nat → UInt64 → τ → Attempt BindReason τ := fun _ _ => .unsupported
  bindText : Nat → String → τ → Attempt BindReason τ := fun _ _ => .unsupported
  bindBytes : Nat → List UInt8 → τ → Attempt BindReason τ := fun _ _ => .unsupported
  bindDate : Nat → Date → τ → Attempt BindReason τ := fun _ _ => .unsupported
  bindTime : Nat → Time → τ → Attempt BindReason τ := fun _ _ => .unsupported
  bindTimestamp : Nat → Timestamp → τ → Attempt BindReason τ := fun _ _ => .unsupported
  bindTimestampTz : Nat → Timestamp → τ → Attempt BindReason τ := fun _ _ => .unsupported
  bindUuid : Nat → Uuid → τ → Attempt BindReason τ := fun _ _ => .unsupported
  bindJson : Nat → Json → τ → Attempt BindReason τ := fun _ _ => .unsupported
  bindArray : Nat → List Value → τ → Attempt BindReason τ := fun _ _ => .unsupported

namespace BindTarget

variable {τ : Type}

/-- Binds a value by the method of its kind. -/
def bindValue (target : BindTarget τ) (index : Nat) : Value → τ → Attempt BindReason τ
  | .scalar .null => target.bindNull index
  | .scalar (.bool b) => target.bindBool index b
  | .scalar (.int16 n) => target.bindInt16 index n
  | .scalar (.int32 n) => target.bindInt32 index n
  | .scalar (.int64 n) => target.bindInt64 index n
  | .scalar (.float32 bits) => target.bindFloat32 index bits
  | .scalar (.float64 bits) => target.bindFloat64 index bits
  | .scalar (.text s) => target.bindText index s
  | .scalar (.bytes bs) => target.bindBytes index bs
  | .scalar (.date d) => target.bindDate index d
  | .scalar (.time t) => target.bindTime index t
  | .scalar (.timestamp t) => target.bindTimestamp index t
  | .scalar (.timestampTz t) => target.bindTimestampTz index t
  | .scalar (.uuid u) => target.bindUuid index u
  | .scalar (.json j) => target.bindJson index j
  | .array elements => target.bindArray index elements

/-- Binds values in turn after `bound` others have been bound. -/
def bindFrom (target : BindTarget τ) (bound : Nat) :
    List Value → τ → Attempt BindError τ
  | [], state => ⟨.ok (), state, []⟩
  | v :: rest, state =>
      let index := bound + 1
      let attempt := target.bindValue index v state
      let log := .bindingParameter index v.kind :: attempt.log
      match attempt.result with
      | .error reason => ⟨.error ⟨index, v.kind, reason⟩, attempt.state, log⟩
      | .ok () =>
          let others := target.bindFrom index rest attempt.state
          { others with log := log ++ others.log }

/-- Binds all parameters in order, up to the first that fails. -/
def bindParameters (target : BindTarget τ) (params : List Value) (state : τ) :
    Attempt BindError τ :=
  target.bindFrom 0 params state

end BindTarget

end SqlBuilder
