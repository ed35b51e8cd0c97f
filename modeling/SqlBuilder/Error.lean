import SqlBuilder.Config.Lookup
import SqlBuilder.Value.Basic

/-!
# Errors

What can go wrong while a statement is assembled, rendered or bound. Each
error is a cause; its wording is in one `message` function.
-/

namespace SqlBuilder

/-- A step that a tree cannot take in the state it is in. -/
inductive Misuse where
  | secondRoot
  | endWithoutOpenNode
  | leafWithoutOpenNode
  | leavesWithoutOpenNode
deriving DecidableEq

namespace Misuse

def message : Misuse → String
  | .secondRoot => "a second root node was started"
  | .endWithoutOpenNode => "end_node called with no open node"
  | .leafWithoutOpenNode => "leaf added with no open node"
  | .leavesWithoutOpenNode => "leaves added with no open node"

end Misuse

/-- Why a tree is broken. -/
inductive TreeFault where
  | misused (misuse : Misuse)
  | stillOpen (nodes : Nat)
deriving DecidableEq

namespace TreeFault

def message : TreeFault → String
  | .misused misuse => misuse.message
  | .stillOpen nodes => toString nodes ++ " node(s) still open"

end TreeFault

/-- Why a statement cannot be built or rendered. -/
inductive BuilderError where
  | brokenTree (fault : TreeFault)
  | emptyTree
  | invalidStatement (reason : String)
  | unsupportedConstantType (typeName : String)
  | config (error : ConfigError)
deriving DecidableEq

namespace BuilderError

def message : BuilderError → String
  | .brokenTree fault => "Broken tree: " ++ fault.message
  | .emptyTree => "Nothing has been assembled into the tree"
  | .invalidStatement reason => "Invalid statement: " ++ reason
  | .unsupportedConstantType typeName => "Unsupported constant type: " ++ typeName
  | .config error => "Configuration error: " ++ error.message

end BuilderError

/-- Why nested values are no array with dimensions. -/
inductive ArrayError where
  /-- A list stands where scalars stand, or deeper. -/
  | listBesideScalars (depth : Nat)
  /-- A scalar stands at another depth than the first one. -/
  | scalarDepth (depth expected : Nat)
  /-- A scalar is of another kind than the first one that is not null. -/
  | mixedKinds (expected found : ValueKind)
  /-- Two lists of one depth differ in length. -/
  | ragged (depth expected found : Nat)
  /-- A list is longer than a dimension can say. -/
  | tooLong (depth length : Nat)
  /-- The dimensions call for another number of elements. -/
  | elementCount (expected found : Nat)
deriving DecidableEq

namespace ArrayError

def message : ArrayError → String
  | .listBesideScalars depth =>
      "Nested array found at dimension " ++ toString depth ++ " alongside scalar elements"
  | .scalarDepth depth expected =>
      "Scalar element found at dimension " ++ toString depth ++ ", expected dimension "
        ++ toString expected
  | .mixedKinds expected found =>
      "Array elements must be of the same kind. Expected " ++ expected.name ++ ", got "
        ++ found.name
  | .ragged depth expected found =>
      "Array dimensions do not match in dimension " ++ toString depth ++ ". Expected "
        ++ toString expected ++ ", got " ++ toString found
  | .tooLong depth length =>
      "Dimension " ++ toString depth ++ " is too long (" ++ toString length ++ " elements)"
  | .elementCount expected found =>
      "Array dimensions describe " ++ toString expected ++ " elements, found " ++ toString found

end ArrayError

/-- Why a target refuses a parameter. -/
inductive BindReason where
  /-- The target has no place for the kind of value. -/
  | unsupported
  | arrayConstruction (error : ArrayError)
  /-- The target's own report. -/
  | driver (report : String)
deriving DecidableEq

namespace BindReason

def message : BindReason → String
  | .unsupported => "the target doesn't support this kind of value"
  | .arrayConstruction error => "could not construct array: " ++ error.message
  | .driver report => "driver error: " ++ report

end BindReason

/-- A parameter that could not be bound, by its index, counted from one. -/
structure BindError where
  index : Nat
  kind : ValueKind
  reason : BindReason
deriving DecidableEq

namespace BindError

def message (e : BindError) : String :=
  "Failed to bind parameter " ++ toString e.index ++ " (" ++ e.kind.name ++ "): "
    ++ e.reason.message

end BindError

end SqlBuilder
