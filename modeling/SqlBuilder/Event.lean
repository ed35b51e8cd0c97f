import SqlBuilder.Error

/-!
# Events

What is noted for an observer while statements are assembled, rendered and
bound. An event is a value; how it is shown is a level, a message and named
fields.
-/

namespace SqlBuilder

/-- How grave an event is. -/
inductive EventLevel where
  | error
  | warn
  | debug
  | trace
deriving DecidableEq

/-- Something noted. -/
inductive Event where
  /-- A tree was misused. -/
  | brokenTree (misuse : Misuse)
  /-- A statement was rejected while it was assembled. -/
  | rejected (reason : String)
  /-- A qualified name with an empty segment was written. -/
  | emptySegment (name : String) (index : Nat)
  | rendered (sql : String)
  | renderedPrepared (sql : String) (params : Nat)
  | bindingParameter (index : Nat) (kind : ValueKind)
  | bindingArray (index dimensions : Nat)
  | preparedForPostgres (sql : String) (params : Nat)
deriving DecidableEq

namespace Event

def level : Event → EventLevel
  | .brokenTree _ => .error
  | .rejected _ => .warn
  | .emptySegment _ _ => .warn
  | .rendered _ => .debug
  | .renderedPrepared _ _ => .debug
  | .bindingParameter _ _ => .trace
  | .bindingArray _ _ => .trace
  | .preparedForPostgres _ _ => .debug

def message : Event → String
  | .brokenTree misuse => "Broken tree: " ++ misuse.message
  | .rejected reason => "Invalid statement: " ++ reason
  | .emptySegment _ _ => "Empty segment in qualified name"
  | .rendered _ => "Rendered statement"
  | .renderedPrepared _ _ => "Rendered prepared statement"
  | .bindingParameter _ _ => "Binding parameter"
  | .bindingArray _ _ => "Binding array"
  | .preparedForPostgres _ _ => "Prepared statement for Postgres"

def fields : Event → List (String × String)
  | .brokenTree _ => []
  | .rejected _ => []
  | .emptySegment name index => [("name", name), ("index", toString index)]
  | .rendered sql => [("sql", sql)]
  | .renderedPrepared sql params => [("sql", sql), ("params", toString params)]
  | .bindingParameter index kind => [("index", toString index), ("kind", kind.name)]
  | .bindingArray index dimensions =>
      [("index", toString index), ("dimensions", toString dimensions)]
  | .preparedForPostgres sql params => [("sql", sql), ("params", toString params)]

end Event

/-- A result together with what was noted on the way to it. -/
structure Logged (α : Type) where
  value : α
  log : List Event

end SqlBuilder
