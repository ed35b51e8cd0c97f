/-!
# JSON values

The values of JSON. A number is an integer where a 64-bit word holds it and
a double otherwise. The members of an object are kept in the order of their
keys, each key once.
-/

namespace SqlBuilder

/-- A JSON number. -/
inductive JsonNumber where
  | integer (n : Int)
  /-- A double, by its bit pattern. -/
  | float (bits : UInt64)
deriving DecidableEq

/-- A JSON value. -/
inductive Json where
  | null
  | bool (b : Bool)
  | number (n : JsonNumber)
  | string (s : String)
  | array (elements : List Json)
  | object (members : List (String × Json))

namespace Json

/-- Sets a member in a list ordered by key; an older value of the key goes. -/
def insertMember (key : String) (value : Json) :
    List (String × Json) → List (String × Json)
  | [] => [(key, value)]
  | (k, v) :: rest =>
      if key < k then (key, value) :: (k, v) :: rest
      else if key = k then (key, value) :: rest
      else (k, v) :: insertMember key value rest

/-- The value of a key. -/
def member? (key : String) (members : List (String × Json)) : Option Json :=
  members.lookup key

end Json

end SqlBuilder
