import SqlBuilder.Json.Token

/-!
# Reading JSON

Tokens become a value in one pass with a stack of the arrays and objects
that are open. The state says what must come next, so every token is either
taken or refused at once.
-/

namespace SqlBuilder

namespace Json

/-- An open array or object that waits for a value. -/
inductive Frame where
  /-- An array with its earlier elements, last first. -/
  | elements (before : List Json)
  /-- An object with its earlier members and the key of the value to come. -/
  | members (before : List (String × Json)) (key : String)

/-- What must come next. -/
inductive Stage where
  /-- A value; directly after `[` also the end of the array. -/
  | value (canClose : Bool)
  /-- A key; directly after the opening brace also the end of the object. -/
  | key (before : List (String × Json)) (canClose : Bool)
  /-- The colon after a key. -/
  | colon (before : List (String × Json)) (key : String)
  /-- A value has ended: a comma or a closing bracket, or the end. -/
  | after (value : Json)

/-- The state of the reader: the stage and the open frames, innermost first. -/
structure Reader where
  stage : Stage
  stack : List Frame

/-- Takes one token. -/
def Reader.step? (r : Reader) (token : JsonToken) : Option Reader :=
  match r.stage, token, r.stack with
  | .value _, .scalar j, stack => some ⟨.after j, stack⟩
  | .value _, .openBracket, stack => some ⟨.value true, .elements [] :: stack⟩
  | .value _, .openBrace, stack => some ⟨.key [] true, stack⟩
  | .value true, .closeBracket, .elements _ :: stack => some ⟨.after (.array []), stack⟩
  | .key before _, .scalar (.string key), stack => some ⟨.colon before key, stack⟩
  | .key before true, .closeBrace, stack => some ⟨.after (.object before), stack⟩
  | .colon before key, .colon, stack => some ⟨.value false, .members before key :: stack⟩
  | .after j, .comma, .elements before :: stack =>
      some ⟨.value false, .elements (j :: before) :: stack⟩
  | .after j, .closeBracket, .elements before :: stack =>
      some ⟨.after (.array (j :: before).reverse), stack⟩
  | .after j, .comma, .members before key :: stack =>
      some ⟨.key (insertMember key j before) false, stack⟩
  | .after j, .closeBrace, .members before key :: stack =>
      some ⟨.after (.object (insertMember key j before)), stack⟩
  | _, _, _ => none

/-- The value that has been read, if it has ended and nothing is open. -/
def Reader.finish? (r : Reader) : Option Json :=
  match r.stage, r.stack with
  | .after j, [] => some j
  | _, _ => none

/-- The value that a text writes. -/
def ofText? (text : String) : Option Json := do
  let tokens ← JsonToken.ofText? text.toList
  let reader ← tokens.foldlM Reader.step? ⟨.value false, []⟩
  reader.finish?

end Json

end SqlBuilder
