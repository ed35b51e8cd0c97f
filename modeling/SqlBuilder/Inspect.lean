import SqlBuilder.Json.Text
import SqlBuilder.Postgres.Params
import SqlBuilder.Statement.With
import SqlBuilder.Text.GraphemeExtend
import SqlBuilder.Text.NonGraphic
import SqlBuilder.Value.Literal

/-!
# Inspection

A view of descriptions for people who look for a mistake: every part with
its name, statements inside them cut short.
-/

namespace SqlBuilder

namespace Inspect

/-- Whether a character is shown by its code: it shows nothing by itself, or
joins the character before it. -/
def hidden (c : Char) : Bool :=
  graphemeExtend.covers c.toNat || nonGraphic.covers c.toNat

/-- A character by its code, in as many digits as it takes. -/
def byCode (c : Char) : List Char :=
  '\\' :: 'u' :: '\x7b' :: (Nat.toDigits 16 c.toNat ++ ['\x7d'])

/-- A character of a text between quotes. -/
def character (c : Char) : List Char :=
  match c with
  | '"' => ['\\', '"']
  | '\\' => ['\\', '\\']
  | '\n' => ['\\', 'n']
  | '\r' => ['\\', 'r']
  | '\t' => ['\\', 't']
  | '\x00' => ['\\', '0']
  | c => if hidden c then byCode c else [c]

/-- A text between quotes. -/
def text (s : String) : String :=
  String.ofList ('"' :: (s.toList.flatMap character ++ ['"']))

/-- A list. -/
def list (items : List String) : String := "[" ++ ", ".intercalate items ++ "]"

/-- A constructor around its content. -/
def wrapped (name content : String) : String := name ++ "(" ++ content ++ ")"

/-- An option. -/
def option (o : Option String) : String :=
  match o with
  | none => "None"
  | some content => wrapped "Some" content

/-- A truth value. -/
def bool (b : Bool) : String := if b then "true" else "false"

/-- A record with its fields. -/
def record (name : String) (fields : List (String × String)) : String :=
  name ++ " \x7b " ++ ", ".intercalate (fields.map fun (field, content) => field ++ ": " ++ content)
    ++ " \x7d"

/-- What stands for a statement. -/
def ellipsis : String := text ".."

/-- How floating-point numbers are shown: positionally from `1e-4` up to
below `1e16`. -/
def floatLayout : FloatLayout := ⟨.upper, some (-4, 15), true, false⟩

/-- A floating-point number. -/
def float (f : BinaryFormat) (bits : Nat) : String :=
  match f.decode bits with
  | .nan => "NaN"
  | .infinite false => "inf"
  | .infinite true => "-inf"
  | .finite negative significand exponent => floatLayout.finite f negative significand exponent

/-- A byte in a string of bytes. -/
def byte (b : UInt8) : List Char :=
  let c := Char.ofNat b.toNat
  if c = '"' ∨ c = '\\' then ['\\', c]
  else if c = '\n' then ['\\', 'n']
  else if c = '\r' then ['\\', 'r']
  else if c = '\t' then ['\\', 't']
  else if b = 0 then ['\\', '0']
  else if 0x20 ≤ b.toNat ∧ b.toNat < 0x7f then [c]
  else '\\' :: 'x' :: Hex.byte b

mutual

/-- A JSON value. -/
def json : Json → String
  | .null => "Null"
  | .bool b => wrapped "Bool" (bool b)
  | .number n => wrapped "Number" n.text
  | .string s => wrapped "String" (text s)
  | .array elements => "Array " ++ list (jsonElements elements)
  | .object members => "Object \x7b" ++ ", ".intercalate (jsonMembers members) ++ "\x7d"

/-- The elements of a JSON array. -/
def jsonElements : List Json → List String
  | [] => []
  | j :: rest => json j :: jsonElements rest

/-- The members of a JSON object. -/
def jsonMembers : List (String × Json) → List String
  | [] => []
  | (key, j) :: rest => (text key ++ ": " ++ json j) :: jsonMembers rest

end

/-- The content of a scalar as a driver shows it. -/
def content : Scalar → String
  | .null => "Null"
  | .bool b => bool b
  | .int16 n => toString n.toInt
  | .int32 n => toString n.toInt
  | .int64 n => toString n.toInt
  | .float32 bits => float .binary32 bits.toNat
  | .float64 bits => float .binary64 bits.toNat
  | .text s => text s
  | .bytes bs => list (bs.map fun b => toString b.toNat)
  | .date d => d.text
  | .time t => t.text
  | .timestamp t => t.text
  | .timestampTz t => t.text ++ "Z"
  | .uuid u => u.text
  | .json j => json j

def constructorName : ValueKind → String
  | .null => "Null"
  | .bool => "Bool"
  | .int16 => "Int16"
  | .int32 => "Int32"
  | .int64 => "Int64"
  | .float32 => "Float32"
  | .float64 => "Float64"
  | .text => "Text"
  | .bytes => "Bytes"
  | .date => "Date"
  | .time => "Time"
  | .timestamp => "Timestamp"
  | .timestampTz => "TimestampTz"
  | .uuid => "Uuid"
  | .json => "Json"
  | .array => "Array"

/-- A scalar: its constructor around its content. -/
def scalar (s : Scalar) : String :=
  if s.isNull then "Null" else wrapped (constructorName s.kind) (content s)

mutual

/-- A value. In a value, bytes are shown as a string of bytes. -/
def value : Value → String
  | .scalar (.bytes bs) =>
      wrapped "Bytes" ("b" ++ String.ofList ('"' :: (bs.flatMap byte ++ ['"'])))
  | .scalar s => scalar s
  | .array elements => wrapped "Array" (list (values elements))

/-- Some values. -/
def values : List Value → List String
  | [] => []
  | v :: rest => value v :: values rest

end

def style : TextStyle → String
  | .raw => "Default"
  | .stringConstant => "StringConstant"
  | .dollarString tag => record "DollarString" [("tag", text tag)]
  | .column quoted => record "ColumnReference" [("quoted", option (quoted.map bool))]
  | .field => "FieldSelection"

def suffixFields (s : Suffix) : List (String × String) :=
  [("cast", option (s.cast.map text)),
   ("alias", option (s.aliased.map fun a =>
      record "Alias" [("name", text a.name), ("columns", list (a.columns.map text))]))]

variable {σ : Type}

/-- A statement as an expression. -/
def subquery (s : Suffix) : String :=
  record "Expression" (("subquery", ellipsis) :: suffixFields s)

mutual

/-- An expression. -/
def expression : Expression σ → String
  | .text content kind s =>
      record "Expression" (("text", text content) :: ("type", style kind) :: suffixFields s)
  | .value v s => record "Expression" (("value", value v) :: suffixFields s)
  | .list elements s =>
      record "Expression" (("list", list (expressions elements)) :: suffixFields s)
  | .array elements s =>
      record "Expression" (("array", list (expressions elements)) :: suffixFields s)
  | .call name arguments s =>
      record "Expression"
        (("function", text name) :: ("args", list (expressions arguments)) :: suffixFields s)
  | .nested _ s => subquery s

/-- Some expressions. -/
def expressions : List (Expression σ) → List String
  | [] => []
  | e :: rest => expression e :: expressions rest

end

/-- A named statement. -/
def commonTableExpression (c : CommonTableExpression σ) : String :=
  record "CommonTableExpression"
    [("name", text c.name), ("columns", list (c.columns.map text)), ("statement", subquery {})]

def withStatement (w : With σ) : String :=
  record "With"
    [("recursive", bool w.isRecursive),
     ("expressions", list (w.expressions.map commonTableExpression)),
     ("body", option (w.content.map fun _ => ellipsis))]

/-- A dimension of an array. -/
def dimension (d : Dimension) : String :=
  record "Dimension" [("len", toString d.length), ("lower_bound", toString d.lowerBound)]

/-- A parameter. -/
def param : PgParam → String
  | .scalar s => content s
  | .array a =>
      record "Array"
        [("dims", list (a.dimensions.map dimension)), ("data", list (a.elements.map scalar))]

/-- Parameters. -/
def params (ps : PgParams) : String := list (ps.map param)

end Inspect

end SqlBuilder
