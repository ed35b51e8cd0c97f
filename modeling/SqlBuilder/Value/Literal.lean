import SqlBuilder.Decimal.Layout
import SqlBuilder.Json.Text
import SqlBuilder.Text.Quoted
import SqlBuilder.Value.Basic

/-!
# Literals

The SQL text of a value. Numbers and truth values stand as they are, lists
of values stand in `ARRAY[...]`, and everything else is a string constant.
-/

namespace SqlBuilder

/-- `ARRAY[...]` around some texts. -/
def arrayLiteral (elements : List String) : String :=
  "ARRAY[" ++ ", ".intercalate elements ++ "]"

/-- How a floating-point literal is written: all digits, never an exponent,
and no fraction on a whole number. A tie goes to the upper decimal. -/
def literalLayout : FloatLayout := ⟨.upper, none, false, false⟩

/-- The literal of a floating-point number; one that is not finite is a
string constant. -/
def floatLiteral (f : BinaryFormat) (bits : Nat) : String :=
  match f.decode bits with
  | .nan => stringConstant "NaN"
  | .infinite false => stringConstant "Infinity"
  | .infinite true => stringConstant "-Infinity"
  | .finite negative significand exponent =>
      literalLayout.finite f negative significand exponent

def Scalar.literal : Scalar → String
  | .null => "NULL"
  | .bool b => if b then "true" else "false"
  | .int16 n => toString n.toInt
  | .int32 n => toString n.toInt
  | .int64 n => toString n.toInt
  | .float32 bits => floatLiteral .binary32 bits.toNat
  | .float64 bits => floatLiteral .binary64 bits.toNat
  | .text s => stringConstant s
  | .bytes bs => arrayLiteral (bs.map fun b => toString b.toNat)
  | .date d => stringConstant d.text
  | .time t => stringConstant t.text
  | .timestamp t => stringConstant t.text
  | .timestampTz t => stringConstant (t.text ++ "+00:00")
  | .uuid u => stringConstant u.text
  | .json j => stringConstant j.text

namespace Value

mutual

def literal : Value → String
  | .scalar s => s.literal
  | .array elements => arrayLiteral (literals elements)

def literals : List Value → List String
  | [] => []
  | v :: rest => literal v :: literals rest

end

theorem literals_eq_map (vs : List Value) : literals vs = vs.map literal := by
  induction vs with
  | nil => simp [literals]
  | cons v rest ih => simp [literals, ih]

end Value

end SqlBuilder
