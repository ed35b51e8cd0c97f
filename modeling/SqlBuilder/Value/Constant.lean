import SqlBuilder.Error

/-!
# Constants of unknown type

A constant whose type is known only when the program runs becomes a value if
its type is one of those that values are made of; otherwise the error names
the type.
-/

namespace SqlBuilder

/-- A constant of a type known only at run time. -/
inductive Constant where
  | known (value : Value)
  | foreign (typeName : String)

namespace Value

/-- The value of a constant. -/
def ofConstant : Constant → Except BuilderError Value
  | .known v => .ok v
  | .foreign typeName => .error (.unsupportedConstantType typeName)

end Value

end SqlBuilder
