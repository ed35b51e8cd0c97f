/-!
# Quoted text

Text between two quote characters, with every quote inside it written
twice. SQL uses one rule for both of its quoted forms: string constants
stand between `'`, identifiers between `"`.
-/

namespace SqlBuilder

namespace Quoted

/-- The characters of a text with every `quote` written twice. -/
def double (quote : Char) : List Char → List Char
  | [] => []
  | c :: rest =>
      if c = quote then quote :: quote :: double quote rest
      else c :: double quote rest

end Quoted

/-- A text between two `quote` characters, inner quotes doubled. -/
def quoted (quote : Char) (text : String) : String :=
  String.ofList (quote :: (Quoted.double quote text.toList ++ [quote]))

/-- A string constant: quoted with `'`. -/
def stringConstant (text : String) : String := quoted '\'' text

/-- A quoted identifier: quoted with `"`. -/
def quotedIdentifier (text : String) : String := quoted '"' text

end SqlBuilder
