import SqlBuilder.Json.Number
import SqlBuilder.Text.Hex

/-!
# JSON tokens

The lexical level of JSON. The characters of a text run through an automaton
whose state is what has been begun: nothing, a word (a number, `true`,
`false` or `null`), a string, or a string just after a backslash. A string is
gathered as written and its escapes are undone at its closing quote.
-/

namespace SqlBuilder

/-- A token. -/
inductive JsonToken where
  | openBracket
  | closeBracket
  | openBrace
  | closeBrace
  | comma
  | colon
  /-- A string, a number, `true`, `false` or `null`. -/
  | scalar (value : Json)

namespace JsonToken

/-- The 16-bit unit of four hexadecimal digits. -/
def unit? (a b c d : Char) : Option Nat := do
  let a ← Hex.digit? a
  let b ← Hex.digit? b
  let c ← Hex.digit? c
  let d ← Hex.digit? d
  return ((a * 16 + b) * 16 + c) * 16 + d

/-- The character of a one-letter escape. -/
def simpleEscape? : Char → Option Char
  | '"' => some '"'
  | '\\' => some '\\'
  | '/' => some '/'
  | 'b' => some '\x08'
  | 'f' => some '\x0c'
  | 'n' => some '\n'
  | 'r' => some '\r'
  | 't' => some '\t'
  | _ => none

/-- The content of a string with its escapes undone. A unit of the high
surrogates must be followed by one of the low surrogates, which stands
nowhere else; control characters must be escaped. -/
def unescape? : List Char → Option (List Char)
  | [] => some []
  | '\\' :: 'u' :: a :: b :: c :: d :: rest =>
      match unit? a b c d with
      | none => none
      | some high =>
          if 0xD800 ≤ high ∧ high < 0xDC00 then
            match rest with
            | '\\' :: 'u' :: a' :: b' :: c' :: d' :: rest' =>
                match unit? a' b' c' d' with
                | none => none
                | some low =>
                    if 0xDC00 ≤ low ∧ low < 0xE000 then
                      let code := 0x10000 + (high - 0xD800) * 0x400 + (low - 0xDC00)
                      (unescape? rest').map (Char.ofNat code :: ·)
                    else none
            | _ => none
          else if 0xDC00 ≤ high ∧ high < 0xE000 then none
          else (unescape? rest).map (Char.ofNat high :: ·)
  | '\\' :: c :: rest =>
      match simpleEscape? c with
      | none => none
      | some e => (unescape? rest).map (e :: ·)
  | c :: rest =>
      if c = '\\' ∨ c.toNat < 0x20 then none
      else (unescape? rest).map (c :: ·)

/-- What a word stands for. -/
def ofWord? (word : List Char) : Option JsonToken :=
  if word = ['t', 'r', 'u', 'e'] then some (.scalar (.bool true))
  else if word = ['f', 'a', 'l', 's', 'e'] then some (.scalar (.bool false))
  else if word = ['n', 'u', 'l', 'l'] then some (.scalar .null)
  else (JsonNumber.ofText? word).map fun n => .scalar (.number n)

/-- What the automaton has begun; gathered characters come last first. -/
inductive Begun where
  | nothing
  | word (chars : List Char)
  | string (chars : List Char)
  | escape (chars : List Char)

/-- The automaton: what has been begun, and the tokens so far, last first. -/
structure Lexer where
  begun : Begun
  tokens : List JsonToken

/-- Whether a character can stand in a word. -/
def isWordChar (c : Char) : Bool :=
  c.isAlphanum || c == '+' || c == '-' || c == '.'

/-- A character where nothing has been begun. -/
def Lexer.start? (tokens : List JsonToken) (c : Char) : Option Lexer :=
  match c with
  | '[' => some ⟨.nothing, .openBracket :: tokens⟩
  | ']' => some ⟨.nothing, .closeBracket :: tokens⟩
  | '\x7b' => some ⟨.nothing, .openBrace :: tokens⟩
  | '\x7d' => some ⟨.nothing, .closeBrace :: tokens⟩
  | ',' => some ⟨.nothing, .comma :: tokens⟩
  | ':' => some ⟨.nothing, .colon :: tokens⟩
  | '"' => some ⟨.string [], tokens⟩
  | ' ' | '\n' | '\r' | '\t' => some ⟨.nothing, tokens⟩
  | c => if isWordChar c then some ⟨.word [c], tokens⟩ else none

/-- Ends a begun word. -/
def Lexer.endWord? (l : Lexer) : Option (List JsonToken) :=
  match l.begun with
  | .nothing => some l.tokens
  | .word chars => (ofWord? chars.reverse).map (· :: l.tokens)
  | _ => none

/-- One step of the automaton. -/
def Lexer.step? (l : Lexer) (c : Char) : Option Lexer :=
  match l.begun with
  | .nothing => start? l.tokens c
  | .word chars =>
      if isWordChar c then some { l with begun := .word (c :: chars) }
      else l.endWord?.bind (start? · c)
  | .string chars =>
      if c = '"' then
        (unescape? chars.reverse).map fun s =>
          ⟨.nothing, .scalar (.string (String.ofList s)) :: l.tokens⟩
      else if c = '\\' then some { l with begun := .escape (c :: chars) }
      else some { l with begun := .string (c :: chars) }
  | .escape chars => some { l with begun := .string (c :: chars) }

/-- The tokens of a text. -/
def ofText? (s : List Char) : Option (List JsonToken) :=
  ((s.foldlM Lexer.step? ⟨.nothing, []⟩).bind Lexer.endWord?).map List.reverse

end JsonToken

end SqlBuilder
