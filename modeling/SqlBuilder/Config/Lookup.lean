import SqlBuilder.Config.Basic

/-!
# Configuration from variables

A configuration is read from two named settings. An absent setting keeps its
default; a setting with an unknown value is an error, and the placeholder
style is looked at first.
-/

namespace SqlBuilder

/-- Why a configuration cannot be read. -/
inductive ConfigError where
  | invalidBoolean (key value : String)
  | invalidPlaceholderStyle (key value : String)
deriving DecidableEq

namespace ConfigError

def message : ConfigError → String
  | .invalidBoolean key value =>
      "Invalid value for " ++ key ++ ": " ++ value
        ++ ". Expected true, 1, yes, on, enabled, enable OR false, 0, no, off, disabled, disable"
  | .invalidPlaceholderStyle key value =>
      "Invalid value for " ++ key ++ ": " ++ value ++ ". Expected question or numbered"

end ConfigError

/-- The setting of the placeholder style. -/
def placeholderStyleKey : String := "EXO_SQL_PLACEHOLDER_STYLE"

/-- The setting of identifier quoting. -/
def quoteIdentifiersKey : String := "EXO_SQL_QUOTE_IDENTIFIERS"

/-- The placeholder style that a setting names, in any case. -/
def PlaceholderStyle.ofSetting? (value : String) : Option PlaceholderStyle :=
  if value.toLower ∈ ["question", "?"] then some .question
  else if value.toLower ∈ ["numbered", "$"] then some .numbered
  else none

/-- The truth value that a setting names, in any case. The words are ASCII,
and the only letter beyond ASCII with an ASCII lower case is the sign of the
kelvin, whose `k` is in none of them; so the lower case of ASCII decides. -/
def booleanSetting? (value : String) : Option Bool :=
  if value.toLower ∈ ["true", "1", "yes", "on", "enabled", "enable"] then some true
  else if value.toLower ∈ ["false", "0", "no", "off", "disabled", "disable"] then some false
  else none

/-- A setting read by `read?`, its default when it is absent, and `invalid`
when it cannot be read. -/
def readSetting {α : Type} (setting : Option String) (read? : String → Option α)
    (default : α) (invalid : String → ConfigError) : Except ConfigError α :=
  match setting with
  | none => .ok default
  | some value =>
      match read? value with
      | some a => .ok a
      | none => .error (invalid value)

namespace RenderConfig

/-- The configuration that a look-up of settings gives. -/
def ofLookup (lookup : String → Option String) : Except ConfigError RenderConfig := do
  let defaults : RenderConfig := {}
  let placeholderStyle ←
    readSetting (lookup placeholderStyleKey) PlaceholderStyle.ofSetting?
      defaults.placeholderStyle (.invalidPlaceholderStyle placeholderStyleKey)
  let quoteIdentifiers ←
    readSetting (lookup quoteIdentifiersKey) booleanSetting?
      defaults.quoteIdentifiers (.invalidBoolean quoteIdentifiersKey)
  return { placeholderStyle, quoteIdentifiers }

end RenderConfig

end SqlBuilder
