import ServiceContract.Value

/-!
# Values that only TOML has

TOML has no null, so a map of one key and null can stand for what other trees have not.
-/

namespace ServiceContract.Toml

/-- The key under which a date or time stands. -/
def dateKey : String := "$__toml_private_datetime"

/-- The key under which a float stands that is too large. -/
def hugeFloatKey : String := "huge float"

/-- The value for what only TOML has. -/
def special (key : String) : Value := .map [(key, .null)]

end ServiceContract.Toml
