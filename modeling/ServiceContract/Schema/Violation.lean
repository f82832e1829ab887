import ServiceContract.Json.Printer
import ServiceContract.Schema

/-!
# Violations of schemas
-/

namespace ServiceContract

/-- A demand that a value does not meet. -/
inductive Violation where
  | missing (key : String)
  | wrongType (v : Value) (t : JsonType)
  | tooShort (v : Value) (n : Nat)
  | mismatch (v : Value) (p : Pattern)
  | notOneOf (v : Value) (names : List String)
  | repeatedItems (v : Value)
  | tooFew (v : Value) (n : Nat)
  | unexpected (keys : List String)
deriving DecidableEq

/-- A number of things. -/
def counted (n : Nat) (one more : String) : String :=
  toString n ++ " " ++ if n = 1 then one else more

/-- The choices of a list: the first two, and how many others there are. -/
def choices (names : List String) : String :=
  ", ".intercalate ((names.take 2).map fun name => Json.compact (.text name)) ++ " or " ++
    counted (names.length - 2) "other candidate" "other candidates"

def Violation.message : Violation → String
  | missing key => Json.compact (.text key) ++ " is a required property"
  | wrongType v t => Json.compact v ++ " is not of type \"" ++ t.keyword ++ "\""
  | tooShort v n => Json.compact v ++ " is shorter than " ++ counted n "character" "characters"
  | mismatch v p =>
    Json.compact v ++ " does not match \"" ++ p.write CharacterClass.shown ++ "\""
  | notOneOf v names => Json.compact v ++ " is not one of " ++ choices names
  | repeatedItems v => Json.compact v ++ " has non-unique elements"
  | tooFew v n => Json.compact v ++ " has less than " ++ counted n "property" "properties"
  | unexpected keys =>
    "Additional properties are not allowed (" ++
      ", ".intercalate (keys.map fun key => "'" ++ key ++ "'") ++
      (if keys.length = 1 then " was unexpected)" else " were unexpected)")

end ServiceContract
