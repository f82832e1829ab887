import ServiceContract.Json.Printer
import ServiceContract.Text.Class
import ServiceContract.Toml.Special

/-!
# Faults of a document

Why a value does not describe what it should describe, and the sentence that says so.
-/

namespace ServiceContract.Codec

open Numeral

/-- The form a document has while it is decoded: a complete tree, JSON text that is decoded while
it is read, or TOML. They differ in how a few faults are noticed and worded. -/
inductive Dialect where
  | tree
  | jsonText
  | toml
deriving DecidableEq

/-- Why a value cannot be decoded. -/
inductive Fault where
  /-- A value of another kind was expected. -/
  | wrongType (found : Value) (expected : String)
  /-- The kind is right, the value is not. -/
  | wrongValue (found : Value) (expected : String)
  /-- A variant with content was given as a bare name. -/
  | bareVariant (expected : String)
  /-- A record given in order is too short. -/
  | wrongLength (length : Nat) (expected : String)
  | missingField (key : String)
  | repeatedField (key : String)
  | unknownField (key : String) (known : List String)
  | unknownVariant (name : String) (known : List String)
  /-- No alternative of an untagged type fits. -/
  | noAlternative (type : String)
  /-- A variant with content is a map with one key. -/
  | notSingleKey
  /-- The text goes on where no value can stand. -/
  | valueExpected
  /-- The text goes on behind a complete record. -/
  | trailingCharacters
  /-- A choice in TOML is a string or a table. -/
  | notStringOrTable
  /-- A choice in TOML has one element. -/
  | notOneElement (several : Bool)
  /-- A bare variant in TOML has no content. -/
  | notEmpty (kind : String)
  /-- A bare variant in TOML is an empty table. -/
  | notTable (found : Value)
deriving DecidableEq

/-- A character inside a quoted string of a message. -/
def quotedChar (c : Char) : List Char :=
  if c = '"' then ['\\', '"']
  else if c = '\\' then ['\\', '\\']
  else if c = '\n' then ['\\', 'n']
  else if c = '\r' then ['\\', 'r']
  else if c = '\t' then ['\\', 't']
  else if c.toNat = 0 then ['\\', '0']
  else if Text.isVisible c then [c]
  else "\\u\x7b".toList ++ Nat.toDigits 16 c.toNat ++ ['}']

/-- The kind and the value of what was found. -/
def describe (dialect : Dialect) : Value → String
  | .null => "null"
  | .bool b => if b then "boolean `true`" else "boolean `false`"
  | .int n =>
    let text := String.ofList (intText n)
    if isSigned 64 n || isUnsigned 64 n then "integer `" ++ text ++ "`"
    else if isSigned 128 n then "integer `" ++ text ++ "` as i128"
    else "integer `" ++ text ++ "` as u128"
  | .float x =>
    let text := match dialect with
      | .toml =>
        if x.toFinite?.isSome && !x.text.contains '.' then x.text ++ ['.', '0'] else x.text
      | _ => x.jsonText
    "floating point `" ++ String.ofList text ++ "`"
  | .text s => String.ofList ("string \"".toList ++ s.toList.flatMap quotedChar ++ ['"'])
  | .list _ => "sequence"
  | .map _ => "map"

/-- The names that were possible. -/
def oneOf (names : List String) : String :=
  let quoted := names.map fun name => "`" ++ name ++ "`"
  match quoted with
  | [a] => a
  | [a, b] => a ++ " or " ++ b
  | _ => "one of " ++ ", ".intercalate quoted

def tomlKind : Value → String
  | .null => "null"
  | .bool _ => "boolean"
  | .int _ => "integer"
  | .float _ => "float"
  | .text _ => "string"
  | .list _ => "array"
  | .map [(key, .null)] => if key = Toml.dateKey then "datetime" else "float"
  | .map _ => "table"

/-- The sentence for a number in TOML that is too large: an integer of more than 128 bits, or a
float. -/
def overflow? (dialect : Dialect) (found : Value) : Option String :=
  match dialect, found with
  | .toml, .int n =>
    if isSigned 128 n || isUnsigned 128 n then none else some "integer number overflowed"
  | .toml, .map [(key, .null)] =>
    if key = Toml.hugeFloatKey then some "floating-point number overflowed" else none
  | _, _ => none

def Fault.message (dialect : Dialect) : Fault → String
  | wrongType found expected =>
    (overflow? dialect found).getD
      ("invalid type: " ++ describe dialect found ++ ", expected " ++ expected)
  | wrongValue found expected =>
    (overflow? dialect found).getD
      ("invalid value: " ++ describe dialect found ++ ", expected " ++ expected)
  | bareVariant expected => "invalid type: unit variant, expected " ++ expected
  | wrongLength length expected =>
    "invalid length " ++ String.ofList (digits length) ++ ", expected " ++ expected
  | missingField key => "missing field `" ++ key ++ "`"
  | repeatedField key => "duplicate field `" ++ key ++ "`"
  | unknownField key known => "unknown field `" ++ key ++ "`, expected " ++ oneOf known
  | unknownVariant name known => "unknown variant `" ++ name ++ "`, expected " ++ oneOf known
  | noAlternative type => "data did not match any variant of untagged enum " ++ type
  | notSingleKey => "invalid value: map, expected map with a single key"
  | valueExpected => "expected value"
  | trailingCharacters => "trailing characters"
  | notStringOrTable => "wanted string or table"
  | notOneElement several =>
    if several then "wanted exactly 1 element, more than 1 element"
    else "wanted exactly 1 element, found 0 elements"
  | notEmpty kind => "expected empty " ++ kind
  | notTable found => "expected table, found " ++ tomlKind found

end ServiceContract.Codec
