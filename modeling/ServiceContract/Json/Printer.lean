import ServiceContract.Value

/-!
# JSON text

Two forms of one value: compact, and indented by two spaces. Both write a string with the same
escapes, so they differ in white space only.
-/

namespace ServiceContract.Json

open Numeral

/-- The digit of a number below sixteen. -/
def hexDigit (upper : Bool) (n : Nat) : Char :=
  if n < 10 then Char.ofNat (48 + n) else Char.ofNat ((if upper then 55 else 87) + n)

/-- A number in `width` hexadecimal digits. -/
def hexText (upper : Bool) : Nat → Nat → List Char
  | 0, _ => []
  | width + 1, n => hexText upper width (n / 16) ++ [hexDigit upper (n % 16)]

/-- A character inside a JSON string: quote, backslash and the controls are escaped. -/
def escape (c : Char) : List Char :=
  if c = '"' then ['\\', '"']
  else if c = '\\' then ['\\', '\\']
  else if c = '\n' then ['\\', 'n']
  else if c = '\r' then ['\\', 'r']
  else if c = '\t' then ['\\', 't']
  else if c = Char.ofNat 8 then ['\\', 'b']
  else if c = Char.ofNat 12 then ['\\', 'f']
  else if c.toNat < 32 then '\\' :: 'u' :: hexText false 4 c.toNat
  else [c]

def quoted (s : String) : List Char := '"' :: (s.toList.flatMap escape ++ ['"'])

/-- The text of a value that is no collection; empty for a collection. -/
def scalarText : Value → List Char
  | .null => "null".toList
  | .bool true => "true".toList
  | .bool false => "false".toList
  | .int n => intText n
  | .float x => x.jsonText
  | .text s => quoted s
  | .list _ | .map _ => []

mutual

/-- A value without white space. -/
def compactText : Value → List Char
  | .list items => '[' :: (compactItems items ++ [']'])
  | .map entries => '{' :: (compactEntries entries ++ ['}'])
  | .null => scalarText .null
  | .bool b => scalarText (.bool b)
  | .int n => scalarText (.int n)
  | .float x => scalarText (.float x)
  | .text s => scalarText (.text s)
termination_by structural v => v

/-- Items with commas between them. -/
def compactItems : List Value → List Char
  | [] => []
  | [v] => compactText v
  | v :: w :: rest => compactText v ++ ',' :: compactItems (w :: rest)
termination_by structural v => v

/-- Members with commas between them. -/
def compactEntries : List (String × Value) → List Char
  | [] => []
  | [(k, v)] => quoted k ++ ':' :: compactText v
  | (k, v) :: e :: rest => quoted k ++ ':' :: (compactText v ++ ',' :: compactEntries (e :: rest))
termination_by structural v => v

end

def newLine (depth : Nat) : List Char := '\n' :: List.replicate (2 * depth) ' '

mutual

/-- A value with one item or member a line; an empty collection stays on its line. -/
def indentedText (depth : Nat) : Value → List Char
  | .list [] => ['[', ']']
  | .list (v :: rest) =>
    '[' :: (indentedItems (depth + 1) (v :: rest) ++ newLine depth ++ [']'])
  | .map [] => ['{', '}']
  | .map (e :: rest) =>
    '{' :: (indentedEntries (depth + 1) (e :: rest) ++ newLine depth ++ ['}'])
  | .null => scalarText .null
  | .bool b => scalarText (.bool b)
  | .int n => scalarText (.int n)
  | .float x => scalarText (.float x)
  | .text s => scalarText (.text s)
termination_by structural v => v

/-- Each item on its line, with a comma after all but the last. -/
def indentedItems (depth : Nat) : List Value → List Char
  | [] => []
  | [v] => newLine depth ++ indentedText depth v
  | v :: w :: rest =>
    newLine depth ++ indentedText depth v ++ ',' :: indentedItems depth (w :: rest)
termination_by structural v => v

/-- Each member on its line, with a comma after all but the last. -/
def indentedEntries (depth : Nat) : List (String × Value) → List Char
  | [] => []
  | [(k, v)] => newLine depth ++ quoted k ++ ':' :: ' ' :: indentedText depth v
  | (k, v) :: e :: rest =>
    newLine depth ++ quoted k ++ ':' :: ' ' :: (indentedText depth v ++
      ',' :: indentedEntries depth (e :: rest))
termination_by structural v => v

end

def compact (v : Value) : String := String.ofList (compactText v)

def indented (v : Value) : String := String.ofList (indentedText 0 v)

end ServiceContract.Json
