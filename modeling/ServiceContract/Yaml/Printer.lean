import ServiceContract.Yaml.Style
import ServiceContract.Json.Printer

/-!
# Writing YAML

Block style with an indentation of two. A collection inside a map starts on a line of its own, a
sequence there at the map's own column; inside a sequence it starts on the line of the dash.
-/

namespace ServiceContract.Yaml

open Numeral

/-- Blanks up to a column. -/
def pad (column : Nat) : List Char := List.replicate column ' '

/-- A character inside double quotes. -/
def doubleQuotedChar (c : Char) : List Char :=
  let n := c.toNat
  if isPrintable c && !isBreak c && c ≠ '"' && c ≠ '\\' then [c]
  else if n = 0 then ['\\', '0']
  else if n = 7 then ['\\', 'a']
  else if n = 8 then ['\\', 'b']
  else if n = 9 then ['\\', 't']
  else if n = 10 then ['\\', 'n']
  else if n = 11 then ['\\', 'v']
  else if n = 12 then ['\\', 'f']
  else if n = 13 then ['\\', 'r']
  else if n = 27 then ['\\', 'e']
  else if n = 34 then ['\\', '"']
  else if n = 92 then ['\\', '\\']
  else if n = 0x85 then ['\\', 'N']
  else if n = 0xA0 then ['\\', '_']
  else if n = 0x2028 then ['\\', 'L']
  else if n = 0x2029 then ['\\', 'P']
  else if n ≤ 0xFF then '\\' :: 'x' :: Json.hexText true 2 n
  else if n ≤ 0xFFFF then '\\' :: 'u' :: Json.hexText true 4 n
  else '\\' :: 'U' :: Json.hexText true 8 n

/-- A text whose lines go on at a column: what follows a line break is moved there. `atStart`
says that a break has just been written. -/
def continued (column : Nat) (each : Char → List Char) : (atStart : Bool) → List Char → List Char
  | _, [] => []
  | atStart, c :: rest =>
    if isBreak c then c :: continued column each true rest
    else (if atStart then pad column else []) ++ each c ++ continued column each false rest

/-- The inside of single quotes: a quote is doubled. -/
def singleQuotedChar (c : Char) : List Char := if c = '\'' then ['\'', '\''] else [c]

/-- Whether the last character is a line break. -/
def endsInBreak (cs : List Char) : Bool := cs.getLast?.any isBreak

def singleQuoted (column : Nat) (cs : List Char) : List Char :=
  '\'' :: (continued column singleQuotedChar false cs ++
    (if endsInBreak cs then pad column else []) ++ ['\''])

def doubleQuoted (cs : List Char) : List Char := '"' :: (cs.flatMap doubleQuotedChar ++ ['"'])

/-- The marks after the bar of a literal: the indentation when the text starts with a blank, and
what becomes of the breaks at its end. -/
def literalMarks (cs : List Char) : List Char :=
  let startsBlank := cs.head?.any fun c => c = ' ' || isBreak c
  let chomp :=
    if !endsInBreak cs then ['-']
    else if cs.length = 1 || endsInBreak cs.dropLast then ['+']
    else []
  (if startsBlank then ['2'] else []) ++ chomp

/-- A literal text, from its bar on, up to the line break after its last line. -/
def literal (column : Nat) (cs : List Char) : List Char :=
  '|' :: (literalMarks cs ++ '\n' :: (continued column (fun c => [c]) true cs ++
    (if endsInBreak cs then [] else ['\n'])))

/-- A string as the rest of a line, up to and with the line break. -/
def stringLine (column : Nat) (cs : List Char) : List Char :=
  match styleOf cs with
  | .plain => cs ++ ['\n']
  | .singleQuoted => singleQuoted column cs ++ ['\n']
  | .doubleQuoted => doubleQuoted cs ++ ['\n']
  | .literal => literal column cs

/-- A value that is no collection, or an empty one, as the rest of a line. -/
def scalarLine (column : Nat) : Value → List Char
  | .null => "null\n".toList
  | .bool true => "true\n".toList
  | .bool false => "false\n".toList
  | .int n => intText n ++ ['\n']
  | .float x => x.yamlText ++ ['\n']
  | .text s => stringLine column s.toList
  | .list _ => "[]\n".toList
  | .map _ => "{}\n".toList

/-- Whether a key stands before its colon on one line: it has no line break and at most 128
bytes. -/
def isSimpleKey (key : String) : Bool := !key.toList.any isBreak && key.utf8ByteSize ≤ 128

/-- A key before its colon. -/
def simpleKey (column : Nat) (cs : List Char) : List Char :=
  match styleOf cs with
  | .plain => cs
  | .singleQuoted => singleQuoted column cs
  | .doubleQuoted | .literal => doubleQuoted cs

/-- A key with its mark: `key:`, or on a line of its own `? key`, and `:`. -/
def keyText (column : Nat) (key : String) : List Char :=
  if isSimpleKey key then simpleKey (column + 2) key.toList ++ [':']
  else '?' :: ' ' :: (stringLine (column + 2) key.toList ++ pad column ++ [':'])

mutual

/-- A value that follows a dash or a lone colon at `column`: a collection starts on that line. -/
def afterMark (column : Nat) : Value → List Char
  | .list (v :: rest) => ' ' :: sequence (column + 2) (v :: rest)
  | .map (e :: rest) => ' ' :: mapping (column + 2) (e :: rest)
  | .list [] => ' ' :: scalarLine (column + 2) (.list [])
  | .map [] => ' ' :: scalarLine (column + 2) (.map [])
  | .null => ' ' :: scalarLine (column + 2) .null
  | .bool b => ' ' :: scalarLine (column + 2) (.bool b)
  | .int n => ' ' :: scalarLine (column + 2) (.int n)
  | .float x => ' ' :: scalarLine (column + 2) (.float x)
  | .text s => ' ' :: scalarLine (column + 2) (.text s)
termination_by structural v => v

/-- A value that follows a simple key at `column`: a collection starts on the next line. -/
def afterKey (column : Nat) : Value → List Char
  | .list (v :: rest) => '\n' :: (pad column ++ sequence column (v :: rest))
  | .map (e :: rest) => '\n' :: (pad (column + 2) ++ mapping (column + 2) (e :: rest))
  | .list [] => ' ' :: scalarLine (column + 2) (.list [])
  | .map [] => ' ' :: scalarLine (column + 2) (.map [])
  | .null => ' ' :: scalarLine (column + 2) .null
  | .bool b => ' ' :: scalarLine (column + 2) (.bool b)
  | .int n => ' ' :: scalarLine (column + 2) (.int n)
  | .float x => ' ' :: scalarLine (column + 2) (.float x)
  | .text s => ' ' :: scalarLine (column + 2) (.text s)
termination_by structural v => v

/-- The items of a sequence at `column`; the first starts where the text stands. -/
def sequence (column : Nat) : List Value → List Char
  | [] => []
  | [v] => '-' :: afterMark column v
  | v :: w :: rest => '-' :: (afterMark column v ++ pad column ++ sequence column (w :: rest))
termination_by structural v => v

/-- The members of a map at `column`; the first starts where the text stands. -/
def mapping (column : Nat) : List (String × Value) → List Char
  | [] => []
  | [(k, v)] =>
    keyText column k ++ (if isSimpleKey k then afterKey column v else afterMark column v)
  | (k, v) :: e :: rest =>
    keyText column k ++ (if isSimpleKey k then afterKey column v else afterMark column v) ++
      pad column ++ mapping column (e :: rest)
termination_by structural v => v

end

def documentText : Value → List Char
  | .list (v :: rest) => sequence 0 (v :: rest)
  | .map (e :: rest) => mapping 0 (e :: rest)
  | v => scalarLine 2 v

def render (v : Value) : String := String.ofList (documentText v)

end ServiceContract.Yaml
