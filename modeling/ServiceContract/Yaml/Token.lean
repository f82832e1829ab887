import ServiceContract.Yaml.Style

/-!
# YAML tokens

The pieces a YAML text is made of, and the place in the text that reading has come to.
-/

namespace ServiceContract.Yaml

inductive Token where
  | version (major minor : Nat)
  | tagDirective (handle beginning : List Char)
  | documentStart
  | documentEnd
  | streamEnd
  | blockSequenceStart
  | blockMappingStart
  | blockEnd
  | flowSequenceStart
  | flowSequenceEnd
  | flowMappingStart
  | flowMappingEnd
  | blockEntry
  | flowEntry
  | key
  | value
  | alias (name : List Char)
  | anchor (name : List Char)
  | tag (handle rest : List Char)
  | scalar (isPlain : Bool) (text : List Char)
deriving DecidableEq

/-- The rest of a text, and how many characters, lines and columns lie before it. -/
structure Cursor where
  rest : List Char
  index : Nat
  line : Nat
  column : Nat

/-- Space or tab. -/
def isBlankChar (c : Char) : Bool := c = ' ' || c = '\t'

/-- Letters, digits, underscore and hyphen. -/
def isWordChar (c : Char) : Bool := c.isAlphanum || c = '_' || c = '-'

/-- The break that a line end stands for: the two separators stand for themselves, all others for a
new line. -/
def breakChar (c : Char) : Char := if c.toNat = 0x2028 || c.toNat = 0x2029 then c else '\n'

namespace Cursor

/-- The character some places ahead. -/
def peek (c : Cursor) (ahead : Nat) : Option Char := c.rest[ahead]?

/-- Whether a character stands some places ahead. -/
def looksAt (c : Cursor) (ahead : Nat) (x : Char) : Bool := c.peek ahead == some x

/-- Whether white space, a line end or the end stands some places ahead. -/
def endsAt (c : Cursor) (ahead : Nat) : Bool := isBlankOrEnd (c.peek ahead)

/-- Passes characters within a line. -/
def skip (c : Cursor) (n : Nat) : Cursor :=
  ⟨c.rest.drop n, c.index + n, c.line, c.column + n⟩

/-- Passes a line end; a carriage return and a line feed are one. -/
def skipLine (c : Cursor) : Cursor :=
  match c.rest with
  | '\r' :: '\n' :: rest => ⟨rest, c.index + 2, c.line + 1, 0⟩
  | _ :: rest => ⟨rest, c.index + 1, c.line + 1, 0⟩
  | [] => c

/-- The characters with a property, and the place behind them. -/
def takeWhile (p : Char → Bool) (c : Cursor) : List Char × Cursor :=
  let taken := c.rest.takeWhile p
  (taken, c.skip taken.length)

/-- The place behind the characters with a property. -/
def skipWhile (p : Char → Bool) (c : Cursor) : Cursor := (c.takeWhile p).2

/-- Whether the mark of a document's start or end stands at the beginning of this line. -/
def atDocumentMark (c : Cursor) : Bool :=
  c.column = 0 && ("---".toList.isPrefixOf c.rest || "...".toList.isPrefixOf c.rest) && c.endsAt 3

/-- Passes the rest of a line that may only hold a comment, and the line's end. -/
def skipRestOfLine (c : Cursor) : Option Cursor :=
  let c := c.skipWhile isBlankChar
  let c := if c.looksAt 0 '#' then c.skipWhile (!isBreak ·) else c
  match c.peek 0 with
  | none => some c
  | some x => if isBreak x then some c.skipLine else none

end Cursor

end ServiceContract.Yaml
