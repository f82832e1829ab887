import ServiceContract.Yaml.Token

/-!
# Scalars in a text

Plain, quoted and block scalars. Each is read by a machine that takes one character a step; a line
break between two words is folded into a space, and further breaks stay.
-/

namespace ServiceContract.Yaml

/-- What has been read of a scalar whose lines are folded: the text, the blanks after it, and the
line breaks after it, all in reverse. The first break is held apart. -/
structure Folding where
  text : List Char
  blanks : List Char
  leading : Option Char
  trailing : List Char
  /-- Whether a line end has been passed since the last word. -/
  broken : Bool

namespace Folding

def empty : Folding := ⟨[], [], none, [], false⟩

/-- Takes up a space or tab between words; at the start of a line it does not count. -/
def blank (f : Folding) (c : Char) : Folding :=
  if f.broken then f else { f with blanks := c :: f.blanks }

/-- Takes up a line end. -/
def lineEnd (f : Folding) (c : Char) : Folding :=
  if f.broken then { f with trailing := breakChar c :: f.trailing }
  else { f with blanks := [], leading := some (breakChar c), broken := true }

/-- Joins what lies between two words to the text. -/
def joined (f : Folding) : Folding :=
  if f.broken then
    let text := match f.leading with
      | some '\n' => if f.trailing.isEmpty then ' ' :: f.text else f.trailing ++ f.text
      | some c => f.trailing ++ c :: f.text
      | none => f.trailing ++ f.text
    ⟨text, [], none, [], false⟩
  else ⟨f.blanks ++ f.text, [], none, [], false⟩

/-- Takes up a character of a word. -/
def push (f : Folding) (c : Char) : Folding :=
  let f := f.joined
  { f with text := c :: f.text }

end Folding

/-- Reads a plain scalar. `inWord` says that the character before belongs to a word; `indent` is the
column that further lines need in block context. -/
def plainScalar (inFlow : Bool) (indent : Nat) : (rest : List Char) → (index line column : Nat) →
    (inWord : Bool) → Folding → Option (Folding × Cursor)
  | [], index, line, column, _, f => some (f, ⟨[], index, line, column⟩)
  | c :: rest, index, line, column, inWord, f =>
    let here : Cursor := ⟨c :: rest, index, line, column⟩
    if isBlankChar c then
      if f.broken && column < indent && c = '\t' then none
      else plainScalar inFlow indent rest (index + 1) line (column + 1) false (f.blank c)
    else if isBreak c then
      match c, rest with
      | '\r', '\n' :: rest =>
        plainScalar inFlow indent rest (index + 2) (line + 1) 0 false (f.lineEnd c)
      | _, rest => plainScalar inFlow indent rest (index + 1) (line + 1) 0 false (f.lineEnd c)
    else if !inWord && ((!inFlow && column < indent) || here.atDocumentMark || c = '#') then
      some (f, here)
    else if inFlow && c = ':' && rest.head?.any (· ∈ [',', '?', '[', ']', '{', '}']) then none
    else if (c = ':' && isBlankOrEnd rest.head?) ||
        (inFlow && c ∈ [',', '[', ']', '{', '}']) then some (f, here)
    else plainScalar inFlow indent rest (index + 1) line (column + 1) true (f.push c)

/-- Reads a single quoted scalar from behind its quote. -/
def singleQuotedScalar : (rest : List Char) → (index line column : Nat) → (inWord : Bool) →
    Folding → Option (Folding × Cursor)
  | [], _, _, _, _, _ => none
  | '\'' :: '\'' :: rest, index, line, column, _, f =>
    singleQuotedScalar rest (index + 2) line (column + 2) true (f.push '\'')
  | '\r' :: '\n' :: rest, index, line, _, _, f =>
    singleQuotedScalar rest (index + 2) (line + 1) 0 false (f.lineEnd '\n')
  | c :: rest, index, line, column, inWord, f =>
    let here : Cursor := ⟨c :: rest, index, line, column⟩
    if !inWord && here.atDocumentMark then none
    else if c = '\'' then some (f.joined, here.skip 1)
    else if isBlankChar c then
      singleQuotedScalar rest (index + 1) line (column + 1) false (f.blank c)
    else if isBreak c then
      singleQuotedScalar rest (index + 1) (line + 1) 0 false (f.lineEnd c)
    else singleQuotedScalar rest (index + 1) line (column + 1) true (f.push c)

/-- The character of a one-letter escape. -/
def escaped? (c : Char) : Option Char :=
  match c with
  | '0' => some (Char.ofNat 0)
  | 'a' => some (Char.ofNat 7)
  | 'b' => some (Char.ofNat 8)
  | 't' | '\t' => some '\t'
  | 'n' => some '\n'
  | 'v' => some (Char.ofNat 11)
  | 'f' => some (Char.ofNat 12)
  | 'r' => some '\r'
  | 'e' => some (Char.ofNat 27)
  | ' ' => some ' '
  | '"' => some '"'
  | '/' => some '/'
  | '\\' => some '\\'
  | 'N' => some (Char.ofNat 0x85)
  | '_' => some (Char.ofNat 0xA0)
  | 'L' => some (Char.ofNat 0x2028)
  | 'P' => some (Char.ofNat 0x2029)
  | _ => none

/-- How many hexadecimal digits an escape has. -/
def escapeWidth? (c : Char) : Option Nat :=
  match c with
  | 'x' => some 2
  | 'u' => some 4
  | 'U' => some 8
  | _ => none

/-- The number of a hexadecimal escape that is still being read. -/
structure Escape where
  left : Nat
  value : Nat

/-- Reads a double quoted scalar from behind its quote. -/
def doubleQuotedScalar : (rest : List Char) → (index line column : Nat) → (inWord : Bool) →
    Option Escape → Folding → Option (Folding × Cursor)
  | [], _, _, _, _, _, _ => none
  | c :: rest, index, line, column, _, some e, f =>
    match Json.hexValue? c with
    | none => none
    | some d =>
      let value := 16 * e.value + d
      if 1 < e.left then
        doubleQuotedScalar rest (index + 1) line (column + 1) true (some ⟨e.left - 1, value⟩) f
      else if (0xD800 ≤ value && value ≤ 0xDFFF) || 0x10FFFF < value then none
      else
        doubleQuotedScalar rest (index + 1) line (column + 1) true none (f.push (Char.ofNat value))
  | '\\' :: '\r' :: '\n' :: rest, index, line, _, _, none, f =>
    doubleQuotedScalar rest (index + 3) (line + 1) 0 false none { f.joined with broken := true }
  | '\\' :: c :: rest, index, line, column, _, none, f =>
    if isBreak c then
      doubleQuotedScalar rest (index + 2) (line + 1) 0 false none { f.joined with broken := true }
    else match escapeWidth? c, escaped? c with
      | some width, _ =>
        doubleQuotedScalar rest (index + 2) line (column + 2) true (some ⟨width, 0⟩) f
      | none, some d => doubleQuotedScalar rest (index + 2) line (column + 2) true none (f.push d)
      | none, none => none
  | '\r' :: '\n' :: rest, index, line, _, _, none, f =>
    doubleQuotedScalar rest (index + 2) (line + 1) 0 false none (f.lineEnd '\n')
  | c :: rest, index, line, column, inWord, none, f =>
    let here : Cursor := ⟨c :: rest, index, line, column⟩
    if !inWord && here.atDocumentMark then none
    else if c = '"' then some (f.joined, here.skip 1)
    else if isBlankChar c then
      doubleQuotedScalar rest (index + 1) line (column + 1) false none (f.blank c)
    else if isBreak c then
      doubleQuotedScalar rest (index + 1) (line + 1) 0 false none (f.lineEnd c)
    else doubleQuotedScalar rest (index + 1) line (column + 1) true none (f.push c)

/-- What becomes of the line breaks at the end of a block scalar. -/
inductive Chomping where
  | strip
  | clip
  | keep
deriving DecidableEq

/-- What has been read of a block scalar, in reverse. -/
structure Block where
  text : List Char
  leading : List Char
  trailing : List Char
  /-- Whether the last line began with a blank. -/
  leadingBlank : Bool
  /-- The column of the text, once it is known. -/
  indent : Option Nat
  /-- The largest column of an empty line before it is known. -/
  widest : Nat
  /-- Whether a line of text is being read. -/
  inLine : Bool

namespace Block

/-- Starts a line of text. A single break between two lines that do not begin with a blank is folded
unless the scalar is literal. -/
def startLine (isLiteral : Bool) (b : Block) (c : Char) : Block :=
  let blank := isBlankChar c
  let joint :=
    if !isLiteral && b.leading.head? == some '\n' && !b.leadingBlank && !blank then
      if b.trailing.isEmpty then [' '] else b.trailing
    else b.trailing ++ b.leading
  { b with text := c :: (joint ++ b.text), leading := [], trailing := [], leadingBlank := blank,
           inLine := true }

def finish (chomping : Chomping) (b : Block) : List Char :=
  (match chomping with
    | .strip => b.text
    | .clip => b.leading ++ b.text
    | .keep => b.trailing ++ b.leading ++ b.text).reverse

end Block

/-- Reads the lines of a block scalar. `least` is the least column its text can have. -/
def blockLines (isLiteral : Bool) (least : Nat) : (rest : List Char) →
    (index line column : Nat) → Block → Option (Block × Cursor)
  | [], index, line, column, b => some (b, ⟨[], index, line, column⟩)
  | c :: rest, index, line, column, b =>
    let here : Cursor := ⟨c :: rest, index, line, column⟩
    if b.inLine then
      if isBreak c then
        let b := { b with leading := [breakChar c], inLine := false }
        match c, rest with
        | '\r', '\n' :: rest => blockLines isLiteral least rest (index + 2) (line + 1) 0 b
        | _, rest => blockLines isLiteral least rest (index + 1) (line + 1) 0 b
      else
        blockLines isLiteral least rest (index + 1) line (column + 1) { b with text := c :: b.text }
    else
      let within := match b.indent with
        | none => true
        | some n => column < n
      if within && c = ' ' then blockLines isLiteral least rest (index + 1) line (column + 1) b
      else if within && c = '\t' then none
      else
        let b := { b with widest := max b.widest column }
        if isBreak c then
          let b := { b with trailing := breakChar c :: b.trailing }
          match c, rest with
          | '\r', '\n' :: rest => blockLines isLiteral least rest (index + 2) (line + 1) 0 b
          | _, rest => blockLines isLiteral least rest (index + 1) (line + 1) 0 b
        else
          let indent := b.indent.getD (max b.widest least)
          if column = indent then
            blockLines isLiteral least rest (index + 1) line (column + 1)
              ({ b with indent := some indent }.startLine isLiteral c)
          else some (b, here)

/-- Reads the marks behind the bar or the angle of a block scalar. -/
def blockMarks (c : Cursor) : Option (Chomping × Option Nat × Cursor) :=
  let chomping? (c : Cursor) : Option Chomping :=
    if c.looksAt 0 '+' then some .keep else if c.looksAt 0 '-' then some .strip else none
  let increment? (c : Cursor) : Option Nat :=
    match c.peek 0 with
    | some d => if d.isDigit then some (d.toNat - 48) else none
    | none => none
  let (chomping, increment, c) : Option Chomping × Option Nat × Cursor :=
    match chomping? c with
    | some m => match increment? (c.skip 1) with
      | some n => (some m, some n, c.skip 2)
      | none => (some m, none, c.skip 1)
    | none => match increment? c with
      | some n => match chomping? (c.skip 1) with
        | some m => (some m, some n, c.skip 2)
        | none => (none, some n, c.skip 1)
      | none => (none, none, c)
  if increment = some 0 then none else some (chomping.getD .clip, increment, c)

/-- Reads a block scalar from behind its bar or angle. `parent` is the column of the collection it
stands in, if there is one. -/
def blockScalar (isLiteral : Bool) (parent : Option Nat) (c : Cursor) :
    Option (List Char × Cursor) := do
  let (chomping, increment, c) ← blockMarks c
  let c ← c.skipRestOfLine
  let indent := increment.map fun n => parent.getD 0 + n
  let least := match parent with
    | some n => n + 1
    | none => 1
  let (b, c) ← blockLines isLiteral least c.rest c.index c.line c.column
    ⟨[], [], [], false, indent, 0, false⟩
  return (b.finish chomping, c)

end ServiceContract.Yaml
