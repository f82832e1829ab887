import ServiceContract.Yaml.Token.Scalar

/-!
# From text to tokens

Indentation becomes tokens: the start and the end of a block collection are where its column begins
and where a smaller one follows. A key without a mark is known only by the colon behind it, so its
token is put in front of what has been read since.
-/

namespace ServiceContract.Yaml

/-- Where a key without a mark may have begun. -/
structure SimpleKey where
  /-- How many tokens lie before it. -/
  position : Nat
  /-- Whether nothing but a key can stand there. -/
  required : Bool
  index : Nat
  line : Nat
  column : Nat

/-- The state of reading. A column is given only inside a block collection. -/
structure Lexer where
  cursor : Cursor
  /-- The tokens so far, in reverse. -/
  tokens : List Token
  count : Nat
  /-- The column of the innermost block collection, and of those around it. -/
  indent : Option Nat
  outer : List (Option Nat)
  /-- The possible key of the innermost collection, and of those around it in flow context. -/
  key : Option SimpleKey
  outerKeys : List (Option SimpleKey)
  keyAllowed : Bool

namespace Lexer

/-- Whether a flow collection is open. -/
def inFlow (l : Lexer) : Bool := !l.outerKeys.isEmpty

def emit (l : Lexer) (t : Token) : Lexer := { l with tokens := t :: l.tokens, count := l.count + 1 }

/-- Adds a token behind the first `position` ones. -/
def insertAt (l : Lexer) (position : Nat) (t : Token) : Lexer :=
  { l with tokens := l.tokens.insertIdx (l.count - position) t, count := l.count + 1 }

/-- Whether a column lies to the right of the innermost block collection. -/
def isDeeper (l : Lexer) (column : Nat) : Bool :=
  match l.indent with
  | none => true
  | some n => n < column

/-- Opens a block collection if the column lies to the right of the innermost one. -/
def rollIndent (l : Lexer) (column : Nat) (position : Option Nat) (t : Token) : Lexer :=
  if l.inFlow || !l.isDeeper column then l
  else
    let l := { l with indent := some column, outer := l.indent :: l.outer }
    match position with
    | none => l.emit t
    | some p => l.insertAt p t

/-- Closes the block collections, from the innermost outwards, that lie to the right of a column;
all of them when there is none. -/
def closeBlocks (column : Option Nat) : (indent : Option Nat) → (outer : List (Option Nat)) →
    (tokens : List Token) → (count : Nat) →
    Option Nat × List (Option Nat) × List Token × Nat
  | none, outer, tokens, count => (none, outer, tokens, count)
  | some n, outer, tokens, count =>
    if column.any (n ≤ ·) then (some n, outer, tokens, count)
    else match outer with
      | [] => (none, [], .blockEnd :: tokens, count + 1)
      | m :: outer => closeBlocks column m outer (.blockEnd :: tokens) (count + 1)
termination_by structural _ outer => outer

/-- Closes the block collections to the right of a column. -/
def unrollIndent (l : Lexer) (column : Option Nat) : Lexer :=
  if l.inFlow then l
  else
    let (indent, outer, tokens, count) := closeBlocks column l.indent l.outer l.tokens l.count
    { l with indent := indent, outer := outer, tokens := tokens, count := count }

/-- Gives up the possible key; one that is required is a fault. -/
def dropKey (l : Lexer) : Option Lexer :=
  match l.key with
  | some k => if k.required then none else some { l with key := none }
  | none => some l

/-- Notes that a key may begin here. -/
def saveKey (l : Lexer) : Option Lexer :=
  if l.keyAllowed then do
    let required := !l.inFlow && l.indent == some l.cursor.column
    let l ← l.dropKey
    let c := l.cursor
    return { l with key := some ⟨l.count, required, c.index, c.line, c.column⟩ }
  else some l

/-- Whether a key that began there can no longer end here: it has one line and at most 1024
characters. -/
def isStale (c : Cursor) (k : SimpleKey) : Bool := k.line < c.line || k.index + 1024 < c.index

/-- Gives up a key that has become too long. -/
def dropStale (c : Cursor) : Option SimpleKey → Option (Option SimpleKey)
  | none => some none
  | some k =>
    if isStale c k then (if k.required then none else some none) else some (some k)

/-- Gives up all keys that have become too long. -/
def dropStaleKeys (l : Lexer) : Option Lexer := do
  return { l with key := ← dropStale l.cursor l.key,
                  outerKeys := ← l.outerKeys.mapM (dropStale l.cursor) }

/-- Passes blanks, comments and line ends. A tab does not count where a key may begin. In block
context a key may begin on a new line. -/
def passBlanks (inFlow : Bool) : (rest : List Char) → (index line column : Nat) →
    (inComment keyAllowed : Bool) → Cursor × Bool
  | [], index, line, column, _, keyAllowed => (⟨[], index, line, column⟩, keyAllowed)
  | '\r' :: '\n' :: rest, index, line, _, _, keyAllowed =>
    passBlanks inFlow rest (index + 2) (line + 1) 0 false (keyAllowed || !inFlow)
  | c :: rest, index, line, column, inComment, keyAllowed =>
    if isBreak c then
      passBlanks inFlow rest (index + 1) (line + 1) 0 false (keyAllowed || !inFlow)
    else if inComment || c = '#' then
      passBlanks inFlow rest (index + 1) line (column + 1) true keyAllowed
    else if c = ' ' || (c = '\t' && (inFlow || !keyAllowed)) then
      passBlanks inFlow rest (index + 1) line (column + 1) false keyAllowed
    else (⟨c :: rest, index, line, column⟩, keyAllowed)

/-- Passes characters and adds a token. -/
def take (l : Lexer) (n : Nat) (t : Token) : Lexer :=
  { l with cursor := l.cursor.skip n }.emit t

/-- The start of a flow collection. -/
def openFlow (l : Lexer) (t : Token) : Option Lexer := do
  let l ← l.saveKey
  return { l with outerKeys := l.key :: l.outerKeys, key := none, keyAllowed := true }.take 1 t

/-- The end of a flow collection. -/
def closeFlow (l : Lexer) (t : Token) : Option Lexer := do
  let l ← l.dropKey
  let l := match l.outerKeys with
    | k :: rest => { l with key := k, outerKeys := rest }
    | [] => l
  return { l with keyAllowed := false }.take 1 t

/-- The dash before an item. -/
def blockEntry (l : Lexer) : Option Lexer := do
  if !l.inFlow && !l.keyAllowed then none
  let l ← (l.rollIndent l.cursor.column none .blockSequenceStart).dropKey
  return { l with keyAllowed := true }.take 1 .blockEntry

def markedKey (l : Lexer) : Option Lexer := do
  if !l.inFlow && !l.keyAllowed then none
  let l ← (l.rollIndent l.cursor.column none .blockMappingStart).dropKey
  return { l with keyAllowed := !l.inFlow }.take 1 .key

/-- The colon before a value. -/
def colon (l : Lexer) : Option Lexer :=
  match l.key with
  | some k =>
    let l := (l.insertAt k.position .key).rollIndent k.column (some k.position) .blockMappingStart
    some ({ l with key := none, keyAllowed := false }.take 1 .value)
  | none =>
    if !l.inFlow && !l.keyAllowed then none
    else
      let l := l.rollIndent l.cursor.column none .blockMappingStart
      some ({ l with keyAllowed := !l.inFlow }.take 1 .value)

def anchorName (c : Cursor) : Option (List Char × Cursor) :=
  let (name, c) := (c.skip 1).takeWhile isWordChar
  if !name.isEmpty &&
      (c.endsAt 0 || (c.peek 0).any (· ∈ ['?', ':', ',', ']', '}', '%', '@', '\x60'])) then
    some (name, c)
  else none

/-- Characters of a tag; a few more may stand in one between angles. -/
def isTagChar (verbatim : Bool) (c : Char) : Bool :=
  isWordChar c || c ∈ ";/?:@&=+$.%!~*'()".toList || (verbatim && c ∈ [',', '[', ']'])

/-- How many bytes an escaped character has, by its first. -/
def escapedBytes? (byte : Nat) : Option Nat :=
  if byte < 0x80 then some 1
  else if 0xC0 ≤ byte && byte < 0xE0 then some 2
  else if 0xE0 ≤ byte && byte < 0xF0 then some 3
  else if 0xF0 ≤ byte && byte < 0xF8 then some 4
  else none

/-- Replaces the escapes of a tag by the characters they stand for. `left` bytes of a character are
still to come, and `value` is what its bytes make so far. -/
def unescapeTag : List Char → (left value : Nat) → (done : List Char) → Option (List Char)
  | '%' :: a :: b :: rest, left, value, done => do
    let byte := 16 * (← Json.hexValue? a) + (← Json.hexValue? b)
    if left = 0 then
      let width ← escapedBytes? byte
      if width = 1 then unescapeTag rest 0 0 (Char.ofNat byte :: done)
      else unescapeTag rest (width - 1) (byte % Nat.pow 2 (7 - width)) done
    else if 0x80 ≤ byte && byte < 0xC0 then
      let value := 64 * value + byte % 64
      if left = 1 then unescapeTag rest 0 0 (Char.ofNat value :: done)
      else unescapeTag rest (left - 1) value done
    else none
  | [], left, _, done => if left = 0 then some done.reverse else none
  | c :: rest, left, _, done =>
    if left = 0 && c ≠ '%' then unescapeTag rest 0 0 (c :: done) else none

def tagText (verbatim : Bool) (c : Cursor) : Option (List Char × Cursor) := do
  let (text, c) := c.takeWhile (isTagChar verbatim)
  return (← unescapeTag text 0 0 [], c)

/-- The handle at the start of a tag: an exclamation mark, and perhaps a name and another. -/
def tagHandle (c : Cursor) : Option (List Char × Cursor) :=
  if c.looksAt 0 '!' then
    let (name, c) := (c.skip 1).takeWhile isWordChar
    if c.looksAt 0 '!' then some ('!' :: (name ++ ['!']), c.skip 1) else some ('!' :: name, c)
  else none

/-- A tag: between angles, with a handle, or local. -/
def readTag (inFlow : Bool) (c : Cursor) : Option (Token × Cursor) := do
  let (t, c) ← if c.looksAt 1 '<' then do
      let (text, c) ← tagText true (c.skip 2)
      if text.isEmpty || !c.looksAt 0 '>' then none
      pure (Token.tag [] text, c.skip 1)
    else do
      let (handle, c) ← tagHandle c
      if 1 < handle.length && handle.getLast? == some '!' then do
        let (text, c) ← tagText false c
        if text.isEmpty then none
        pure (Token.tag handle text, c)
      else do
        let (text, c) ← tagText false c
        let text := handle.drop 1 ++ text
        pure (if text.isEmpty then Token.tag [] ['!'] else Token.tag ['!'] text, c)
  if (inFlow && c.looksAt 0 ',') || c.endsAt 0 then some (t, c) else none

def versionNumber (c : Cursor) : Option (Nat × Cursor) :=
  let (ds, c) := c.takeWhile Char.isDigit
  if ds.isEmpty || 9 < ds.length then none else some (Json.ofDigits ds, c)

/-- A directive, from its percent sign to the end of its line. -/
def directive (c : Cursor) : Option (Token × Cursor) := do
  let (name, c) := (c.skip 1).takeWhile isWordChar
  if name.isEmpty || !c.endsAt 0 then none
  let c := c.skipWhile isBlankChar
  let (t, c) ← if name = "YAML".toList then do
      let (major, c) ← versionNumber c
      if !c.looksAt 0 '.' then none
      let (minor, c) ← versionNumber (c.skip 1)
      pure (Token.version major minor, c)
    else if name = "TAG".toList then do
      let (handle, c) ← tagHandle c
      if handle ≠ ['!'] && (handle.length < 2 || handle.getLast? != some '!') then none
      if !(c.peek 0).any isBlankChar then none
      let (beginning, c) ← tagText true (c.skipWhile isBlankChar)
      if beginning.isEmpty || !c.endsAt 0 then none
      pure (Token.tagDirective handle beginning, c)
    else none
  return (t, ← c.skipRestOfLine)

/-- Characters that cannot begin a plain scalar. -/
def isMark (c : Char) : Bool :=
  c ∈ ['-', '?', ':', ',', '[', ']', '{', '}', '#', '&', '*', '!', '|', '>', '\'', '"', '%', '@',
    '\x60']

/-- Whether a plain scalar may begin here. -/
def startsPlain (inFlow : Bool) (c : Cursor) : Bool :=
  match c.peek 0 with
  | none => false
  | some x =>
    (!isBlankOrEnd (some x) && !isMark x) || (x = '-' && !(c.peek 1).any isBlankChar) ||
      (!inFlow && (x = '?' || x = ':') && !c.endsAt 1)

/-- Reads a scalar that may be a key. -/
def scalar (l : Lexer) (isPlain : Bool) (read : Cursor → Option (Folding × Cursor)) :
    Option Lexer := do
  let l ← l.saveKey
  let (f, c) ← read l.cursor
  let l := { l with cursor := c, keyAllowed := isPlain && f.broken }
  return l.emit (.scalar isPlain f.text.reverse)

/-- Reads a block scalar. -/
def block (l : Lexer) (isLiteral : Bool) : Option Lexer := do
  let l ← l.dropKey
  let (text, c) ← blockScalar isLiteral l.indent (l.cursor.skip 1)
  return { l with cursor := c, keyAllowed := true }.emit (.scalar false text)

/-- The mark of a document's start or end, and everything before it that is still open. -/
def documentMark (l : Lexer) (t : Token) : Option Lexer := do
  let l ← (l.unrollIndent none).dropKey
  return { l with keyAllowed := false }.take 3 t

/-- Reads the tokens that begin at the next character that is no blank. The answer says whether the
text goes on. -/
def next (l : Lexer) : Option (Lexer × Bool) := do
  let (c, keyAllowed) :=
    passBlanks l.inFlow l.cursor.rest l.cursor.index l.cursor.line l.cursor.column false
      l.keyAllowed
  let l ← { l with cursor := c, keyAllowed := keyAllowed }.dropStaleKeys
  let l := l.unrollIndent (some c.column)
  let more (l : Option Lexer) : Option (Lexer × Bool) := l.map (·, true)
  match c.peek 0 with
  | none =>
    let l ← (l.unrollIndent none).dropKey
    return (l.emit .streamEnd, false)
  | some x =>
    if c.column = 0 && x = '%' then do
      let l ← (l.unrollIndent none).dropKey
      let (t, c) ← directive c
      return ({ l with cursor := c, keyAllowed := false }.emit t, true)
    else if c.atDocumentMark then
      more (l.documentMark (if x = '-' then .documentStart else .documentEnd))
    else if x = '[' then more (l.openFlow .flowSequenceStart)
    else if x = '{' then more (l.openFlow .flowMappingStart)
    else if x = ']' then more (l.closeFlow .flowSequenceEnd)
    else if x = '}' then more (l.closeFlow .flowMappingEnd)
    else if x = ',' then do
      let l ← l.dropKey
      return ({ l with keyAllowed := true }.take 1 .flowEntry, true)
    else if x = '-' && c.endsAt 1 then more l.blockEntry
    else if x = '?' && (l.inFlow || c.endsAt 1) then more l.markedKey
    else if x = ':' && (l.inFlow || c.endsAt 1) then more l.colon
    else if x = '*' || x = '&' then do
      let l ← l.saveKey
      let (name, c) ← anchorName c
      let t := if x = '*' then Token.alias name else .anchor name
      return ({ l with cursor := c, keyAllowed := false }.emit t, true)
    else if x = '!' then do
      let l ← l.saveKey
      let (t, c) ← readTag l.inFlow c
      return ({ l with cursor := c, keyAllowed := false }.emit t, true)
    else if x = '|' && !l.inFlow then more (l.block true)
    else if x = '>' && !l.inFlow then more (l.block false)
    else if x = '\'' then
      more (l.scalar false fun c =>
        singleQuotedScalar (c.rest.drop 1) (c.index + 1) c.line (c.column + 1) true .empty)
    else if x = '"' then
      more (l.scalar false fun c =>
        doubleQuotedScalar (c.rest.drop 1) (c.index + 1) c.line (c.column + 1) true none .empty)
    else if startsPlain l.inFlow c then
      let indent := match l.indent with
        | none => 0
        | some n => n + 1
      more (l.scalar true fun c =>
        plainScalar l.inFlow indent c.rest c.index c.line c.column true .empty)
    else none

/-- Reads on to the end of the text. Every step but the last passes a character. -/
def run : (characters : Nat) → Lexer → Option (List Token)
  | 0, _ => none
  | n + 1, l =>
    match l.next with
    | none => none
    | some (l, true) => run n l
    | some (l, false) => some l.tokens.reverse

/-- Before the first character. -/
def start (cs : List Char) : Lexer :=
  ⟨⟨cs, 0, 0, 0⟩, [], 0, none, [], none, [], true⟩

end Lexer

/-- Characters that may stand in a text. -/
def isTextChar (c : Char) : Bool :=
  let n := c.toNat
  n = 9 || n = 10 || n = 13 || (0x20 ≤ n && n ≤ 0x7E) || n = 0x85 || (0xA0 ≤ n && n ≤ 0xD7FF) ||
    (0xE000 ≤ n && n ≤ 0xFFFD) || 0x10000 ≤ n

def skipByteOrderMark (cs : List Char) : List Char :=
  match cs with
  | c :: rest => if c.toNat = 0xFEFF then rest else cs
  | [] => []

/-- The tokens of a text. A byte order mark may stand at its start, even twice. -/
def tokens? (cs : List Char) : Option (List Token) :=
  if cs.all isTextChar then
    let cs := skipByteOrderMark (skipByteOrderMark cs)
    (Lexer.start cs).run (cs.length + 1)
  else none

end ServiceContract.Yaml
