import ServiceContract.Json.Token

/-!
# TOML tokens

The text is read one character at a time by a machine whose states are the unfinished tokens.
Comments leave no token.
-/

namespace ServiceContract.Toml

inductive Token where
  | openBracket
  | closeBracket
  | openBrace
  | closeBrace
  | comma
  | dot
  | equals
  /-- Blanks between other tokens; one that is a single space may stand in a date. -/
  | blank (isSpace : Bool)
  | newline
  /-- A string. Keys are never written over several lines. -/
  | string (s : String) (isMultiline : Bool)
  | word (cs : List Char)
deriving DecidableEq

/-- The four ways to write a string. -/
structure Quoting where
  quote : Char
  isMultiline : Bool
deriving DecidableEq

/-- Whether a backslash starts an escape. -/
def Quoting.hasEscapes (q : Quoting) : Bool := q.quote = '"'

/-- What is being read. Characters so far are held in reverse. -/
inductive Reading where
  | between
  | blank (isSpace : Bool)
  | word (done : List Char)
  | comment
  /-- A carriage return, which a line feed has to follow. -/
  | lineEnd
  /-- One or two quotes, which may go on to three. -/
  | quotes (quote : Char) (two : Bool)
  /-- Behind three quotes: a line end here does not count. -/
  | fresh (quote : Char) (afterReturn : Bool)
  /-- Inside a string; `quotes` are those read last. -/
  | inside (q : Quoting) (done : List Char) (quotes : Nat)
  /-- Inside a string behind a carriage return. -/
  | insideReturn (q : Quoting) (done : List Char)
  | escape (q : Quoting) (done : List Char)
  | code (q : Quoting) (done : List Char) (left value : Nat)
  /-- Behind a backslash at the end of a line: blanks do not count. -/
  | folded (q : Quoting) (done : List Char) (lineSeen : Bool)

/-- Whether a character belongs to no text: control characters but the tab. -/
def isControl (c : Char) : Bool := (c.toNat < 32 && c ≠ '\t') || c.toNat = 127

def mark? (c : Char) : Option Token :=
  match c with
  | '[' => some .openBracket
  | ']' => some .closeBracket
  | '{' => some .openBrace
  | '}' => some .closeBrace
  | ',' => some .comma
  | '.' => some .dot
  | '=' => some .equals
  | '\n' => some .newline
  | _ => none

/-- Starts at a character that belongs to no token yet. -/
def start (c : Char) (tokens : List Token) : Reading × List Token :=
  match mark? c with
  | some t => (.between, t :: tokens)
  | none =>
    if c = ' ' || c = '\t' then (.blank (c = ' '), tokens)
    else if c = '\r' then (.lineEnd, tokens)
    else if c = '#' then (.comment, tokens)
    else if c = '"' || c = '\'' then (.quotes c false, tokens)
    else (.word [c], tokens)

def stringToken (q : Quoting) (done : List Char) : Token :=
  .string (String.ofList done.reverse) q.isMultiline

/-- The character of a one-letter escape. -/
def escaped? (c : Char) : Option Char :=
  match c with
  | '"' => some '"'
  | '\\' => some '\\'
  | 'b' => some (Char.ofNat 8)
  | 'e' => some (Char.ofNat 27)
  | 'f' => some (Char.ofNat 12)
  | 'n' => some '\n'
  | 'r' => some '\r'
  | 't' => some '\t'
  | _ => none

/-- How many digits follow the letter of an escape. -/
def codeLength? (c : Char) : Option Nat :=
  match c with
  | 'x' => some 2
  | 'u' => some 4
  | 'U' => some 8
  | _ => none

/-- The character of a number, if it has one. -/
def character? (n : Nat) : Option Char :=
  if n < 0xD800 || (0xE000 ≤ n && n < 0x110000) then some (Char.ofNat n) else none

/-- One character inside a string. -/
def stepInside (q : Quoting) (done : List Char) (quotes : Nat) (c : Char) (tokens : List Token) :
    Option (Reading × List Token) :=
  if c = q.quote then
    if !q.isMultiline then some (.between, stringToken q done :: tokens)
    else if quotes = 4 then some (.between, stringToken q (done.drop 2) :: tokens)
    else some (.inside q (c :: done) (quotes + 1), tokens)
  else if 3 ≤ quotes then some (start c (stringToken q (done.drop 3) :: tokens))
  else if c = '\\' && q.hasEscapes then some (.escape q done, tokens)
  else if c = '\n' && q.isMultiline then some (.inside q (c :: done) 0, tokens)
  else if c = '\r' && q.isMultiline then some (.insideReturn q done, tokens)
  else if isControl c then none
  else some (.inside q (c :: done) 0, tokens)

/-- One character behind a backslash. -/
def stepEscape (q : Quoting) (done : List Char) (c : Char) : Option Reading :=
  match escaped? c with
  | some d => some (.inside q (d :: done) 0)
  | none =>
    match codeLength? c with
    | some n => some (.code q done n 0)
    | none =>
      if !q.isMultiline then none
      else if c = ' ' || c = '\t' || c = '\r' then some (.folded q done false)
      else if c = '\n' then some (.folded q done true)
      else none

/-- One character; the finished tokens are held in reverse. -/
def step (c : Char) : Reading → List Token → Option (Reading × List Token)
  | .between, tokens => some (start c tokens)
  | .blank isSpace, tokens =>
    if c = ' ' || c = '\t' then some (.blank false, tokens)
    else some (start c (.blank isSpace :: tokens))
  | .word done, tokens =>
    if (mark? c).isSome || c ∈ [' ', '\t', '\r', '#', '"', '\''] then
      some (start c (.word done.reverse :: tokens))
    else some (.word (c :: done), tokens)
  | .comment, tokens =>
    if c = '\n' || c = '\r' then some (start c tokens)
    else if isControl c then none
    else some (.comment, tokens)
  | .lineEnd, tokens => if c = '\n' then some (.between, .newline :: tokens) else none
  | .quotes quote two, tokens =>
    if c = quote then
      if two then some (.fresh quote false, tokens) else some (.quotes quote true, tokens)
    else if two then some (start c (.string "" false :: tokens))
    else stepInside ⟨quote, false⟩ [] 0 c tokens
  | .fresh quote afterReturn, tokens =>
    if c = '\n' then some (.inside ⟨quote, true⟩ [] 0, tokens)
    else if afterReturn then none
    else if c = '\r' then some (.fresh quote true, tokens)
    else stepInside ⟨quote, true⟩ [] 0 c tokens
  | .inside q done quotes, tokens => stepInside q done quotes c tokens
  | .insideReturn q done, tokens =>
    if c = '\n' then some (.inside q ('\n' :: done) 0, tokens) else none
  | .escape q done, tokens => (stepEscape q done c).map (·, tokens)
  | .code q done left value, tokens =>
    (Json.hexValue? c).bind fun d =>
      if left ≤ 1 then
        (character? (16 * value + d)).map fun x => (.inside q (x :: done) 0, tokens)
      else some (.code q done (left - 1) (16 * value + d), tokens)
  | .folded q done lineSeen, tokens =>
    if c = ' ' || c = '\t' || c = '\r' then some (.folded q done lineSeen, tokens)
    else if c = '\n' then some (.folded q done true, tokens)
    else if lineSeen then stepInside q done 0 c tokens
    else none

/-- Reads the rest of the text. -/
def scan : List Char → Reading → List Token → Option (List Token)
  | [], .between, tokens | [], .comment, tokens => some tokens.reverse
  | [], .blank isSpace, tokens => some (.blank isSpace :: tokens).reverse
  | [], .word done, tokens => some (.word done.reverse :: tokens).reverse
  | [], .quotes _ true, tokens => some (.string "" false :: tokens).reverse
  | [], .inside q done quotes, tokens =>
    if 3 ≤ quotes then some (stringToken q (done.drop 3) :: tokens).reverse else none
  | [], _, _ => none
  | c :: cs, reading, tokens =>
    match step c reading tokens with
    | none => none
    | some (reading, tokens) => scan cs reading tokens

/-- The tokens of a text. A byte order mark at its start does not count. -/
def tokens? (text : String) : Option (List Token) :=
  let cs := match text.toList with
    | c :: rest => if c.toNat = 0xFEFF then rest else c :: rest
    | [] => []
  scan cs .between []

end ServiceContract.Toml
