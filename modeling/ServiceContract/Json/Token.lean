import ServiceContract.Value

/-!
# JSON tokens

The text is read one character at a time by a machine whose states are the unfinished tokens.
-/

namespace ServiceContract.Json

open Numeral

/-- A token of JSON text. A well-formed scalar may have no value: a number too large for a double,
or a string with half of a surrogate pair. -/
inductive Token where
  | openMap
  | closeMap
  | openList
  | closeList
  | comma
  | colon
  | scalar (v : Value)
  | hugeNumber
  | brokenString

/-- Whether the token has a value, if it is a scalar. -/
def Token.isReadable : Token → Bool
  | .hugeNumber | .brokenString => false
  | _ => true

/-- A number as the JSON grammar has it, split into its parts. -/
structure NumberParts where
  negative : Bool
  whole : List Char
  fraction : Option (List Char)
  exponent : Option (Bool × List Char)

/-- Digits before the first other character. -/
def splitDigits (cs : List Char) : List Char × List Char :=
  (cs.takeWhile Char.isDigit, cs.dropWhile Char.isDigit)

/-- The number that decimal digits write. -/
def ofDigits (ds : List Char) : Nat := ds.foldl (fun n d => 10 * n + (d.toNat - 48)) 0

/-- Reads the exponent at the end of a number. -/
def exponentParts : List Char → Option (Option (Bool × List Char))
  | [] => some none
  | e :: rest =>
    if e = 'e' ∨ e = 'E' then
      let (negative, ds) : Bool × List Char := match rest with
        | '+' :: ds => (false, ds)
        | '-' :: ds => (true, ds)
        | ds => (false, ds)
      if ds.isEmpty || !ds.all Char.isDigit then none else some (some (negative, ds))
    else none

/-- Reads a number: no leading zero, and digits on both sides of a point. -/
def numberParts (cs : List Char) : Option NumberParts := do
  let (negative, cs) : Bool × List Char := match cs with
    | '-' :: rest => (true, rest)
    | rest => (false, rest)
  let (whole, rest) := splitDigits cs
  if whole.isEmpty || (whole.length > 1 && whole.head? == some '0') then none
  match rest with
  | '.' :: rest =>
    let (fraction, rest) := splitDigits rest
    if fraction.isEmpty then none
    return ⟨negative, whole, some fraction, ← exponentParts rest⟩
  | rest => return ⟨negative, whole, none, ← exponentParts rest⟩

def finite? (x : Double) : Option Value := x.toFinite?.map fun _ => .float x

/-- The value of a number. Without fraction and exponent it is an integer if it lies between
`-2^63` and `2^64 - 1`; a number too large for a double is refused. -/
def NumberParts.value? (p : NumberParts) : Option Value :=
  let n := ofDigits p.whole
  match p.fraction, p.exponent with
  | none, none =>
    if p.negative then
      if n = 0 ∨ bitLimit 63 < n then finite? (.ofDecimal true n 0)
      else some (.int (-(n : Int)))
    else if n < bitLimit 64 then some (.int n)
    else finite? (.ofDecimal false n 0)
  | fraction, exponent =>
    let ds := fraction.getD []
    let e : Int := match exponent with
      | none => 0
      | some (true, es) => -(ofDigits es : Int)
      | some (false, es) => ofDigits es
    finite? (.ofDecimal p.negative (ofDigits (p.whole ++ ds)) (e - ds.length))

/-- What is being read: between tokens, a word, a number, or a string, whose code units so far
are held in reverse. A string may stand in an escape, with the hexadecimal digits still to come. -/
inductive Reading where
  | between
  | word (done : List Char)
  | number (done : List Char)
  | string (done : List Nat)
  | escape (done : List Nat)
  | code (done : List Nat) (left value : Nat)

/-- The text that code units make: two halves of a pair are one character, and no half stands
alone. -/
def textOfUnits? : List Nat → Option (List Char)
  | [] => some []
  | [u] => if 0xD800 ≤ u ∧ u < 0xE000 then none else some [Char.ofNat u]
  | u :: v :: rest =>
    if 0xD800 ≤ u ∧ u < 0xDC00 then
      if 0xDC00 ≤ v ∧ v < 0xE000 then
        (textOfUnits? rest).map (Char.ofNat ((u - 0xD800) * 1024 + (v - 0xDC00) + 0x10000) :: ·)
      else none
    else if 0xDC00 ≤ u ∧ u < 0xE000 then none
    else (textOfUnits? (v :: rest)).map (Char.ofNat u :: ·)

/-- The token of a string whose code units are given in reverse. -/
def stringToken (units : List Nat) : Token :=
  match textOfUnits? units.reverse with
  | some cs => .scalar (.text (String.ofList cs))
  | none => .brokenString

def NumberParts.token (p : NumberParts) : Token :=
  match p.value? with
  | some v => .scalar v
  | none => .hugeNumber

def wordValue? (cs : List Char) : Option Value :=
  if cs = "null".toList then some .null
  else if cs = "true".toList then some (.bool true)
  else if cs = "false".toList then some (.bool false)
  else none

/-- The value of a hexadecimal digit. -/
def hexValue? (c : Char) : Option Nat :=
  if c.isDigit then some (c.toNat - 48)
  else if 'a' ≤ c ∧ c ≤ 'f' then some (c.toNat - 87)
  else if 'A' ≤ c ∧ c ≤ 'F' then some (c.toNat - 55)
  else none

/-- The character of a one-letter escape. -/
def escaped? (c : Char) : Option Char :=
  match c with
  | '"' => some '"'
  | '\\' => some '\\'
  | '/' => some '/'
  | 'b' => some (Char.ofNat 8)
  | 'f' => some (Char.ofNat 12)
  | 'n' => some '\n'
  | 'r' => some '\r'
  | 't' => some '\t'
  | _ => none

/-- Whether a number may go on with this character. -/
def isNumberChar (c : Char) : Bool := c.isDigit || c ∈ ['-', '+', '.', 'e', 'E']

/-- Starts at a character that belongs to no token yet. -/
def start (c : Char) (tokens : List Token) : Option (Reading × List Token) :=
  if c = ' ' ∨ c = '\n' ∨ c = '\t' ∨ c = '\r' then some (.between, tokens)
  else if c = '{' then some (.between, .openMap :: tokens)
  else if c = '}' then some (.between, .closeMap :: tokens)
  else if c = '[' then some (.between, .openList :: tokens)
  else if c = ']' then some (.between, .closeList :: tokens)
  else if c = ',' then some (.between, .comma :: tokens)
  else if c = ':' then some (.between, .colon :: tokens)
  else if c = '"' then some (.string [], tokens)
  else if c = '-' ∨ c.isDigit then some (.number [c], tokens)
  else if c.isAlpha then some (.word [c], tokens)
  else none

/-- One character; the finished tokens are held in reverse. -/
def step (c : Char) : Reading → List Token → Option (Reading × List Token)
  | .between, tokens => start c tokens
  | .word done, tokens =>
    if c.isAlpha then some (.word (c :: done), tokens)
    else (wordValue? done.reverse).bind fun v => start c (.scalar v :: tokens)
  | .number done, tokens =>
    if isNumberChar c then some (.number (c :: done), tokens)
    else (numberParts done.reverse).bind fun p => start c (p.token :: tokens)
  | .string done, tokens =>
    if c = '"' then some (.between, stringToken done :: tokens)
    else if c = '\\' then some (.escape done, tokens)
    else if c.toNat < 32 then none
    else some (.string (c.toNat :: done), tokens)
  | .escape done, tokens =>
    if c = 'u' then some (.code done 4 0, tokens)
    else (escaped? c).map fun d => (.string (d.toNat :: done), tokens)
  | .code done left value, tokens =>
    (hexValue? c).bind fun d =>
      if left ≤ 1 then some (.string ((16 * value + d) :: done), tokens)
      else some (.code done (left - 1) (16 * value + d), tokens)

/-- Reads the rest of the text. -/
def scan : List Char → Reading → List Token → Option (List Token)
  | [], .between, tokens => some tokens.reverse
  | [], .word done, tokens =>
    (wordValue? done.reverse).map fun v => (.scalar v :: tokens).reverse
  | [], .number done, tokens =>
    (numberParts done.reverse).map fun p => (p.token :: tokens).reverse
  | [], _, _ => none
  | c :: cs, reading, tokens =>
    match step c reading tokens with
    | none => none
    | some (reading, tokens) => scan cs reading tokens

/-- The tokens of a text, if it is made of JSON tokens. -/
def tokens? (text : String) : Option (List Token) := scan text.toList .between []

end ServiceContract.Json
