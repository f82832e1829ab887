import ServiceContract.Json.Token
import ServiceContract.Toml.Special

/-!
# TOML scalars

What the words of a TOML document mean that are not in quotes: truth values, integers, floats, and
dates and times.
-/

namespace ServiceContract.Toml

open Numeral

/-- Digits of a base without the underscores between them. -/
def ungrouped? (base : Nat) : List Char → Option (List Char)
  | [] => none
  | [c] => if (Json.hexValue? c).any (· < base) then some [c] else none
  | c :: '_' :: rest =>
    if (Json.hexValue? c).any (· < base) then (ungrouped? base rest).map (c :: ·) else none
  | c :: rest =>
    if (Json.hexValue? c).any (· < base) then (ungrouped? base rest).map (c :: ·) else none

/-- The number that digits of a base write. -/
def ofDigits (base : Nat) (ds : List Char) : Nat :=
  ds.foldl (fun n d => base * n + (Json.hexValue? d).getD 0) 0

/-- Whether a number starts with a minus, and what follows the sign. -/
def splitSign : List Char → Bool × List Char
  | '-' :: rest => (true, rest)
  | '+' :: rest => (false, rest)
  | cs => (false, cs)

/-- Decimal digits without a zero in front of others. -/
def wholeDigits? (cs : List Char) : Option (List Char) :=
  match ungrouped? 10 cs with
  | some ('0' :: _ :: _) => none
  | ds => ds

/-- An integer: decimal, or without a sign in one of three other bases. -/
def int? (cs : List Char) : Option Int :=
  match cs with
  | '0' :: 'x' :: ds => (ungrouped? 16 ds).map fun ds => ofDigits 16 ds
  | '0' :: 'o' :: ds => (ungrouped? 8 ds).map fun ds => ofDigits 8 ds
  | '0' :: 'b' :: ds => (ungrouped? 2 ds).map fun ds => ofDigits 2 ds
  | cs =>
    let (negative, ds) := splitSign cs
    (wholeDigits? ds).map fun ds => if negative then -(ofDigits 10 ds : Int) else ofDigits 10 ds

/-- An exponent, with its letter. -/
def exponent? : List Char → Option Int
  | [] => some 0
  | _ :: cs =>
    let (negative, ds) := splitSign cs
    (ungrouped? 10 ds).map fun ds => if negative then -(ofDigits 10 ds : Int) else ofDigits 10 ds

/-- The digits behind a point, with the point. -/
def fraction? : List Char → Option (List Char)
  | [] => some []
  | _ :: ds => ungrouped? 10 ds

/-- A float: digits with a fraction, an exponent, or both; or a word. -/
def float? (cs : List Char) : Option Double :=
  let (negative, cs) := splitSign cs
  if cs = "inf".toList then some (.infinite negative)
  else if cs = "nan".toList then some .notANumber
  else
    let isExponent (c : Char) := c = 'e' || c = 'E'
    let mantissa := cs.takeWhile (!isExponent ·)
    let exponent := cs.dropWhile (!isExponent ·)
    let fraction := mantissa.dropWhile (· ≠ '.')
    if fraction.isEmpty && exponent.isEmpty then none
    else do
      let whole ← wholeDigits? (mantissa.takeWhile (· ≠ '.'))
      let ds ← fraction? fraction
      let e ← exponent? exponent
      return .ofDecimal negative (ofDigits 10 (whole ++ ds)) (e - ds.length)

/-- Two digits at the start of a text that write at most `most`, and what follows them. -/
def twoDigits? (least most : Nat) : List Char → Option (Nat × List Char)
  | a :: b :: rest =>
    let n := Json.ofDigits [a, b]
    if a.isDigit && b.isDigit && least ≤ n && n ≤ most then some (n, rest) else none
  | _ => none

/-- What follows a character at the start of a text. -/
def after? (isWanted : Char → Bool) : List Char → Option (List Char)
  | c :: rest => if isWanted c then some rest else none
  | [] => none

def daysOf (year month : Nat) : Nat :=
  if month = 2 then
    if year % 4 = 0 && (year % 100 ≠ 0 || year % 400 = 0) then 29 else 28
  else if month ∈ [4, 6, 9, 11] then 30
  else 31

def passDate? (cs : List Char) : Option (List Char) := do
  let (century, cs) ← twoDigits? 0 99 cs
  let (year, cs) ← twoDigits? 0 99 cs
  let (month, cs) ← twoDigits? 1 12 (← after? (· = '-') cs)
  let (_, cs) ← twoDigits? 1 (daysOf (100 * century + year) month) (← after? (· = '-') cs)
  return cs

/-- Passes a time. Seconds may be left out. -/
def passTime? (cs : List Char) : Option (List Char) := do
  let (_, cs) ← twoDigits? 0 23 cs
  let (_, cs) ← twoDigits? 0 59 (← after? (· = ':') cs)
  match cs with
  | ':' :: cs =>
    let (_, cs) ← twoDigits? 0 60 cs
    match cs with
    | '.' :: d :: cs => if d.isDigit then some (cs.dropWhile Char.isDigit) else none
    | cs => some cs
  | cs => some cs

/-- Passes the distance to universal time. -/
def passOffset? : List Char → Option (List Char)
  | [] => some []
  | c :: cs =>
    if c = 'Z' || c = 'z' then some cs
    else if c = '+' || c = '-' then do
      let (_, cs) ← twoDigits? 0 23 cs
      let (_, cs) ← twoDigits? 0 59 (← after? (· = ':') cs)
      return cs
    else none

/-- Whether the text is a date, a time, or both. -/
def isDateTime (cs : List Char) : Bool :=
  match passDate? cs with
  | some [] => true
  | some rest =>
    ((after? (· ∈ ['T', 't', ' ']) rest).bind passTime?).bind passOffset? == some []
  | none => passTime? cs == some []

/-- The value of a float; a finite numeral may be too large for one. -/
def floatValue (x : Double) (isWord : Bool) : Value :=
  if x.toFinite?.isNone && !isWord then special hugeFloatKey else .float x

def scalar? (cs : List Char) : Option Value :=
  if cs = "true".toList then some (.bool true)
  else if cs = "false".toList then some (.bool false)
  else if isDateTime cs then some (special dateKey)
  else match int? cs with
    | some n => some (.int n)
    | none => (float? cs).map fun x => floatValue x (cs.all fun c => !c.isDigit)

end ServiceContract.Toml
