import ServiceContract.Json.Token

/-!
# Plain scalars

What a plain scalar means. Reading follows this rule, and writing quotes every string that the
rule would read as something else.
-/

namespace ServiceContract.Yaml

open Numeral

/-- The meaning of a plain scalar. An integer beyond 128 bits is none. -/
inductive Plain where
  | null
  | bool (b : Bool)
  | int (n : Int)
  | float (x : Double)
  | text
deriving DecidableEq

/-- Removes one sign. -/
def unsigned : List Char → List Char
  | '+' :: rest => rest
  | '-' :: rest => rest
  | cs => cs

/-- A zero before other digits: such a text is no number. -/
def hasLeadingZero (cs : List Char) : Bool :=
  match unsigned cs with
  | '0' :: d :: rest => (d :: rest).all Char.isDigit
  | _ => false

/-- The number that digits of a base write; there must be a digit. -/
def ofBase? (base : Nat) (cs : List Char) : Option Nat :=
  let digit (c : Char) : Option Nat := (Json.hexValue? c).filter (· < base)
  if cs.isEmpty then none
  else cs.foldlM (fun n c => (digit c).map (base * n + ·)) 0

/-- Digits after an optional base mark; decimal digits have no leading zero. -/
def magnitude? (cs : List Char) : Option Nat :=
  match cs with
  | '0' :: 'x' :: rest => ofBase? 16 rest
  | '0' :: 'o' :: rest => ofBase? 8 rest
  | '0' :: 'b' :: rest => ofBase? 2 rest
  | cs => if hasLeadingZero cs then none else ofBase? 10 cs

/-- The integer a scalar writes: an optional sign and a magnitude, within 128 bits. -/
def int? (cs : List Char) : Option Int :=
  match cs with
  | '-' :: rest =>
    (magnitude? rest).bind fun n => if n ≤ bitLimit 127 then some (-(n : Int)) else none
  | '+' :: rest => (magnitude? rest).bind fun n => if n < bitLimit 128 then some (n : Int) else none
  | cs => (magnitude? cs).bind fun n => if n < bitLimit 128 then some (n : Int) else none

/-- The decimal number without sign that a text writes: digits with or without a point, at least
one of them, and an optional exponent. -/
def decimal? (negative : Bool) (cs : List Char) : Option Double :=
  let (whole, rest) := Json.splitDigits cs
  let (fraction, rest) : List Char × List Char := match rest with
    | '.' :: rest => Json.splitDigits rest
    | rest => ([], rest)
  if whole.isEmpty && fraction.isEmpty then none
  else (Json.exponentParts rest).map fun exponent =>
    let e : Int := match exponent with
      | none => 0
      | some (true, es) => -(Json.ofDigits es : Int)
      | some (false, es) => Json.ofDigits es
    .ofDecimal negative (Json.ofDigits (whole ++ fraction)) (e - fraction.length)

/-- The double a scalar writes: the marks of infinity and of no number, or a decimal number that
is not too large. -/
def double? (cs : List Char) : Option Double :=
  let marks (names : List String) (cs : List Char) : Bool := names.any fun s => s.toList == cs
  let infinity := marks [".inf", ".Inf", ".INF"]
  let finite (x : Option Double) : Option Double := x.filter fun x => x.toFinite?.isSome
  match cs with
  | '-' :: rest => if infinity rest then some (.infinite true) else finite (decimal? true rest)
  | '+' :: rest => if infinity rest then some (.infinite false) else finite (decimal? false rest)
  | cs =>
    if infinity cs then some (.infinite false)
    else if marks [".nan", ".NaN", ".NAN"] cs then some .notANumber
    else finite (decimal? false cs)

/-- The truth value a scalar writes. -/
def bool? (cs : List Char) : Option Bool :=
  if ["true", "True", "TRUE"].any fun s => s.toList == cs then some true
  else if ["false", "False", "FALSE"].any fun s => s.toList == cs then some false
  else none

/-- Whether a scalar writes the absent value; an empty one does not. -/
def isNull (cs : List Char) : Bool := ["null", "Null", "NULL", "~"].any fun s => s.toList == cs

def plain (cs : List Char) : Plain :=
  if cs.isEmpty || isNull cs then .null
  else match bool? cs with
    | some b => .bool b
    | none => match int? cs with
      | some n => .int n
      | none =>
        if hasLeadingZero cs then .text
        else match double? cs with
          | some x => .float x
          | none => .text

end ServiceContract.Yaml
