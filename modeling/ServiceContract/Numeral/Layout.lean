import ServiceContract.Numeral.Shortest

/-!
# Numbers as text

A layout says how the shortest digits of a double are written. The texts of integers and doubles
here are the only ones in the library.
-/

namespace ServiceContract.Numeral

/-- How the digits of a finite double are written. With the value written as `0.d₁d₂… × 10 ^ k`,
`positional` says which `k` are written without an exponent. -/
structure Layout where
  /-- The exponents written positionally; all of them when absent. -/
  positional : Option (Int × Int)
  /-- Whether a whole number keeps a final `.0`. -/
  fraction : Bool
  /-- Whether a positive exponent has a sign. -/
  plus : Bool
  /-- The choice between two equally near decimals. -/
  tie : Tie

namespace Layout

/-- Numbers in YAML text: `100.0`, `1e16`, `1.5e-7`. -/
def yaml : Layout := ⟨some (-4, 16), true, false, .toEven⟩

/-- Numbers in JSON text: `100.0`, `1e+16`, `1.5e-7`. -/
def json : Layout := ⟨some (-4, 16), true, true, .toEven⟩

/-- Numbers in running text: never an exponent, and no `.0`. -/
def plain : Layout := ⟨none, false, false, .upward⟩

end Layout

/-- The decimal digits of a number. -/
def digits (n : Nat) : List Char := Nat.toDigits 10 n

def intText (n : Int) : List Char :=
  if n < 0 then '-' :: digits n.natAbs else digits n.natAbs

/-- A positive decimal point position among digits: zeros are added on either side as needed. -/
def positionalText (fraction : Bool) (ds : List Char) (k : Int) : List Char :=
  if k ≤ 0 then '0' :: '.' :: (List.replicate (-k).toNat '0' ++ ds)
  else
    let whole := ds.take k.toNat
    let rest := ds.drop k.toNat
    let whole := whole ++ List.replicate (k.toNat - ds.length) '0'
    if rest.isEmpty then whole ++ (if fraction then ['.', '0'] else []) else whole ++ '.' :: rest

/-- Digits with an exponent: one digit stands before the point. -/
def exponentText (plus : Bool) (ds : List Char) (k : Int) : List Char :=
  let head := ds.take 1 ++ (if ds.length ≤ 1 then [] else '.' :: ds.drop 1)
  head ++ 'e' :: ((if plus && decide (0 < k - 1) then ['+'] else []) ++ intText (k - 1))

namespace FiniteDouble

/-- The text of a finite double under a layout. -/
def text (layout : Layout) (x : FiniteDouble) : List Char :=
  let d := x.shortest layout.tie
  let ds := digits d.digits
  let k := d.exponent + ds.length
  let body :=
    if x.isZero then (if layout.fraction then ['0', '.', '0'] else ['0'])
    else match layout.positional with
      | none => positionalText layout.fraction ds k
      | some (low, high) =>
        if low ≤ k && k ≤ high then positionalText layout.fraction ds k
        else exponentText layout.plus ds k
  if x.negative then '-' :: body else body

end FiniteDouble

namespace Double

/-- The text of a double in running text. -/
def text : Double → List Char
  | .finite x => x.text .plain
  | .infinite negative => if negative then "-inf".toList else "inf".toList
  | .notANumber => "NaN".toList

/-- The JSON text of a double. JSON has finite numbers only. -/
def jsonText : Double → List Char
  | .finite x => x.text .json
  | .infinite _ | .notANumber => "null".toList

def yamlText : Double → List Char
  | .finite x => x.text .yaml
  | .infinite negative => if negative then "-.inf".toList else ".inf".toList
  | .notANumber => ".nan".toList

end Double

end ServiceContract.Numeral
