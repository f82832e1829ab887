import ServiceContract.Numeral.Width

/-!
# Binary64 numbers

A finite number is a sign and a rank: the magnitudes a double can hold, in increasing order, are
numbered 0, 1, 2, … from zero. The rank is the bit pattern of the magnitude, so comparing
magnitudes is comparing ranks, and rounding finds the nearest rank.
-/

namespace ServiceContract.Numeral

/-- One binade holds this many magnitudes. -/
def binade : Nat := Nat.pow 2 52

/-- The rank that infinity would have: every finite magnitude lies below it. -/
def rankLimit : Nat := 2047 * binade

structure FiniteDouble where
  negative : Bool
  rank : Nat
  rank_lt : rank < rankLimit
deriving DecidableEq

namespace FiniteDouble

/-- The integer part of the magnitude's scaled form: the magnitude is `mantissa * 2 ^ exponent`. -/
def mantissa (x : FiniteDouble) : Nat :=
  if x.rank < binade then x.rank else x.rank % binade + binade

/-- The binary exponent of the magnitude's last place. -/
def exponent (x : FiniteDouble) : Int :=
  (max (x.rank / binade) 1 : Nat) - (1075 : Int)

/-- Zero of either sign. -/
def isZero (x : FiniteDouble) : Bool := x.rank == 0

end FiniteDouble

/-- A double: finite, an infinity, or not a number. -/
inductive Double where
  | finite (x : FiniteDouble)
  | infinite (negative : Bool)
  | notANumber
deriving DecidableEq

/-- `num / den` rounded to the nearest integer, a half to the even neighbour. -/
def roundHalfEven (num den : Nat) : Nat :=
  let q := num / den
  let r := num % den
  if 2 * r < den then q
  else if den < 2 * r then q + 1
  else if q % 2 = 0 then q else q + 1

/-- The exponent of the last place that a magnitude `num / den` is rounded to, never below the
smallest one. -/
def placeExponent (num den : Nat) : Int :=
  let guess : Int := (num.log2 : Int) - (den.log2 : Int) - 52
  let low := if 0 ≤ guess then den * Nat.pow 2 (guess.toNat + 52) ≤ num
    else den * Nat.pow 2 52 ≤ num * Nat.pow 2 (-guess).toNat
  max (if low then guess else guess - 1) (-1074)

/-- The rank nearest to `num / den`; at least `rankLimit` when the number is too large. -/
def nearestRank (num den : Nat) : Nat :=
  if num = 0 then 0
  else
    let e := placeExponent num den
    let q := if 0 ≤ e then roundHalfEven num (den * Nat.pow 2 e.toNat)
      else roundHalfEven (num * Nat.pow 2 (-e).toNat) den
    (e + 1074).toNat * binade + q

/-- The double nearest to `± num / den`. -/
def Double.ofRatio (negative : Bool) (num den : Nat) : Double :=
  let rank := nearestRank num den
  if h : rank < rankLimit then .finite ⟨negative, rank, h⟩ else .infinite negative

/-- The double nearest to an integer. -/
def Double.ofInt (n : Int) : Double := .ofRatio (n < 0) n.natAbs 1

/-- The double nearest to `± digits * 10 ^ exponent`. Exponents far outside the range of doubles
are answered without computing the power. -/
def Double.ofDecimal (negative : Bool) (digits : Nat) (exponent : Int) : Double :=
  let size : Int := digits.log2
  if digits = 0 then .ofRatio negative 0 1
  else if 1100 < exponent then .infinite negative
  else if exponent < -1200 - size then .ofRatio negative 0 1
  else if 0 ≤ exponent then .ofRatio negative (digits * Nat.pow 10 exponent.toNat) 1
  else .ofRatio negative digits (Nat.pow 10 (-exponent).toNat)

namespace Double

/-- The finite number, if there is one. -/
def toFinite? : Double → Option FiniteDouble
  | finite x => some x
  | _ => none

/-- Whether `0 ≤ x < bound`. A negative zero is zero. -/
def isWithin (bound : Nat) : Double → Bool
  | finite x => (!x.negative || x.isZero) && decide (x.rank < nearestRank bound 1)
  | _ => false

end Double

end ServiceContract.Numeral
