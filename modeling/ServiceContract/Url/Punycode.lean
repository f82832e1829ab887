import ServiceContract.Numeral.Width

/-!
# Punycode

A label outside ASCII is written as its ASCII characters and the places and values of the others,
in numerals of variable length whose digits mean more or less as the last steps were wide or
narrow.
-/

namespace ServiceContract.Url.Punycode

def digit? (c : Char) : Option Nat :=
  let n := c.toNat
  if c.isLower then some (n - 97)
  else if c.isUpper then some (n - 65)
  else if c.isDigit then some (n - 22)
  else none

/-- From which value on a digit is followed by another. -/
def threshold (place bias : Nat) : Nat :=
  if place ≤ bias then 1 else if bias + 26 ≤ place then 26 else place - bias

/-- Divides by 35 until at most 455 is left; 36 is counted for each time. -/
def narrow (delta places : Nat) : Nat × Nat :=
  if 455 < delta then narrow (delta / 35) (places + 36) else (delta, places)
termination_by delta
decreasing_by exact Nat.div_lt_self (by omega) (by omega)

/-- The bias after a step, of a label that has then `length` characters. -/
def adapt (delta length : Nat) (isFirst : Bool) : Nat :=
  let delta := if isFirst then delta / 700 else delta / 2
  let (delta, places) := narrow (delta + delta / length) 0
  places + 36 * delta / (delta + 38)

/-- Reads a numeral and adds it to `sum`. Sums and weights have 32 bits. -/
def numeral? (bias : Nat) : List Char → (place weight sum : Nat) → Option (Nat × List Char)
  | [], _, _, _ => none
  | c :: rest, place, weight, sum =>
    match digit? c with
    | none => none
    | some d =>
      let sum := sum + d * weight
      if Numeral.bitLimit 32 ≤ sum then none
      else
        let t := threshold place bias
        if d < t then some (sum, rest)
        else if Numeral.bitLimit 32 ≤ weight * (36 - t) then none
        else numeral? bias rest (place + 36) (weight * (36 - t)) sum

theorem numeral?_length {bias : Nat} {cs rest : List Char} {place weight sum n : Nat}
    (h : numeral? bias cs place weight sum = some (n, rest)) : rest.length < cs.length := by
  induction cs generalizing place weight sum with
  | nil => simp [numeral?] at h
  | cons c cs ih =>
    rw [numeral?] at h
    split at h
    · cases h
    · dsimp only at h
      split at h
      · cases h
      · split at h
        · cases h
          simp
        · split at h
          · cases h
          · exact Nat.lt_succ_of_lt (ih h)

/-- Puts characters in, one a numeral. A numeral counts the places from the last one put in, over
all characters from `code` on. -/
def insertAll (cs : List Char) (code index bias : Nat) (label : List Char) :
    Option (List Char) :=
  if cs.isEmpty then some label
  else
    match _h : numeral? bias cs 36 1 index with
    | none => none
    | some (sum, rest) =>
      let length := label.length + 1
      let code := code + sum / length
      if code < 0x110000 && !(0xD800 ≤ code && code < 0xE000) then
        let index' := sum % length
        insertAll rest code (index' + 1) (adapt (sum - index) length (index = 0))
          (label.insertIdx index' (Char.ofNat code))
      else none
termination_by cs.length
decreasing_by exact numeral?_length _h

/-- The label that a text stands for. Its ASCII characters stand before the last hyphen. -/
def decode? (cs : List Char) : Option (List Char) :=
  if cs.contains '-' then
    let back := cs.reverse
    let basic := ((back.dropWhile (· ≠ '-')).drop 1).reverse
    if basic.isEmpty then none
    else insertAll (back.takeWhile (· ≠ '-')).reverse 128 0 72 basic
  else insertAll cs 128 0 72 []

end ServiceContract.Url.Punycode
