import ServiceContract.Value

/-!
# Sameness of values

Two values are the same when numbers are compared by what they are worth and members of maps without
regard to their order.
-/

namespace ServiceContract

open Numeral

/-- Whether a double is worth an integer. -/
def Numeral.Double.isWorth (n : Int) : Double → Bool
  | .finite x =>
    let scaled : Nat × Nat :=
      if 0 ≤ x.exponent then (x.mantissa * Nat.pow 2 x.exponent.toNat, n.natAbs)
      else (x.mantissa, n.natAbs * Nat.pow 2 x.exponent.natAbs)
    scaled.1 = scaled.2 && (n = 0 || x.negative == decide (n < 0))
  | _ => false

/-- Whether two doubles are worth the same. Zero has no sign. -/
def Numeral.Double.isWorthSame : Double → Double → Bool
  | .finite x, .finite y => x = y || (x.isZero && y.isZero)
  | x, y => x = y

mutual

/-- Whether two values are the same. -/
def Value.isSame : Value → Value → Bool
  | .null, w => w = .null
  | .bool a, w => w = .bool a
  | .text a, w => w = .text a
  | .int n, .int m => n = m
  | .int n, .float x => x.isWorth n
  | .float x, .int n => x.isWorth n
  | .float x, .float y => x.isWorthSame y
  | .list vs, .list ws => sameItems vs ws
  | .map es, .map fs => es.length = fs.length && sameEntries es fs
  | _, _ => false
termination_by structural v => v

/-- Whether two lists hold the same items. -/
def sameItems : List Value → List Value → Bool
  | [], [] => true
  | v :: vs, w :: ws => v.isSame w && sameItems vs ws
  | _, _ => false
termination_by structural vs => vs

/-- Whether the members are members of a map. -/
def sameEntries : List (String × Value) → List (String × Value) → Bool
  | [], _ => true
  | (key, v) :: rest, entries =>
    (match Entries.get? key entries with
      | some w => v.isSame w
      | none => false) && sameEntries rest entries
termination_by structural vs => vs

end

/-- Whether no value is the same as a later one. -/
def allDifferent : List Value → Bool
  | [] => true
  | v :: rest => rest.all (fun w => !v.isSame w) && allDifferent rest

end ServiceContract
