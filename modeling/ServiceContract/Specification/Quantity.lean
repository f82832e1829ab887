import ServiceContract.Value

/-!
# Quantities

Numbers as their author wrote them, and durations. An integer stays an integer, so that a duration
of 24 hours is written `24h` and never `24.0h`.
-/

namespace ServiceContract

open Numeral

/-- A numeric literal. -/
inductive Number where
  | integer (n : Int64)
  | decimal (x : Double)
deriving DecidableEq

/-- An integer literal is written as an integer, a decimal one as its shortest digits. -/
def Number.text : Number → List Char
  | integer n => intText n.toInt
  | decimal x => x.text

/-- The double nearest to a literal. -/
def Number.toDouble : Number → Double
  | integer n => .ofInt n.toInt
  | decimal x => x

/-- The value that stands for a literal in a document. Documents hold finite numbers only; any
other is written as zero. -/
def Number.toValue : Number → Value
  | integer n => .int n.toInt
  | decimal (.finite x) => .float (.finite x)
  | decimal _ => .int 0

/-- An amount of time. -/
structure Duration where
  value : Number
  unit : String
deriving DecidableEq

/-- The shorthand of a duration: its value followed by its unit. -/
def Duration.shorthand (d : Duration) : String := String.ofList (d.value.text ++ d.unit.toList)

end ServiceContract
