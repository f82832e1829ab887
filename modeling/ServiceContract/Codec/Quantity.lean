import ServiceContract.Codec.Record
import ServiceContract.Specification.Quantity

/-!
# The tree form of quantities
-/

namespace ServiceContract

open Codec

/-- A number of a document: an integer of 64 bits, or else a double. -/
def Number.decode : Decoder Number := fun _ v =>
  match v with
  | .int n =>
    if Numeral.isSigned 64 n then .ok (.integer (Int64.ofInt n)) else .ok (.decimal (.ofInt n))
  | .float .notANumber => .error (.noAlternative "Number")
  | .float x => .ok (.decimal x)
  | _ => .error (.noAlternative "Number")

def Number.encode : Number → Value
  | integer n => .int n.toInt
  | decimal x => .float x

namespace Duration

def type : RecordType := { title := "struct Duration", fields := ["value", "unit"] }

def decode : Decoder Duration := fun d v => do
  let m ← members d type.title v
  build d type m (mk <$> required type m "value" (Number.decode d)
    <*> required type m "unit" (text d))

def encode (x : Duration) : Value :=
  .map [("value", x.value.encode), ("unit", .text x.unit)]

end Duration

end ServiceContract
