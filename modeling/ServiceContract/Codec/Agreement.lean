import ServiceContract.Codec.Quantity
import ServiceContract.Specification.Agreement

/-!
# The tree form of agreements
-/

namespace ServiceContract

open Codec

namespace Measurement

def type : RecordType := { title := "struct SimpleMeasurement", fields := ["value", "unit"] }

def decode : Decoder Measurement := fun d v => do
  let m ← members d type.title v
  build d type m (mk <$> required type m "value" (Number.decode d)
    <*> field type m "unit" (some none) (optional text d))

def encode (x : Measurement) : Value :=
  .map [("value", x.value.encode), ("unit", encodeOption .text x.unit)]

end Measurement

namespace LandingZone

def type : RecordType :=
  { title := "struct LandingZone", fields := ["minimal", "target", "optional"] }

def decode : Decoder LandingZone := fun d v => do
  let m ← members d type.title v
  build d type m (mk <$> required type m "minimal" (Measurement.decode d)
    <*> required type m "target" (Measurement.decode d)
    <*> field type m "optional" (some none) (optional Measurement.decode d))

def encode (x : LandingZone) : Value :=
  .map [("minimal", x.minimal.encode), ("target", x.target.encode),
    ("optional", encodeOption Measurement.encode x.best)]

end LandingZone

namespace Promise

def variants : List String := ["simple", "landing_zone"]

def decode : Decoder Promise := fun d v =>
  choose d variants (selection d v) fun name content =>
    if name = "simple" then simple <$> valueContent (Measurement.decode d) content
    else landingZone <$> valueContent (LandingZone.decode d) content

def encode : Promise → Value
  | simple x => .map [("simple", x.encode)]
  | landingZone x => .map [("landing_zone", x.encode)]

end Promise

namespace QualityObjective

def type : RecordType :=
  { title := "struct SlaObjective", fields := ["name", "quality_goal", "measurement"] }

def decode : Decoder QualityObjective := fun d v => do
  let m ← members d type.title v
  build d type m (mk <$> required type m "name" (text d)
    <*> required type m "quality_goal" (text d)
    <*> required type m "measurement" (Promise.decode d))

def encode (x : QualityObjective) : Value :=
  .map [("name", .text x.name), ("quality_goal", .text x.goal), ("measurement", x.promise.encode)]

end QualityObjective

namespace RateLimit

def type : RecordType :=
  { title := "struct RateLimit", fields := ["call_rate", "data_rate", "interval"] }

def decode : Decoder RateLimit := fun d v => do
  let m ← members d type.title v
  build d type m (mk <$> field type m "call_rate" (some none) (optional Measurement.decode d)
    <*> field type m "data_rate" (some none) (optional Measurement.decode d)
    <*> field type m "interval" (some none) (optional Measurement.decode d))

def encode (x : RateLimit) : Value :=
  .map [("call_rate", encodeOption Measurement.encode x.callRate),
    ("data_rate", encodeOption Measurement.encode x.dataRate),
    ("interval", encodeOption Measurement.encode x.interval)]

end RateLimit

namespace Agreement

def type : RecordType :=
  { title := "struct InternalSla",
    fields := ["sla_type", "slos", "penalties", "reporting", "rate_plan", "rate_limits"] }

def decode : Decoder Agreement := fun d v => do
  let m ← members d type.title v
  build d type m (mk <$> required type m "sla_type" (text d)
    <*> field type m "slos" (some []) (listOf QualityObjective.decode d)
    <*> field type m "penalties" (some none) (optional text d)
    <*> field type m "reporting" (some none) (optional text d)
    <*> field type m "rate_plan" (some none) (optional text d)
    <*> field type m "rate_limits" (some []) (listOf RateLimit.decode d))

def encode (x : Agreement) : Value :=
  .map [("sla_type", .text x.kind), ("slos", encodeList QualityObjective.encode x.objectives),
    ("penalties", encodeOption .text x.penalties), ("reporting", encodeOption .text x.reporting),
    ("rate_plan", encodeOption .text x.ratePlan),
    ("rate_limits", encodeList RateLimit.encode x.rateLimits)]

end Agreement

namespace AgreementTemplate

def type : RecordType := { title := "struct SlaTemplate", fields := ["name", "slas"] }

def decode : Decoder AgreementTemplate := fun d v => do
  let m ← members d type.title v
  build d type m (mk <$> required type m "name" (text d)
    <*> field type m "slas" (some []) (listOf Agreement.decode d))

def encode (x : AgreementTemplate) : Value :=
  .map [("name", .text x.name), ("slas", encodeList Agreement.encode x.agreements)]

end AgreementTemplate

end ServiceContract
