import ServiceContract.Codec.Record
import ServiceContract.Configuration

/-!
# The tree form of settings

Settings are closed records: a key that is no field is refused.
-/

namespace ServiceContract

open Codec

/-- A count of at most 64 bits. -/
def Codec.count : Decoder Nat := fun _ v =>
  match v with
  | .int n =>
    if Numeral.isUnsigned 64 n then .ok n.toNat
    else if Numeral.isSigned 64 n then .error (.wrongValue v "usize")
    else .error (.wrongType v "usize")
  | v => .error (.wrongType v "usize")

def Codec.path : Decoder String := fun _ v =>
  match v with
  | .text s => .ok s
  | v => .error (.wrongType v "path string")

def ThresholdObjectives.names : List (String × ThresholdObjectives) :=
  [("placeholder", placeholder), ("full", full)]

def ThresholdObjectives.decode : Decoder ThresholdObjectives := keyword names

def ThresholdObjectives.encode : ThresholdObjectives → Value
  | placeholder => .text "placeholder"
  | full => .text "full"

namespace OutputSettings

def type : RecordType :=
  { title := "struct OutputConfig", fields := ["dir", "base_name"], closed := true }

def decode : Decoder OutputSettings := fun d v => do
  let m ← members d type.title v
  let default : OutputSettings := {}
  build d type m (mk <$> field type m "dir" (some default.directory) (path d)
    <*> field type m "base_name" (some none) (optional text d))

def encode (s : OutputSettings) : Value :=
  .map [("dir", .text s.directory), ("base_name", encodeOption .text s.baseName)]

end OutputSettings

namespace FindingSettings

def type : RecordType :=
  { title := "struct ValidationConfig",
    fields := ["max_name_length", "max_description_length", "allowed_url_schemes",
      "fail_on_findings"],
    closed := true }

def decode : Decoder FindingSettings := fun d v => do
  let m ← members d type.title v
  let default : FindingSettings := {}
  build d type m (mk <$> field type m "max_name_length" (some default.maxNameLength) (count d)
    <*> field type m "max_description_length" (some default.maxDescriptionLength) (count d)
    <*> field type m "allowed_url_schemes" (some default.allowedSchemes) (listOf text d)
    <*> field type m "fail_on_findings" (some default.failOnFindings) (boolean d))

def encode (s : FindingSettings) : Value :=
  .map [("max_name_length", .int s.maxNameLength),
    ("max_description_length", .int s.maxDescriptionLength),
    ("allowed_url_schemes", encodeList .text s.allowedSchemes),
    ("fail_on_findings", .bool s.failOnFindings)]

end FindingSettings

namespace ContractSettings

def type : RecordType :=
  { title := "struct OpenApiConfig", fields := ["default_version", "run_validator"],
    closed := true }

def decode : Decoder ContractSettings := fun d v => do
  let m ← members d type.title v
  let default : ContractSettings := {}
  build d type m (mk <$> field type m "default_version" (some default.defaultVersion) (text d)
    <*> field type m "run_validator" (some default.runValidator) (boolean d))

def encode (s : ContractSettings) : Value :=
  .map [("default_version", .text s.defaultVersion), ("run_validator", .bool s.runValidator)]

end ContractSettings

namespace ReliabilitySettings

def type : RecordType :=
  { title := "struct OpenSloConfig", fields := ["threshold_objectives"], closed := true }

def decode : Decoder ReliabilitySettings := fun d v => do
  let m ← members d type.title v
  build d type m (mk <$> field type m "threshold_objectives" (some .placeholder)
    (ThresholdObjectives.decode d))

def encode (s : ReliabilitySettings) : Value :=
  .map [("threshold_objectives", s.thresholdObjectives.encode)]

end ReliabilitySettings

namespace LoggingSettings

def type : RecordType :=
  { title := "struct LoggingConfig", fields := ["level"], closed := true }

def decode : Decoder LoggingSettings := fun d v => do
  let m ← members d type.title v
  let default : LoggingSettings := {}
  build d type m (mk <$> field type m "level" (some default.level) (text d))

def encode (s : LoggingSettings) : Value := .map [("level", .text s.level)]

end LoggingSettings

namespace Configuration

def type : RecordType :=
  { title := "struct GeneratorConfig",
    fields := ["output", "validation", "openapi", "openslo", "logging"],
    closed := true }

def decode : Decoder Configuration := fun d v => do
  let m ← members d type.title v
  build d type m (mk <$> field type m "output" (some {}) (OutputSettings.decode d)
    <*> field type m "validation" (some {}) (FindingSettings.decode d)
    <*> field type m "openapi" (some {}) (ContractSettings.decode d)
    <*> field type m "openslo" (some {}) (ReliabilitySettings.decode d)
    <*> field type m "logging" (some {}) (LoggingSettings.decode d))

def encode (c : Configuration) : Value :=
  .map [("output", c.output.encode), ("validation", c.validation.encode),
    ("openapi", c.contract.encode), ("openslo", c.reliability.encode),
    ("logging", c.logging.encode)]

end Configuration

end ServiceContract
