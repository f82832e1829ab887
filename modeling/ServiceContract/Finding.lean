import ServiceContract.Configuration
import ServiceContract.Specification
import ServiceContract.Url

/-!
# Findings

What a specification could do better. Findings stand in the order of the declarations they are
about: templates of objectives first, with what is defined in them, then indicators, alert policies,
notification targets and data sources.
-/

namespace ServiceContract

inductive FindingCode where
  | fieldTooLong
  | invalidUrl
  | wrongProtocol
  | notSetCorrectly
  | notNecessary
  | missingAttribute
deriving DecidableEq

def FindingCode.label : FindingCode → String
  | fieldTooLong => "FIELD_TOO_LONG"
  | invalidUrl => "INVALID_URL"
  | wrongProtocol => "WRONG_PROTOCOL"
  | notSetCorrectly => "NOT_SET_CORRECTLY"
  | notNecessary => "NOT_NECESSARY"
  | missingAttribute => "MISSING_ATTRIBUTE"

/-- A remark on one part of a specification; the subject is the path to it. -/
structure Finding where
  code : FindingCode
  subject : String
  message : String
deriving DecidableEq

namespace Finding

def line (f : Finding) : String := f.code.label ++ " " ++ f.subject ++ ": " ++ f.message

def encode (f : Finding) : Value :=
  .map [("code", .text f.code.label), ("subject", .text f.subject), ("message", .text f.message)]

end Finding

/-- A finding, if there is reason for it. -/
def findingIf (condition : Bool) (code : FindingCode) (subject message : String) : List Finding :=
  if condition then [⟨code, subject, message⟩] else []

namespace FindingSettings

variable (s : FindingSettings)

/-- The finding on a name that is too long. -/
def name (subject name : String) : List Finding :=
  findingIf (s.maxNameLength < name.length) .fieldTooLong (subject ++ ".name")
    ("name exceeds " ++ toString s.maxNameLength ++ " characters")

/-- The finding on a description that is too long. -/
def description (subject : String) (description : Option String) : List Finding :=
  findingIf (description.any fun d => s.maxDescriptionLength < d.length) .fieldTooLong
    (subject ++ ".description")
    ("description exceeds " ++ toString s.maxDescriptionLength ++ " characters")

def named (subject name : String) (description : Option String) : List Finding :=
  s.name subject name ++ s.description subject description

end FindingSettings

/-- Whether a metric has a raw ratio without a type. -/
def Metric.lacksType : Metric → Bool
  | ratio _ (.raw none _) => true
  | _ => false

def Indicator.findings (s : FindingSettings) (subject : String) (i : Indicator) : List Finding :=
  s.name subject i.name ++
    findingIf i.metric.lacksType .missingAttribute (subject ++ ".metric.raw_type")
      "raw ratio metric requires a raw type"

def AlertPolicy.findings (s : FindingSettings) (subject : String) (p : AlertPolicy) :
    List Finding :=
  s.named subject p.name p.description ++ p.conditions.flatMap fun c =>
    s.named (subject ++ ".conditions." ++ c.name) c.name c.description

/-- The finding on a target that is no share. -/
def Target.findings (subject : String) : Target → List Finding
  | fraction x =>
    findingIf (!x.isWithin 1) .notSetCorrectly (subject ++ ".target")
      ("target " ++ String.ofList x.text ++ " must be within [0.0, 1.0)")
  | percent x =>
    findingIf (!x.isWithin 100) .notSetCorrectly (subject ++ ".target_percent")
      ("target percent " ++ String.ofList x.text ++ " must be within [0.0, 100.0)")

/-- The findings on an objective. Only thresholds are compared with an operator. -/
def Objective.findings (subject : String) (isThreshold : Bool) (o : Objective) : List Finding :=
  o.target.findings subject ++
    findingIf (!isThreshold && o.operator.isSome) .notNecessary (subject ++ ".operator")
      "comparison operator only applies to threshold metrics"

/-- The finding on a time window that neither follows the calendar nor rolls. -/
def TimeWindow.findings (subject : String) (w : TimeWindow) : List Finding :=
  findingIf (w.calendar.isNone && !w.rolling) .notSetCorrectly (subject ++ ".time_window")
    "time window without calendar must be rolling"

/-- The indicator that a binding stands for; of several declarations of a name the first one
counts. -/
def IndicatorBinding.resolve? (declared : List Indicator) : IndicatorBinding → Option Indicator
  | builtIn i => some i
  | external name => declared.find? (·.name = name)

/-- The findings on an indicator that is defined in a template. -/
def IndicatorBinding.findings (s : FindingSettings) (subject : String) :
    IndicatorBinding → List Finding
  | builtIn i => i.findings s (subject ++ ".indicator")
  | external _ => []

def ObjectiveTemplate.findings (s : FindingSettings) (declared : List Indicator)
    (t : ObjectiveTemplate) : List Finding :=
  let subject := "slo_templates." ++ t.name
  let isThreshold := (t.indicator.resolve? declared).any (·.metric.isThreshold)
  s.named subject t.name t.description ++ t.timeWindow.findings subject ++
    t.indicator.findings s subject ++
    (t.objectives.zipIdx.flatMap fun (o, i) =>
      o.findings (subject ++ ".objectives[" ++ toString i ++ "]") isThreshold) ++
    t.builtInPolicies.flatMap fun p => p.findings s (subject ++ ".alert_policies." ++ p.name)

/-- The findings on the URL of a data source. Schemes are compared without regard to case. -/
def DataSource.urlFindings (s : FindingSettings) (subject : String) (d : DataSource) :
    List Finding :=
  match Url.scheme d.url with
  | .error fault =>
    [⟨.invalidUrl, subject ++ ".url", "invalid url " ++ d.url ++ ": " ++ fault.message⟩]
  | .ok scheme =>
    findingIf (!s.allowedSchemes.any fun a => a.map Char.toLower = scheme) .wrongProtocol
      (subject ++ ".url")
      ("scheme " ++ scheme ++ " is not one of " ++ ", ".intercalate s.allowedSchemes)

def DataSource.findings (s : FindingSettings) (d : DataSource) : List Finding :=
  let subject := "data_sources." ++ d.name
  s.named subject d.name d.description ++ d.urlFindings s subject

def Specification.findings (s : FindingSettings) (spec : Specification) : List Finding :=
  spec.objectiveTemplates.flatMap (·.findings s spec.indicators) ++
    (spec.indicators.flatMap fun i => i.findings s ("indicators." ++ i.name)) ++
    (spec.alertPolicies.flatMap fun p => p.findings s ("alert_policies." ++ p.name)) ++
    (spec.notificationTargets.flatMap fun t =>
      s.named ("notification_targets." ++ t.name) t.name t.description) ++
    spec.dataSources.flatMap (·.findings s)

end ServiceContract
