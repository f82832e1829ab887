import ServiceContract.Specification.Agreement
import ServiceContract.Text.Blank
import ServiceContract.Text.Removal
import ServiceContract.Value

/-!
# The agreement document

All agreement templates of a service in one document.
-/

namespace ServiceContract

def Agreement.fileName (baseName : String) : String := baseName ++ "-sla.yaml"

inductive RateLimitKind where
  | maxCalls
  | dataQuota
  | none
deriving DecidableEq

def RateLimitKind.label : RateLimitKind → String
  | maxCalls => "MAX_CALLS"
  | dataQuota => "DATA_QUOTA"
  | none => "NONE"

namespace RateLimit

/-- A limit on calls counts before a limit on data. -/
def kind (l : RateLimit) : RateLimitKind :=
  if l.callRate.isSome then .maxCalls else if l.dataRate.isSome then .dataQuota else .none

def bound (l : RateLimit) : Option Measurement := l.callRate.or l.dataRate

end RateLimit

/-- The name of a rate plan: its text without the words `rate plan`. -/
def ratePlanLabel (raw : String) : String :=
  String.ofList (Text.trimmed (Text.remove "rate plan".toList raw.toList))

def Measurement.render (m : Measurement) : Value :=
  .record [("value", some m.value.toValue), ("unit", m.unit.map .text)]

def LandingZone.render (z : LandingZone) : Value :=
  .record [("minimal", some z.minimal.render), ("target", some z.target.render),
    ("optional", z.best.map Measurement.render)]

def Promise.render : Promise → Value
  | simple m => m.render
  | landingZone z => z.render

def QualityObjective.render (o : QualityObjective) : Value :=
  .record [("name", some (.text o.name)), ("qualityGoal", some (.text o.goal)),
    ("measurement", some o.promise.render)]

def RateLimit.render (l : RateLimit) : Value :=
  .record [("rateLimit", some (.text l.kind.label)),
    ("measurement", l.bound.map Measurement.render),
    ("interval", l.interval.map Measurement.render)]

def Agreement.render (a : Agreement) : Value :=
  .record [("type", some (.text a.kind)),
    ("slos", some (.list (a.objectives.map QualityObjective.render))),
    ("penalty", a.penalties.map .text), ("notification", a.reporting.map .text),
    ("ratePlan", a.ratePlan.map fun raw => .text (ratePlanLabel raw)),
    ("rate limits", if a.rateLimits.isEmpty then none
      else some (.list (a.rateLimits.map RateLimit.render)))]

def AgreementTemplate.render (t : AgreementTemplate) : Value :=
  .record [("name", some (.text t.name)),
    ("slas", some (.list (t.agreements.map Agreement.render)))]

def Agreement.document (templates : List AgreementTemplate) : Value :=
  .map [("sla-doc-version", .text "1.0"),
    ("sla-templates", .list (templates.map AgreementTemplate.render))]

end ServiceContract
