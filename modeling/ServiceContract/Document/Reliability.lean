import ServiceContract.Document.Bundle
import ServiceContract.Error
import ServiceContract.Specification

/-!
# Reliability bundles

Every template becomes a bundle that is complete in itself: the objective, the indicator unless it
is written into the objective, and everything that these refer to.
-/

namespace ServiceContract

/-- What is written for the objectives of a threshold metric. -/
inductive ThresholdObjectives where
  | placeholder
  | full
deriving DecidableEq

structure ReliabilityBundle where
  fileName : String
  template : String
  documents : List Value
deriving DecidableEq

def ReliabilityBundle.text (b : ReliabilityBundle) : String := bundle b.documents

/-- The names that documents are known by. -/
def metadata (name : String) (displayName : Option String) : Value :=
  .record [("name", some (.text name)), ("displayName", displayName.map .text)]

namespace Reliability

/-- What stands between the base name and the template in the name of a bundle file. -/
def fileMark : String := "-openslo-"

/-- How the name of a bundle file ends. -/
def fileEnding : String := ".yaml"

def fileName (baseName template : String) : String := baseName ++ fileMark ++ template ++ fileEnding

/-- The version every document states. -/
def apiVersion : Value := .text "openslo/v1"

def kindDocument (kind name : String) (displayName : Option String) (spec : Value) : Value :=
  .map [("apiVersion", apiVersion), ("kind", .text kind), ("metadata", metadata name displayName),
    ("spec", spec)]

def metricSource (s : MetricSource) : Value :=
  .record [("metricSourceRef", s.dataSource.map .text), ("type", s.kind.map .text),
    ("spec", s.query)]

/-- A metric source under its own key. -/
def wrappedSource (s : MetricSource) : Value := .map [("metricSource", metricSource s)]

def ratioMembers : Ratio → List (String × Option Value)
  | .goodTotal good total =>
    [("good", some (wrappedSource good)), ("total", some (wrappedSource total))]
  | .badTotal bad total =>
    [("bad", some (wrappedSource bad)), ("total", some (wrappedSource total))]
  | .raw kind source => [("rawType", kind.map .text), ("raw", some (wrappedSource source))]

def metricMember : Metric → String × Option Value
  | .threshold source => ("thresholdMetric", some (wrappedSource source))
  | .ratio counter r =>
    ("ratioMetric", some (.record (("counter", some (.bool counter)) :: ratioMembers r)))

/-- The members of an indicator: its metadata and what it measures. -/
def indicatorMembers (i : Indicator) : List (String × Value) :=
  [("metadata", metadata i.name i.displayName),
    ("spec", .record [("description", i.description.map .text), metricMember i.metric])]

/-- An indicator that is written into an objective. -/
def inlineIndicator (i : Indicator) : Value := .map (indicatorMembers i)

def indicatorDocument (i : Indicator) : Value :=
  .map (("apiVersion", apiVersion) :: ("kind", .text "SLI") :: indicatorMembers i)

def calendar (c : CalendarWindow) : Value :=
  .map [("startTime", .text c.startTime), ("timeZone", .text c.timeZone)]

/-- A time window is rolling unless it follows the calendar. -/
def timeWindow (w : TimeWindow) : Value :=
  .record [("duration", some (.text w.duration.shorthand)), ("calendar", w.calendar.map calendar),
    ("isRolling", some (.bool w.calendar.isNone))]

/-- The width of a time slice. -/
def sliceWindow : SliceWindow → Value
  | .duration d => .text d.shorthand
  | .numeric n => n.toValue

/-- A double in a document; a document has no infinities. -/
def doubleValue (x : Numeral.Double) : Value :=
  match x.toFinite? with
  | some _ => .float x
  | none => .null

def targetMember : Target → String × Option Value
  | .fraction x => ("target", some (doubleValue x))
  | .percent x => ("targetPercent", some (doubleValue x))

/-- An objective. Operator and value belong to a threshold; time slices belong to two of the
budgeting methods. -/
def objective (threshold : Bool) (budgetingMethod : String) (o : Objective) : Value :=
  let sliced := budgetingMethod = "Timeslices"
  let windowed := sliced ∨ budgetingMethod = "RatioTimeslices"
  .record [("op", if threshold then o.operator.map .text else none),
    ("value", if threshold then o.value.map Number.toValue else none),
    ("displayName", o.displayName.map .text), targetMember o.target,
    ("timeSliceTarget", if sliced then o.timeSliceTarget.map Number.toValue else none),
    ("timeSliceWindow", if windowed then o.timeSliceWindow.map sliceWindow else none)]

def objectives (mode : ThresholdObjectives) (t : ObjectiveTemplate) (i : Indicator) : List Value :=
  if i.metric.isThreshold && mode = .placeholder then [.map []]
  else t.objectives.map (objective i.metric.isThreshold t.budgetingMethod)

/-- The key and the value of the indicator of a template. -/
def bindingMember : IndicatorBinding → String × Option Value
  | .builtIn i => ("indicator", some (inlineIndicator i))
  | .external name => ("indicatorRef", some (.text name))

def objectiveDocument (mode : ThresholdObjectives) (t : ObjectiveTemplate) (i : Indicator)
    (policies : List AlertPolicy) : Value :=
  kindDocument "SLO" t.name t.displayName (.record [("description", t.description.map .text),
    ("service", some (.text t.service)), bindingMember t.indicator,
    ("timeWindow", some (timeWindow t.timeWindow)),
    ("budgetingMethod", some (.text t.budgetingMethod)),
    ("objectives", some (.list (objectives mode t i))),
    ("alertPolicies", some (.list (policies.map fun p => .text p.name)))])

/-- When an alert fires. -/
def trigger (c : Trigger) : Value :=
  .map [("kind", .text c.kind), ("op", .text c.operator), ("threshold", c.threshold.toValue),
    ("lookbackWindow", .text c.lookbackWindow.shorthand),
    ("alertAfter", .text c.alertAfter.shorthand)]

def alertCondition (c : AlertCondition) : Value :=
  .map [("kind", .text "AlertCondition"), ("metadata", metadata c.name c.displayName),
    ("spec", .record [("description", c.description.map .text),
      ("severity", some (.text c.severity)), ("condition", some (trigger c.trigger))])]

def policyDocument (p : AlertPolicy) : Value :=
  kindDocument "AlertPolicy" p.name p.displayName (.record [
    ("description", p.description.map .text),
    ("alertWhenNoData", some (.bool p.alertWhenNoData)),
    ("alertWhenResolved", some (.bool p.alertWhenResolved)),
    ("alertWhenBreaching", some (.bool p.alertWhenBreaching)),
    ("conditions", some (.list (p.conditions.map alertCondition))),
    ("notificationTargets", some (.list (p.targets.map fun name =>
      .map [("targetRef", .text name)])))])

def targetDocument (t : NotificationTarget) : Value :=
  kindDocument "AlertNotificationTarget" t.name t.displayName
    (.record [("target", some (.text t.target)), ("description", t.description.map .text)])

def serviceDocument (s : Service) : Value :=
  kindDocument "Service" s.name s.displayName (.record [("description", s.description.map .text)])

def dataSourceDocument (s : DataSource) : Value :=
  kindDocument "DataSource" s.name s.displayName (.record [("description", s.description.map .text),
    ("type", some (.text s.kind)),
    ("connectionDetails", some (.map [("url", .text s.url)]))])

def find {α : Type} (nameOf : α → String) (kind : ReferenceKind) (items : List α) (name : String) :
    Except GenerationError α :=
  match items.find? fun a => nameOf a = name with
  | some a => .ok a
  | none => .error (.unresolvedReference kind name)

/-- Finds every name, in order. -/
def findAll {α : Type} (nameOf : α → String) (kind : ReferenceKind) (items : List α) :
    List String → Except GenerationError (List α)
  | [] => return []
  | name :: rest => do
    let a ← find nameOf kind items name
    return a :: (← findAll nameOf kind items rest)

/-- The first item under every key, in order; keys in `seen` are left out. -/
def distinctBy {α : Type} (key : α → String) : (seen : List String) → List α → List α
  | _, [] => []
  | seen, a :: rest =>
    if seen.contains (key a) then distinctBy key seen rest
    else a :: distinctBy key (key a :: seen) rest

def indicatorOf (s : Specification) (t : ObjectiveTemplate) : Except GenerationError Indicator :=
  match t.indicator with
  | .builtIn i => .ok i
  | .external name => find Indicator.name .indicator s.indicators name

/-- The alert policies of a template: the named ones before its own, each name once. -/
def policiesOf (s : Specification) (t : ObjectiveTemplate) :
    Except GenerationError (List AlertPolicy) := do
  let named ← findAll AlertPolicy.name .alertPolicy s.alertPolicies t.externalPolicies
  return distinctBy AlertPolicy.name [] (named ++ t.builtInPolicies)

/-- The notification targets of policies, each once. -/
def targetsOf (s : Specification) (policies : List AlertPolicy) :
    Except GenerationError (List NotificationTarget) :=
  findAll NotificationTarget.name .notificationTarget s.notificationTargets
    (distinctBy id [] (policies.flatMap AlertPolicy.targets))

/-- The data sources of an indicator, each once. -/
def dataSourcesOf (s : Specification) (i : Indicator) : Except GenerationError (List DataSource) :=
  findAll DataSource.name .dataSource s.dataSources
    (distinctBy id [] (i.metric.sources.filterMap MetricSource.dataSource))

def serviceOf (s : Specification) (t : ObjectiveTemplate) : Except GenerationError Service :=
  find Service.name .service s.services t.service

def renderTemplate (mode : ThresholdObjectives) (s : Specification) (baseName : String)
    (t : ObjectiveTemplate) : Except GenerationError ReliabilityBundle := do
  let indicator ← indicatorOf s t
  let policies ← policiesOf s t
  let targets ← targetsOf s policies
  let service ← serviceOf s t
  let dataSources ← dataSourcesOf s indicator
  let own := match t.indicator with
    | .builtIn _ => []
    | .external _ => [indicatorDocument indicator]
  return {
    fileName := fileName baseName t.name
    template := t.name
    documents := objectiveDocument mode t indicator policies :: own ++
      policies.map policyDocument ++ targets.map targetDocument ++ [serviceDocument service] ++
      dataSources.map dataSourceDocument }

/-- The bundles of templates, in order. -/
def renderTemplates (mode : ThresholdObjectives) (s : Specification) (baseName : String) :
    List ObjectiveTemplate → Except GenerationError (List ReliabilityBundle)
  | [] => return []
  | t :: rest => do
    let bundle ← renderTemplate mode s baseName t
    return bundle :: (← renderTemplates mode s baseName rest)

/-- The bundles of all templates; there has to be one. -/
def render (mode : ThresholdObjectives) (s : Specification) (baseName : String) :
    Except GenerationError (List ReliabilityBundle) :=
  if s.objectiveTemplates.isEmpty then .error .missingTemplates
  else renderTemplates mode s baseName s.objectiveTemplates

end Reliability

end ServiceContract
