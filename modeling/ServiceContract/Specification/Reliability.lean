import ServiceContract.Specification.Quantity

/-!
# Reliability objectives

Templates of service level objectives, with the indicators that measure them and the alerts that
guard them.
-/

namespace ServiceContract

open Numeral

/-- A window that follows the calendar. -/
structure CalendarWindow where
  startTime : String
  timeZone : String
deriving DecidableEq

/-- The time an objective is judged over. -/
structure TimeWindow where
  duration : Duration
  calendar : Option CalendarWindow
  rolling : Bool
deriving DecidableEq

/-- Where a metric is read from; `query` is any value. -/
structure MetricSource where
  dataSource : Option String
  kind : Option String
  query : Option Value
deriving DecidableEq

inductive Ratio where
  | goodTotal (good total : MetricSource)
  | badTotal (bad total : MetricSource)
  | raw (kind : Option String) (source : MetricSource)
deriving DecidableEq

/-- The sources of a ratio, in order. -/
def Ratio.sources : Ratio → List MetricSource
  | goodTotal good total => [good, total]
  | badTotal bad total => [bad, total]
  | raw _ source => [source]

/-- How an indicator measures. -/
inductive Metric where
  | ratio (counter : Bool) (ratio : Ratio)
  | threshold (source : MetricSource)
deriving DecidableEq

namespace Metric

/-- Whether a metric compares with a threshold. -/
def isThreshold : Metric → Bool
  | threshold _ => true
  | ratio .. => false

/-- The sources of a metric, in order. -/
def sources : Metric → List MetricSource
  | ratio _ r => r.sources
  | threshold source => [source]

end Metric

structure Indicator where
  name : String
  displayName : Option String
  description : Option String
  metric : Metric
deriving DecidableEq

/-- The indicator of a template: defined in it, or named. -/
inductive IndicatorBinding where
  | builtIn (indicator : Indicator)
  | external (name : String)
deriving DecidableEq

/-- The share of good events that is aimed at. -/
inductive Target where
  | fraction (x : Double)
  | percent (x : Double)
deriving DecidableEq

/-- The width of a time slice. -/
inductive SliceWindow where
  | duration (d : Duration)
  | numeric (n : Number)
deriving DecidableEq

structure Objective where
  displayName : Option String
  operator : Option String
  value : Option Number
  target : Target
  timeSliceTarget : Option Number
  timeSliceWindow : Option SliceWindow
deriving DecidableEq

/-- When an alert fires. -/
structure Trigger where
  kind : String
  operator : String
  threshold : Number
  lookbackWindow : Duration
  alertAfter : Duration
deriving DecidableEq

structure AlertCondition where
  name : String
  displayName : Option String
  description : Option String
  severity : String
  trigger : Trigger
deriving DecidableEq

structure AlertPolicy where
  name : String
  displayName : Option String
  description : Option String
  alertWhenNoData : Bool
  alertWhenResolved : Bool
  alertWhenBreaching : Bool
  conditions : List AlertCondition
  targets : List String
deriving DecidableEq

structure NotificationTarget where
  name : String
  displayName : Option String
  description : Option String
  target : String
deriving DecidableEq

structure DataSource where
  name : String
  displayName : Option String
  description : Option String
  kind : String
  url : String
deriving DecidableEq

/-- A service that objectives are stated for. -/
structure Service where
  name : String
  displayName : Option String
  description : Option String
deriving DecidableEq

structure ObjectiveTemplate where
  name : String
  displayName : Option String
  description : Option String
  service : String
  indicator : IndicatorBinding
  timeWindow : TimeWindow
  budgetingMethod : String
  objectives : List Objective
  externalPolicies : List String
  builtInPolicies : List AlertPolicy
deriving DecidableEq

end ServiceContract
