import ServiceContract.Codec.Quantity
import ServiceContract.Specification.Reliability

/-!
# The tree form of reliability objectives
-/

namespace ServiceContract

open Codec

namespace CalendarWindow

def type : RecordType :=
  { title := "struct CalendarWindow", fields := ["start_time", "time_zone"] }

def decode : Decoder CalendarWindow := fun d v => do
  let m ← members d type.title v
  build d type m (mk <$> required type m "start_time" (text d)
    <*> required type m "time_zone" (text d))

def encode (x : CalendarWindow) : Value :=
  .map [("start_time", .text x.startTime), ("time_zone", .text x.timeZone)]

end CalendarWindow

namespace TimeWindow

def type : RecordType :=
  { title := "struct TimeWindow", fields := ["duration", "calendar", "rolling"] }

/-- A window is rolling unless it says otherwise. -/
def decode : Decoder TimeWindow := fun d v => do
  let m ← members d type.title v
  build d type m (mk <$> required type m "duration" (Duration.decode d)
    <*> field type m "calendar" (some none) (optional CalendarWindow.decode d)
    <*> field type m "rolling" (some true) (boolean d))

def encode (x : TimeWindow) : Value :=
  .map [("duration", x.duration.encode),
    ("calendar", encodeOption CalendarWindow.encode x.calendar), ("rolling", .bool x.rolling)]

end TimeWindow

namespace MetricSource

def type : RecordType :=
  { title := "struct MetricSource", fields := ["data_source", "source_type", "spec"] }

/-- A query is any value that can be read; in it, too, every key counts once. -/
def decodeQuery : Decoder (Option Value) := optional fun _ v =>
  if v.isReadable then .ok v.unique else .error (.noAlternative "Value")

def decode : Decoder MetricSource := fun d v => do
  let m ← members d type.title v
  build d type m (mk <$> field type m "data_source" (some none) (optional text d)
    <*> field type m "source_type" (some none) (optional text d)
    <*> field type m "spec" (some none) (decodeQuery d))

def encode (x : MetricSource) : Value :=
  .map [("data_source", encodeOption .text x.dataSource),
    ("source_type", encodeOption .text x.kind), ("spec", encodeOption id x.query)]

end MetricSource

namespace Ratio

def variants : List String := ["good_total", "bad_total", "raw"]

def goodTotalType : RecordType :=
  { title := "struct variant RatioShape::GoodTotal", fields := ["good", "total"] }

def badTotalType : RecordType :=
  { title := "struct variant RatioShape::BadTotal", fields := ["bad", "total"] }

def rawType : RecordType :=
  { title := "struct variant RatioShape::Raw", fields := ["raw_type", "raw"] }

def decode : Decoder Ratio := fun d v =>
  choose d variants (selection d v) fun name content =>
    if name = "good_total" then do
      let m ← recordContent d goodTotalType content
      build d goodTotalType m (goodTotal <$> required goodTotalType m "good" (MetricSource.decode d)
        <*> required goodTotalType m "total" (MetricSource.decode d))
    else if name = "bad_total" then do
      let m ← recordContent d badTotalType content
      build d badTotalType m (badTotal <$> required badTotalType m "bad" (MetricSource.decode d)
        <*> required badTotalType m "total" (MetricSource.decode d))
    else do
      let m ← recordContent d rawType content
      build d rawType m (raw <$> field rawType m "raw_type" (some none) (optional text d)
        <*> required rawType m "raw" (MetricSource.decode d))

def encode : Ratio → Value
  | goodTotal good total =>
    .map [("good_total", .map [("good", good.encode), ("total", total.encode)])]
  | badTotal bad total =>
    .map [("bad_total", .map [("bad", bad.encode), ("total", total.encode)])]
  | raw kind source =>
    .map [("raw", .map [("raw_type", encodeOption .text kind), ("raw", source.encode)])]

end Ratio

namespace Metric

def variants : List String := ["ratio", "threshold"]

def ratioType : RecordType := { title := "struct RatioMetric", fields := ["counter", "shape"] }

def thresholdType : RecordType :=
  { title := "struct ThresholdMetric", fields := ["metric_source"] }

def decode : Decoder Metric := fun d v =>
  choose d variants (selection d v) fun name content =>
    if name = "ratio" then
      valueContent (fun v => do
        let m ← members d ratioType.title v
        build d ratioType m (ratio <$> field ratioType m "counter" (some false) (boolean d)
          <*> required ratioType m "shape" (Ratio.decode d))) content
    else
      valueContent (fun v => do
        let m ← members d thresholdType.title v
        build d thresholdType m
          (threshold <$> required thresholdType m "metric_source" (MetricSource.decode d))) content

def encode : Metric → Value
  | ratio counter r =>
    .map [("ratio", .map [("counter", .bool counter), ("shape", r.encode)])]
  | threshold source => .map [("threshold", .map [("metric_source", source.encode)])]

end Metric

namespace Indicator

def type : RecordType :=
  { title := "struct Indicator", fields := ["name", "display_name", "description", "metric"] }

def decode : Decoder Indicator := fun d v => do
  let m ← members d type.title v
  build d type m (mk <$> required type m "name" (text d)
    <*> field type m "display_name" (some none) (optional text d)
    <*> field type m "description" (some none) (optional text d)
    <*> required type m "metric" (Metric.decode d))

def encode (x : Indicator) : Value :=
  .map [("name", .text x.name), ("display_name", encodeOption .text x.displayName),
    ("description", encodeOption .text x.description), ("metric", x.metric.encode)]

end Indicator

namespace IndicatorBinding

def variants : List String := ["built_in", "external"]

def decode : Decoder IndicatorBinding := fun d v =>
  choose d variants (selection d v) fun name content =>
    if name = "built_in" then builtIn <$> valueContent (Indicator.decode d) content
    else external <$> valueContent (text d) content

def encode : IndicatorBinding → Value
  | builtIn i => .map [("built_in", i.encode)]
  | external name => .map [("external", .text name)]

end IndicatorBinding

namespace Target

def variants : List String := ["fraction", "percent"]

def decode : Decoder Target := fun d v =>
  choose d variants (selection d v) fun name content =>
    if name = "fraction" then fraction <$> valueContent (double d) content
    else percent <$> valueContent (double d) content

def encode : Target → Value
  | fraction x => .map [("fraction", .float x)]
  | percent x => .map [("percent", .float x)]

end Target

namespace SliceWindow

def variants : List String := ["duration", "numeric"]

def decode : Decoder SliceWindow := fun d v =>
  choose d variants (selection d v) fun name content =>
    if name = "duration" then duration <$> valueContent (Duration.decode d) content
    else numeric <$> valueContent (Number.decode d) content

def encode : SliceWindow → Value
  | duration x => .map [("duration", x.encode)]
  | numeric n => .map [("numeric", n.encode)]

end SliceWindow

namespace Objective

def type : RecordType :=
  { title := "struct Objective",
    fields := ["display_name", "operator", "value", "target", "time_slice_target",
      "time_slice_window"] }

def decode : Decoder Objective := fun d v => do
  let m ← members d type.title v
  build d type m (mk <$> field type m "display_name" (some none) (optional text d)
    <*> field type m "operator" (some none) (optional text d)
    <*> field type m "value" (some none) (optional Number.decode d)
    <*> required type m "target" (Target.decode d)
    <*> field type m "time_slice_target" (some none) (optional Number.decode d)
    <*> field type m "time_slice_window" (some none) (optional SliceWindow.decode d))

def encode (x : Objective) : Value :=
  .map [("display_name", encodeOption .text x.displayName),
    ("operator", encodeOption .text x.operator), ("value", encodeOption Number.encode x.value),
    ("target", x.target.encode),
    ("time_slice_target", encodeOption Number.encode x.timeSliceTarget),
    ("time_slice_window", encodeOption SliceWindow.encode x.timeSliceWindow)]

end Objective

namespace Trigger

def type : RecordType :=
  { title := "struct Condition",
    fields := ["kind", "operator", "threshold", "lookback_window", "alert_after"] }

def decode : Decoder Trigger := fun d v => do
  let m ← members d type.title v
  build d type m (mk <$> required type m "kind" (text d)
    <*> required type m "operator" (text d)
    <*> required type m "threshold" (Number.decode d)
    <*> required type m "lookback_window" (Duration.decode d)
    <*> required type m "alert_after" (Duration.decode d))

def encode (x : Trigger) : Value :=
  .map [("kind", .text x.kind), ("operator", .text x.operator), ("threshold", x.threshold.encode),
    ("lookback_window", x.lookbackWindow.encode), ("alert_after", x.alertAfter.encode)]

end Trigger

namespace AlertCondition

def type : RecordType :=
  { title := "struct AlertCondition",
    fields := ["name", "display_name", "description", "severity", "condition"] }

def decode : Decoder AlertCondition := fun d v => do
  let m ← members d type.title v
  build d type m (mk <$> required type m "name" (text d)
    <*> field type m "display_name" (some none) (optional text d)
    <*> field type m "description" (some none) (optional text d)
    <*> required type m "severity" (text d)
    <*> required type m "condition" (Trigger.decode d))

def encode (x : AlertCondition) : Value :=
  .map [("name", .text x.name), ("display_name", encodeOption .text x.displayName),
    ("description", encodeOption .text x.description), ("severity", .text x.severity),
    ("condition", x.trigger.encode)]

end AlertCondition

namespace AlertPolicy

def type : RecordType :=
  { title := "struct AlertPolicy",
    fields := ["name", "display_name", "description", "alert_when_no_data", "alert_when_resolved",
      "alert_when_breaching", "conditions", "notification_targets"] }

def decode : Decoder AlertPolicy := fun d v => do
  let m ← members d type.title v
  build d type m (mk <$> required type m "name" (text d)
    <*> field type m "display_name" (some none) (optional text d)
    <*> field type m "description" (some none) (optional text d)
    <*> field type m "alert_when_no_data" (some false) (boolean d)
    <*> field type m "alert_when_resolved" (some false) (boolean d)
    <*> field type m "alert_when_breaching" (some false) (boolean d)
    <*> field type m "conditions" (some []) (listOf AlertCondition.decode d)
    <*> field type m "notification_targets" (some []) (listOf text d))

def encode (x : AlertPolicy) : Value :=
  .map [("name", .text x.name), ("display_name", encodeOption .text x.displayName),
    ("description", encodeOption .text x.description),
    ("alert_when_no_data", .bool x.alertWhenNoData),
    ("alert_when_resolved", .bool x.alertWhenResolved),
    ("alert_when_breaching", .bool x.alertWhenBreaching),
    ("conditions", encodeList AlertCondition.encode x.conditions),
    ("notification_targets", encodeList .text x.targets)]

end AlertPolicy

namespace NotificationTarget

def type : RecordType :=
  { title := "struct NotificationTarget",
    fields := ["name", "display_name", "description", "target"] }

def decode : Decoder NotificationTarget := fun d v => do
  let m ← members d type.title v
  build d type m (mk <$> required type m "name" (text d)
    <*> field type m "display_name" (some none) (optional text d)
    <*> field type m "description" (some none) (optional text d)
    <*> required type m "target" (text d))

def encode (x : NotificationTarget) : Value :=
  .map [("name", .text x.name), ("display_name", encodeOption .text x.displayName),
    ("description", encodeOption .text x.description), ("target", .text x.target)]

end NotificationTarget

namespace DataSource

def type : RecordType :=
  { title := "struct DataSource",
    fields := ["name", "display_name", "description", "source_type", "url"] }

def decode : Decoder DataSource := fun d v => do
  let m ← members d type.title v
  build d type m (mk <$> required type m "name" (text d)
    <*> field type m "display_name" (some none) (optional text d)
    <*> field type m "description" (some none) (optional text d)
    <*> required type m "source_type" (text d)
    <*> required type m "url" (text d))

def encode (x : DataSource) : Value :=
  .map [("name", .text x.name), ("display_name", encodeOption .text x.displayName),
    ("description", encodeOption .text x.description), ("source_type", .text x.kind),
    ("url", .text x.url)]

end DataSource

namespace Service

def type : RecordType :=
  { title := "struct Service", fields := ["name", "display_name", "description"] }

def decode : Decoder Service := fun d v => do
  let m ← members d type.title v
  build d type m (mk <$> required type m "name" (text d)
    <*> field type m "display_name" (some none) (optional text d)
    <*> field type m "description" (some none) (optional text d))

def encode (x : Service) : Value :=
  .map [("name", .text x.name), ("display_name", encodeOption .text x.displayName),
    ("description", encodeOption .text x.description)]

end Service

namespace ObjectiveTemplate

def type : RecordType :=
  { title := "struct SloTemplate",
    fields := ["name", "display_name", "description", "service", "indicator", "time_window",
      "budgeting_method", "objectives", "external_alert_policies", "built_in_alert_policies"] }

def decode : Decoder ObjectiveTemplate := fun d v => do
  let m ← members d type.title v
  build d type m (mk <$> required type m "name" (text d)
    <*> field type m "display_name" (some none) (optional text d)
    <*> field type m "description" (some none) (optional text d)
    <*> required type m "service" (text d)
    <*> required type m "indicator" (IndicatorBinding.decode d)
    <*> required type m "time_window" (TimeWindow.decode d)
    <*> required type m "budgeting_method" (text d)
    <*> field type m "objectives" (some []) (listOf Objective.decode d)
    <*> field type m "external_alert_policies" (some []) (listOf text d)
    <*> field type m "built_in_alert_policies" (some []) (listOf AlertPolicy.decode d))

def encode (x : ObjectiveTemplate) : Value :=
  .map [("name", .text x.name), ("display_name", encodeOption .text x.displayName),
    ("description", encodeOption .text x.description), ("service", .text x.service),
    ("indicator", x.indicator.encode), ("time_window", x.timeWindow.encode),
    ("budgeting_method", .text x.budgetingMethod),
    ("objectives", encodeList Objective.encode x.objectives),
    ("external_alert_policies", encodeList .text x.externalPolicies),
    ("built_in_alert_policies", encodeList AlertPolicy.encode x.builtInPolicies)]

end ObjectiveTemplate

end ServiceContract
