import Alerting.Monitor.Form
import Alerting.Trigger.Basic
import Alerting.Trigger.Sidecar

/-!
# Storing triggers

A trigger form compiles to a stored trigger for the monitor that it belongs to
(`TriggerForm.toTrigger`), and to what is kept beside it (`TriggerForm.sidecar`).
-/

namespace Alerting

/-! ### Scripts of query triggers -/

/-- The number of hits in scripts. -/
def hitsPath : String := "ctx.results[0].hits.total.value"

/-- The first hit in scripts. -/
def firstHitPath : String := "ctx.results[0].hits.hits[0]._source"

/-- An aggregation in scripts. -/
def aggregationPath (name : String) : String := "ctx.results[0].aggregations." ++ name

namespace Aggregation

/-- What a threshold is compared with in scripts: the hits for a count, and else the metric. -/
def resultPath : Aggregation → String
  | .count => hitsPath
  | _ => aggregationPath metricName ++ ".value"

end Aggregation

namespace Threshold

/-- The comparison of a path with a threshold. -/
def compare (t : Threshold) (path : String) : String :=
  path ++ " " ++ t.comparison.token ++ " " ++ String.ofList t.value.scriptText

/-- The script of a graph trigger.  A metric of no documents has no value and does not fire. -/
def graphSource (t : Threshold) (a : Aggregation) : String :=
  let path := a.resultPath
  match a with
  | .count => t.compare path
  | _ => "return " ++ path ++ " == null ? false : " ++ t.compare path

end Threshold

namespace AnomalyThresholds

/-- What has to be there before the thresholds of an anomaly can be compared. -/
def guards : List String :=
  let grade := aggregationPath gradeName
  ["ctx.results != null",
    "ctx.results.length > 0",
    "ctx.results[0].aggregations != null",
    grade ++ " != null",
    hitsPath ++ " > 0",
    firstHitPath ++ " != null",
    firstHitPath ++ ".detector_id != null",
    grade ++ ".value != null"]

/-- The script of an anomaly trigger: both thresholds are met. -/
def source (a : AnomalyThresholds) : String :=
  let checks := [a.grade.compare (aggregationPath gradeName ++ ".value"),
    a.confidence.compare (firstHitPath ++ ".confidence")]
  "return " ++ " && ".intercalate (guards ++ checks)

end AnomalyThresholds

namespace TriggerForm

/-- The script of a query trigger: written by hand, or compiled from thresholds. -/
def queryScript (t : TriggerForm) (s : Search) (config : Config) : Script :=
  match s.kind with
  | .query => t.script
  | .anomaly => { lang := config.scriptLang, source := t.anomaly.source }
  | .graph => { lang := config.scriptLang, source := t.threshold.graphSource s.aggregation }

/-! ### Selectors of bucket triggers -/

/-- The selector of the conditions in the form. -/
def toSelector (t : TriggerForm) (config : Config) : Compile BucketSelector := do
  let chain ← Chain.ofConditions t.conditions
  BucketSelector.ofChain chain t.filter config

/-- The condition of a trigger for its monitor. -/
def condition (t : TriggerForm) (m : MonitorForm) (config : Config) : Compile TriggerCondition :=
  match m.kind, m.search.kind with
  | .queryLevel, _ => .ok (.query (t.queryScript m.search config))
  | .bucketLevel, .query => (BucketSelector.parse t.selector).map .bucket
  | .bucketLevel, _ => (t.toSelector config).map .bucket

/-! ### Triggers -/

/-- The stored trigger of a form, for its monitor. -/
def toTrigger (t : TriggerForm) (m : MonitorForm) (config : Config) : Compile Trigger := do
  let condition ← t.condition m config
  return {
    id := t.id
    name := t.name
    severity := t.severity
    condition := condition
    actions := t.actions }

/-- Whether the conditions of the triggers of a monitor are picked in the form. -/
def hasPickedConditions (m : MonitorForm) : Bool :=
  m.kind = .bucketLevel && m.search.kind ≠ .query

/-- What is kept beside the trigger of a form. -/
def sidecar (t : TriggerForm) (m : MonitorForm) : TriggerSidecar :=
  { threshold := t.threshold
    anomaly := if m.search.kind = .anomaly then some ⟨t.anomaly⟩ else none
    conditions := if hasPickedConditions m then some t.conditions else none
    filter := if hasPickedConditions m then some t.filter else none }

end TriggerForm

end Alerting
