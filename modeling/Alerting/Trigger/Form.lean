import Alerting.Script.Basic
import Alerting.Script.Chain
import Alerting.Where.Clause

/-!
# Trigger forms

What the form holds of a trigger.  It has the fields of every kind of trigger at once; the monitor
decides which of them count.
-/

namespace Alerting

/-- A number that a measured value is compared with. -/
structure Threshold where
  /-- The number. -/
  value : Binary64
  /-- How it is compared. -/
  comparison : Comparison
  deriving DecidableEq

namespace Threshold

/-- The threshold of a new form. -/
def initial : Threshold := { value := .ofDecimal false ⟨10000, 0⟩, comparison := .above }

/-- The threshold of an anomaly in a new form. -/
def initialAnomaly : Threshold := { value := .ofDecimal false ⟨7, -1⟩, comparison := .above }

end Threshold

/-- The thresholds of an anomaly. -/
structure AnomalyThresholds where
  /-- How strong it is. -/
  grade : Threshold
  /-- How certain it is. -/
  confidence : Threshold
  deriving DecidableEq

namespace AnomalyThresholds

/-- The thresholds of a new form. -/
def initial : AnomalyThresholds := { grade := .initialAnomaly, confidence := .initialAnomaly }

instance : Coded AnomalyThresholds where
  encode a := .obj [
    ("anomalyGradeThresholdValue", encode a.grade.value),
    ("anomalyGradeThresholdEnum", encode a.grade.comparison),
    ("anomalyConfidenceThresholdValue", encode a.confidence.value),
    ("anomalyConfidenceThresholdEnum", encode a.confidence.comparison)]
  decode? rigour j := do
    let m ← Members.ofRecord? rigour
      ["anomalyGradeThresholdValue", "anomalyGradeThresholdEnum", "anomalyConfidenceThresholdValue",
        "anomalyConfidenceThresholdEnum"] j
    return {
      grade := {
        value := ← m.withDefault "anomalyGradeThresholdValue" initial.grade.value
        comparison := ← m.withDefault "anomalyGradeThresholdEnum" initial.grade.comparison }
      confidence := {
        value := ← m.withDefault "anomalyConfidenceThresholdValue" initial.confidence.value
        comparison := ←
          m.withDefault "anomalyConfidenceThresholdEnum" initial.confidence.comparison } }

end AnomalyThresholds

/-- A trigger as the form holds it. -/
structure TriggerForm where
  /-- The identifier that the backend gave it. -/
  id : Option String
  /-- Its name. -/
  name : String
  /-- Its severity. -/
  severity : String
  /-- The condition of a query trigger, written by hand. -/
  script : Script
  /-- The threshold of a graph trigger. -/
  threshold : Threshold
  /-- The thresholds of an anomaly trigger. -/
  anomaly : AnomalyThresholds
  /-- The condition of a bucket trigger, written by hand as JSON text. -/
  selector : String
  /-- The conditions of a bucket trigger. -/
  conditions : List Condition
  /-- The filter on the buckets. -/
  filter : Where.Clause
  /-- What is done when it fires. -/
  actions : List Value
  deriving DecidableEq

namespace TriggerForm

/-- A new form. -/
def initial : TriggerForm :=
  { id := none
    name := ""
    severity := "1"
    script := .initial
    threshold := .initial
    anomaly := .initial
    selector := ""
    conditions := []
    filter := .initial
    actions := [] }

/-- The names of the members. -/
def names : List String :=
  ["id", "name", "severity", "script", "thresholdValue", "thresholdEnum", "anomalyDetector",
    "bucketSelector", "triggerConditions", "where", "actions"]

instance : Coded TriggerForm where
  encode t := .obj (
    optionalMember "id" t.id
    ++ [("name", encode t.name), ("severity", encode t.severity), ("script", encode t.script),
      ("thresholdValue", encode t.threshold.value),
      ("thresholdEnum", encode t.threshold.comparison),
      ("anomalyDetector", encode t.anomaly), ("bucketSelector", encode t.selector),
      ("triggerConditions", encode t.conditions), ("where", encode t.filter),
      ("actions", encode t.actions)])
  decode? rigour j := do
    let m ← Members.ofRecord? rigour names j
    return {
      id := ← m.optional "id"
      name := ← m.withDefault "name" initial.name
      severity := ← m.withDefault "severity" initial.severity
      script := ← m.withDefault "script" initial.script
      threshold := {
        value := ← m.withDefault "thresholdValue" initial.threshold.value
        comparison := ← m.withDefault "thresholdEnum" initial.threshold.comparison }
      anomaly := ← m.withDefault "anomalyDetector" initial.anomaly
      selector := ← m.withDefault "bucketSelector" initial.selector
      conditions := ← m.withDefault "triggerConditions" initial.conditions
      filter := ← m.withDefault "where" initial.filter
      actions := ← m.withDefault "actions" initial.actions }

end TriggerForm

end Alerting
