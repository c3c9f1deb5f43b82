import Alerting.Trigger.Form

/-!
# What is kept beside a trigger

A stored trigger does not hold its form.  What the form needs besides the trigger is kept under the
name of the trigger.
-/

namespace Alerting

/-- The thresholds of an anomaly as they are kept beside a trigger. -/
structure KeptAnomaly where
  /-- The thresholds. -/
  thresholds : AnomalyThresholds
  deriving DecidableEq

/-- What is kept beside a trigger. -/
structure TriggerSidecar where
  /-- The threshold. -/
  threshold : Threshold
  /-- The thresholds of an anomaly. -/
  anomaly : Option KeptAnomaly
  /-- The conditions on buckets. -/
  conditions : Option (List Condition)
  /-- The filter on buckets. -/
  filter : Option Where.Clause
  deriving DecidableEq

/-- A threshold is kept as a value and a comparison. -/
instance : Coded Threshold where
  encode t := .obj [("value", encode t.value), ("enum", encode t.comparison)]
  decode? rigour j := do
    let m ← Members.ofRecord? rigour ["value", "enum"] j
    return { value := ← m.required "value", comparison := ← m.required "enum" }

instance : Coded KeptAnomaly where
  encode a := .obj [
    ("anomalyGrade", encode a.thresholds.grade),
    ("anomalyConfidence", encode a.thresholds.confidence)]
  decode? rigour j := do
    let m ← Members.ofRecord? rigour ["anomalyGrade", "anomalyConfidence"] j
    return {
      thresholds := {
        grade := ← m.required "anomalyGrade"
        confidence := ← m.required "anomalyConfidence" } }

instance : Coded TriggerSidecar where
  encode t := .obj (
    [("value", encode t.threshold.value), ("enum", encode t.threshold.comparison)]
    ++ optionalMember "adTriggerMetadata" t.anomaly
    ++ optionalMember "conditions" t.conditions
    ++ optionalMember "where" t.filter)
  decode? rigour j := do
    let m ← Members.ofRecord? rigour
      ["value", "enum", "adTriggerMetadata", "conditions", "where"] j
    return {
      threshold := { value := ← m.required "value", comparison := ← m.required "enum" }
      anomaly := ← m.optional "adTriggerMetadata"
      conditions := ← m.optional "conditions"
      filter := ← m.optional "where" }

end Alerting
