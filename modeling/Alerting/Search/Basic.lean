import Alerting.Where.Clause

/-!
# Searches

What a monitor searches for, as the form holds it: a visual query over a time field with a metric or
grouped metrics, a query written by hand, or the results of an anomaly detector.
-/

namespace Alerting

/-- How the search of a monitor is defined. -/
inductive SearchKind where
  /-- By the visual editor. -/
  | graph
  /-- By a query written by hand. -/
  | query
  /-- By an anomaly detector. -/
  | anomaly
  deriving DecidableEq

instance : Named SearchKind where
  all := [.graph, .query, .anomaly]
  name
    | .graph => "graph"
    | .query => "query"
    | .anomaly => "ad"

/-- What is computed of a field. -/
inductive Aggregation where
  | count
  | avg
  | sum
  | min
  | max
  deriving DecidableEq

namespace Aggregation

instance : Named Aggregation where
  all := [.count, .avg, .sum, .min, .max]
  name
    | .count => "count"
    | .avg => "avg"
    | .sum => "sum"
    | .min => "min"
    | .max => "max"

/-- The keyword of an aggregation of groups, where a count counts the values of a field. -/
def groupKeyword : Aggregation → String
  | .count => "value_count"
  | a => nameOf a

end Aggregation

/-- The unit of the bucket size. -/
inductive BucketUnit where
  | minutes
  | hours
  | days
  deriving DecidableEq

namespace BucketUnit

instance : Named BucketUnit where
  all := [.minutes, .hours, .days]
  name
    | .minutes => "m"
    | .hours => "h"
    | .days => "d"

/-- The unit in date arithmetic of queries. -/
def suffix (u : BucketUnit) : String := nameOf u

/-- The number of seconds. -/
def seconds : BucketUnit → Int
  | .minutes => 60
  | .hours => 3600
  | .days => 86400

/-- The longest duration, in seconds: its milliseconds fit 64 bits with a sign. -/
def longest : Int := (Nat.pow 2 63 - 1) / 1000

/-- A number of units in seconds, unless it is longer than the longest duration. -/
def duration? (u : BucketUnit) (amount : Int) : Option Int :=
  let s := amount * u.seconds
  if -longest ≤ s ∧ s ≤ longest then some s else none

end BucketUnit

/-- A metric of a grouped search. -/
structure Metric where
  /-- What is computed. -/
  aggregation : Aggregation
  /-- The field it is computed of. -/
  field : String
  deriving DecidableEq

namespace Metric

/-- The name by which conditions refer to a metric. -/
def name (m : Metric) : String := m.aggregation.groupKeyword ++ "_" ++ m.field

instance : Coded Metric where
  encode m := .obj [("aggregationType", encode m.aggregation), ("fieldName", encode m.field)]
  decode? rigour j := do
    let m ← Members.ofRecord? rigour ["aggregationType", "fieldName"] j
    return { aggregation := ← m.required "aggregationType", field := ← m.required "fieldName" }

end Metric

/-- The fields of the search in the form. -/
structure Search where
  /-- How the search is defined. -/
  kind : SearchKind
  /-- The field with the time of a document. -/
  timeField : String
  /-- What is computed by a search without groups. -/
  aggregation : Aggregation
  /-- The field it is computed of; a count has none. -/
  metricFields : List FieldRef
  /-- The bucket size. -/
  bucketSize : UInt32
  /-- The unit of the bucket size. -/
  bucketUnit : BucketUnit
  /-- The filter. -/
  filter : Where.Clause
  /-- What is computed of each group. -/
  metrics : List Metric
  /-- The fields that documents are grouped by. -/
  groupBy : List String
  /-- The anomaly detector. -/
  detector : String
  deriving DecidableEq

namespace Search

/-- The search of a new form. -/
def initial : Search :=
  { kind := .graph
    timeField := ""
    aggregation := .count
    metricFields := []
    bucketSize := 1
    bucketUnit := .hours
    filter := .initial
    metrics := []
    groupBy := []
    detector := "" }

/-- The names of the members. -/
def names : List String :=
  ["searchType", "timeField", "aggregationType", "fieldName", "bucketValue", "bucketUnitOfTime",
    "where", "aggregations", "groupBy", "detectorId"]

/-- The members, also where they stand among those of another record. -/
def members (s : Search) : List (String × Json) :=
  [("searchType", encode s.kind), ("timeField", encode s.timeField),
    ("aggregationType", encode s.aggregation), ("fieldName", encode s.metricFields),
    ("bucketValue", encode s.bucketSize), ("bucketUnitOfTime", encode s.bucketUnit),
    ("where", encode s.filter), ("aggregations", encode s.metrics), ("groupBy", encode s.groupBy),
    ("detectorId", encode s.detector)]

/-- Reads the fields from the members found. -/
def ofMembers? (m : Members) : Option Search := do
  return {
    kind := ← m.withDefault "searchType" initial.kind
    timeField := ← m.withDefault "timeField" initial.timeField
    aggregation := ← m.withDefault "aggregationType" initial.aggregation
    metricFields := ← m.withDefault "fieldName" initial.metricFields
    bucketSize := ← m.withDefault "bucketValue" initial.bucketSize
    bucketUnit := ← m.withDefault "bucketUnitOfTime" initial.bucketUnit
    filter := ← m.withDefault "where" initial.filter
    metrics := ← m.withDefault "aggregations" initial.metrics
    groupBy := ← m.withDefault "groupBy" initial.groupBy
    detector := ← m.withDefault "detectorId" initial.detector }

instance : Coded Search where
  encode s := .obj s.members
  decode? rigour j := (Members.ofRecord? rigour names j).bind ofMembers?

end Search

end Alerting
