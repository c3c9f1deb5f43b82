import Alerting.Json.Parser
import Alerting.Schedule.Basic
import Alerting.Search.Window
import Alerting.Where.Filter

/-!
# Queries of searches

A graph search without groups measures one metric; with groups it measures several of each group.
Both have a stored query and a preview, which differ in the window and, without groups, in a
histogram over the window.  An anomaly search reads the highest anomaly grade of a detector.
-/

namespace Alerting

/-- The name of the metric of a search without groups. -/
def metricName : String := "when"

/-- The name of the histogram of a preview. -/
def histogramName : String := "over"

/-- The name of the aggregation over groups. -/
def groupsName : String := "composite_agg"

/-- The name of the highest anomaly grade. -/
def gradeName : String := "max_anomaly_grade"

namespace Search

/-! ### Parts of queries -/

/-- The metric of a search without groups; a count has none, and neither has a search without
field. -/
def metric (s : Search) : Json :=
  match s.aggregation, s.metricFields with
  | .count, _ | _, [] => .obj []
  | a, f :: _ => .obj [(nameOf a, .obj [("field", .str f.label)])]

/-- The metric under its name. -/
def namedMetric (s : Search) : Json :=
  if s.metric = .obj [] then .obj [] else .obj [(metricName, s.metric)]

/-- The filters of a query: on time, and by the where clause. -/
def filters (s : Search) (w : Window) : List Json :=
  w.filter s.timeField :: (s.filter.filter?.map Where.Filter.toJson).toList

/-- A query that returns no documents, of aggregations over a window. -/
def aggregationQuery (s : Search) (aggregations : Json) (w : Window) : Json :=
  .obj [("size", .nat 0), ("aggregations", aggregations),
    ("query", .obj [("bool", .obj [("filter", .arr (s.filters w))])])]

/-- The groups of a search. -/
def groupSources (s : Search) : List Json :=
  s.groupBy.map fun f => .obj [(f, .obj [("terms", .obj [("field", .str f)])])]

/-- The metrics of each group, by name. -/
def groupMetrics (s : Search) : List (String × Json) :=
  s.metrics.map fun m =>
    (m.name, .obj [(m.aggregation.groupKeyword, .obj [("field", .str m.field)])])

/-- The aggregation over groups. -/
def groups (s : Search) : Json :=
  .obj [(groupsName, .obj [
    ("composite", .obj [("sources", .arr s.groupSources)]),
    ("aggregations", .obj s.groupMetrics)])]

/-- The histogram of a preview from an instant to another, with the metric of each bucket. -/
def histogram (s : Search) (timeZone : String) (start now : Instant) : Json :=
  .obj [(histogramName, .obj [
    ("date_histogram", .obj [
      ("field", .str s.timeField),
      ("fixed_interval", .str (s.bucketSize.toNat.repr ++ s.bucketUnit.suffix)),
      ("time_zone", .str timeZone),
      ("min_doc_count", .nat 0),
      ("extended_bounds", .obj [("min", .int start.millis), ("max", .int now.millis)])]),
    ("aggregations", s.namedMetric)])]

/-! ### Queries -/

/-- The stored query of a graph search without groups. -/
def graphQuery (s : Search) : Value := .ofJson (s.aggregationQuery s.namedMetric s.storedWindow)

/-- The stored query of a graph search with groups. -/
def groupQuery (s : Search) : Value := .ofJson (s.aggregationQuery s.groups s.storedWindow)

/-- The histogram of the preview of a graph search. -/
def previewHistogram (s : Search) (timeZone : String) (now : Instant) (config : Config) :
    Compile Value := do
  return .ofJson (s.histogram timeZone (← s.previewStart now config) now)

/-- The preview of a graph search without groups. -/
def graphPreview (s : Search) (timeZone : String) (now : Instant) (config : Config) :
    Compile Value := do
  let start ← s.previewStart now config
  return .ofJson (s.aggregationQuery (s.histogram timeZone start now) (.absolute start now))

/-- The preview of a graph search with groups. -/
def groupPreview (s : Search) (now : Instant) (config : Config) : Compile Value := do
  let start ← s.previewStart now config
  return .ofJson (s.aggregationQuery s.groups (.absolute start now))

end Search

/-- The query for the highest anomaly grade of a detector within the last period. -/
def anomalyQuery (detector : String) (p : Period) : Value :=
  .ofJson (.obj [
    ("size", .nat 1),
    ("sort", .arr [.obj [("anomaly_grade", .str "desc")], .obj [("confidence", .str "desc")]]),
    ("query", .obj [("bool", .obj [("filter", .arr [
      .obj [("range", .obj [("execution_end_time", .obj [
        ("from", .str (beforePeriodEnd p.interval p.unit.suffix)),
        ("to", .str periodEnd),
        ("include_lower", .bool true),
        ("include_upper", .bool true)])])],
      .obj [("term", .obj [("detector_id", .obj [("value", .str detector)])])]])])]),
    ("aggregations", .obj [(gradeName, .obj [("max", .obj [("field", .str "anomaly_grade")])])])])

/-- Reads a query written by hand. -/
def readQuery (text : String) : Compile Value :=
  match Json.parse? text with
  | some j => .ok (.ofJson j)
  | none => .error .querySyntax

end Alerting
