import Alerting.Schedule.Picker
import Alerting.Search.Basic

/-!
# Monitor forms

What the form holds of a monitor, without its triggers.
-/

namespace Alerting

/-- What the triggers of a monitor look at. -/
inductive MonitorKind where
  /-- The whole result. -/
  | queryLevel
  /-- The buckets of the result. -/
  | bucketLevel
  deriving DecidableEq

instance : Named MonitorKind where
  all := [.queryLevel, .bucketLevel]
  name
    | .queryLevel => "query_level_monitor"
    | .bucketLevel => "bucket_level_monitor"

/-- The text of a new query. -/
def initialQuery : String :=
  (Value.ofJson (.obj [
    ("size", .nat 0), ("query", .obj [("match_all", .obj [])])])).json.pretty

/-- A monitor as the form holds it. -/
structure MonitorForm where
  /-- Its name. -/
  name : String
  /-- Whether it does not run. -/
  disabled : Bool
  /-- What its triggers look at. -/
  kind : MonitorKind
  /-- When it runs. -/
  schedule : PickedSchedule
  /-- The indices that it searches. -/
  indices : List String
  /-- Its query, written by hand as JSON text. -/
  query : String
  /-- Its search. -/
  search : Search
  deriving DecidableEq

namespace MonitorForm

/-- A new form. -/
def initial : MonitorForm :=
  { name := ""
    disabled := false
    kind := .queryLevel
    schedule := .initial
    indices := []
    query := initialQuery
    search := .initial }

/-- The names of the members. -/
def names : List String :=
  ["name", "disabled", "monitor_type", "frequency", "index", "query"] ++ Picker.names
    ++ Search.names

instance : Coded MonitorForm where
  encode m := .obj (
    [("name", encode m.name), ("disabled", encode m.disabled), ("monitor_type", encode m.kind),
      ("frequency", encode m.schedule.frequency)]
    ++ m.schedule.picker.members
    ++ [("index", encode m.indices), ("query", encode m.query)]
    ++ m.search.members)
  decode? rigour j := do
    let m ← Members.ofObject? rigour names j
    return {
      name := ← m.withDefault "name" initial.name
      disabled := ← m.withDefault "disabled" initial.disabled
      kind := ← m.withDefault "monitor_type" initial.kind
      schedule := {
        frequency := ← m.withDefault "frequency" initial.schedule.frequency
        picker := ← Picker.ofMembers? m.lenient }
      indices := ← m.withDefault "index" initial.indices
      query := ← m.withDefault "query" initial.query
      search := ← Search.ofMembers? m.lenient }

end MonitorForm

end Alerting
