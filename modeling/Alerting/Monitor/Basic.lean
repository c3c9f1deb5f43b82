import Alerting.Monitor.Form
import Alerting.Trigger.Basic
import Alerting.Trigger.Sidecar

/-!
# Monitors

A stored monitor: its schedule, its search and its triggers, which the backend runs, and a sidecar
with what the form needs besides.
-/

namespace Alerting

/-- The search that a monitor runs. -/
structure SearchInput where
  /-- The indices. -/
  indices : List String
  /-- The query. -/
  query : Value
  deriving DecidableEq

instance : Coded SearchInput where
  encode i := .obj [("search", .obj [("indices", encode i.indices), ("query", encode i.query)])]
  decode? rigour j := do
    let m ← Members.ofRecord? rigour ["search"] j
    let m ← Members.ofRecord? rigour ["indices", "query"] (← m.get? "search")
    return { indices := ← m.required "indices", query := ← m.required "query" }

/-- What the form needs besides the stored monitor. -/
structure Sidecar where
  /-- How the schedule was picked. -/
  schedule : PickedSchedule
  /-- How the search was defined. -/
  search : Search
  /-- What the triggers look at. -/
  kind : MonitorKind
  /-- What is kept beside each trigger, by its name. -/
  triggers : SortedMap TriggerSidecar
  deriving DecidableEq

namespace Sidecar

/-- The sidecar of a new form. -/
def initial : Sidecar :=
  { schedule := .initial, search := .initial, kind := .queryLevel, triggers := .empty }

instance : Coded Sidecar where
  encode s := .obj [("schedule", encode s.schedule), ("search", encode s.search),
    ("monitor_type", encode s.kind), ("triggers", encode s.triggers)]
  decode? rigour j := do
    let m ← Members.ofRecord? rigour ["schedule", "search", "monitor_type", "triggers"] j
    return {
      schedule := ← m.withDefault "schedule" initial.schedule
      search := ← m.withDefault "search" initial.search
      kind := ← m.withDefault "monitor_type" initial.kind
      triggers := ← m.withDefault "triggers" initial.triggers }

end Sidecar

/-- A stored monitor. -/
structure Monitor where
  /-- The type of the document. -/
  documentType : String
  /-- Its name. -/
  name : String
  /-- What its triggers look at. -/
  kind : MonitorKind
  /-- Whether it runs. -/
  enabled : Bool
  /-- When it runs. -/
  schedule : Schedule
  /-- What it searches for. -/
  inputs : List SearchInput
  /-- Its triggers. -/
  triggers : List Trigger
  /-- What the form needs besides. -/
  sidecar : Option Sidecar
  deriving DecidableEq

namespace Monitor

/-- The type of the documents of monitors. -/
def standardType : String := "monitor"

instance : Coded Monitor where
  encode m := .obj (
    [("type", encode m.documentType), ("name", encode m.name), ("monitor_type", encode m.kind),
      ("enabled", encode m.enabled), ("schedule", encode m.schedule), ("inputs", encode m.inputs),
      ("triggers", encode m.triggers)]
    ++ optionalMember "ui_metadata" m.sidecar)
  decode? rigour j := do
    let m ← Members.ofRecord? rigour
      ["type", "name", "monitor_type", "enabled", "schedule", "inputs", "triggers",
        "ui_metadata"] j
    return {
      documentType := ← m.withDefault "type" standardType
      name := ← m.required "name"
      kind := ← m.withDefault "monitor_type" .queryLevel
      enabled := ← m.required "enabled"
      schedule := ← m.required "schedule"
      inputs := ← m.required "inputs"
      triggers := ← m.withDefault "triggers" []
      sidecar := ← m.optional "ui_metadata" }

end Monitor

end Alerting
