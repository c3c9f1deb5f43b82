import Alerting.Monitor.Basic
import Alerting.Trigger.Stored
import Alerting.Validation

/-!
# Storing monitors

A monitor form compiles to a stored monitor without triggers (`MonitorForm.toMonitor`), and with its
trigger forms, after all have been validated, to a complete one (`MonitorForm.compile`).
-/

namespace Alerting

/-- The monitor with other triggers, and with what is kept beside them if it has a sidecar. -/
def Monitor.withTriggers (d : Monitor) (ts : List Trigger) (kept : SortedMap TriggerSidecar) :
    Monitor :=
  { d with
    triggers := ts
    sidecar := d.sidecar.map fun s => { s with triggers := kept } }

namespace MonitorForm

/-! ### Searches -/

/-- The search of an anomaly monitor. -/
def anomalyInput (detector : String) (p : Period) (config : Config) : SearchInput :=
  { indices := [config.anomalyResultsIndex], query := anomalyQuery detector p }

/-- The search that is stored. -/
def searchInput (m : MonitorForm) (config : Config) : Compile SearchInput :=
  match m.search.kind, m.kind with
  | .query, _ => do return { indices := m.indices, query := ← readQuery m.query }
  | .anomaly, _ => .ok (anomalyInput m.search.detector m.schedule.picker.period config)
  | .graph, .queryLevel => .ok { indices := m.indices, query := m.search.graphQuery }
  | .graph, .bucketLevel => .ok { indices := m.indices, query := m.search.groupQuery }

/-- The query that the form shows the results of. -/
def preview (m : MonitorForm) (now : Instant) (config : Config) : Compile Value :=
  match m.search.kind, m.kind with
  | .query, _ => readQuery m.query
  | .anomaly, _ => .ok (anomalyQuery m.search.detector m.schedule.picker.period)
  | .graph, .queryLevel =>
    m.search.graphPreview (m.schedule.picker.timezone.getD config.previewTimeZone) now config
  | .graph, .bucketLevel => m.search.groupPreview now config

/-! ### Monitors -/

/-- What the form needs besides the stored monitor. -/
def sidecar (m : MonitorForm) : Sidecar :=
  { schedule := m.schedule, search := m.search, kind := m.kind, triggers := .empty }

/-- The stored monitor of a form that runs a search, without triggers. -/
def stored (m : MonitorForm) (input : SearchInput) : Monitor :=
  { documentType := Monitor.standardType
    name := m.name
    kind := m.kind
    enabled := !m.disabled
    schedule := m.schedule.schedule
    inputs := [input]
    triggers := []
    sidecar := some m.sidecar }

/-- The stored monitor of a form, without triggers. -/
def toMonitor (m : MonitorForm) (config : Config) : Compile Monitor := do
  return m.stored (← m.searchInput config)

/-! ### Monitors with triggers -/

/-- The rules for the triggers of a monitor: each fulfils its own, and no name is among the earlier
ones. -/
def validateTriggers (m : MonitorForm) (config : Config) (earlier : List String) :
    List TriggerForm → Compile Unit
  | [] => .ok ()
  | t :: ts => do
    t.validate m.kind m.search.kind config
    require (!earlier.contains t.name) (.duplicateTrigger t.name)
    m.validateTriggers config (t.name :: earlier) ts

/-- What is kept beside the triggers of some forms. -/
def triggerSidecars (m : MonitorForm) (ts : List TriggerForm) : SortedMap TriggerSidecar :=
  .ofList (ts.map fun t => (t.name, t.sidecar m))

/-- The stored monitor of a form and its trigger forms. -/
def compile (m : MonitorForm) (ts : List TriggerForm) (config : Config) : Compile Monitor := do
  m.validate config
  m.validateTriggers config [] ts
  let monitor ← m.toMonitor config
  let triggers ← ts.mapM fun t => t.toTrigger m config
  return monitor.withTriggers triggers (m.triggerSidecars ts)

end MonitorForm

end Alerting
