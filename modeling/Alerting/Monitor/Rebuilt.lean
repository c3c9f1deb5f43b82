import Alerting.Trigger.Rebuilt

/-!
# Rebuilding monitor forms

A stored monitor becomes a form again.  Its schedule and search are taken from the document; the
sidecar adds what these cannot say, and a document without one is edited as a query written by hand.
-/

namespace Alerting

namespace PickedSchedule

/-- The fields with those that a stored schedule determines: the time zone of a cron schedule, its
expression if cron expressions are picked, and the period if intervals are. -/
def withStored (s : PickedSchedule) : Schedule → PickedSchedule
  | .cron c =>
    { s with picker := { s.picker with
      timezone := c.timezone
      cronExpression :=
        if s.frequency = .cronExpression then c.expression else s.picker.cronExpression } }
  | .period p =>
    { s with picker := { s.picker with
      period := if s.frequency = .interval then p else s.picker.period } }

end PickedSchedule

namespace Monitor

/-- The schedule and search of the form: as kept, or recovered from the document. -/
def pickedParts (m : Monitor) : PickedSchedule × Search :=
  match m.sidecar with
  | some s => (s.schedule, s.search)
  | none => (.ofSchedule m.schedule, { Search.initial with kind := .query })

/-- The indices and query text of the form.  The index of an anomaly monitor is not picked. -/
def searchTexts (m : Monitor) (kind : SearchKind) : List String × String :=
  match m.inputs with
  | [] => (MonitorForm.initial.indices, MonitorForm.initial.query)
  | input :: _ =>
    (if kind = .anomaly then MonitorForm.initial.indices else input.indices,
      input.query.json.pretty)

/-- Rebuilds the form of a monitor. -/
def toForm (m : Monitor) : MonitorForm :=
  let (schedule, search) := m.pickedParts
  let (indices, query) := m.searchTexts search.kind
  { name := m.name
    disabled := !m.enabled
    kind := m.kind
    schedule := schedule.withStored m.schedule
    indices := indices
    query := query
    search := search }

end Monitor

/-- The forms of a stored monitor. -/
structure MonitorForms where
  /-- The form of the monitor. -/
  monitor : MonitorForm
  /-- The forms of its triggers. -/
  triggers : Reconstruction
  deriving DecidableEq

namespace MonitorForms

/-- Rebuilds the forms of a monitor and its triggers. -/
def ofMonitor (m : Monitor) : MonitorForms :=
  { monitor := m.toForm, triggers := m.reconstruct }

/-- The document of the forms. -/
def toJson (f : MonitorForms) : Json :=
  .obj [("monitor", encode f.monitor), ("triggers", f.triggers.toJson)]

end MonitorForms

end Alerting
