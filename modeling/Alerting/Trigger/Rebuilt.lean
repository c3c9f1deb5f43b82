import Alerting.Monitor.Basic
import Alerting.Script.Reader

/-!
# Rebuilding trigger forms

A stored trigger becomes a form again.  What is kept beside it counts before all else; where nothing
is kept, conditions are read back from the script and the filter from its patterns.  A trigger whose
script cannot be read does not hide the others: `Monitor.reconstruct` gives each trigger a form or a
failure of its own.
-/

namespace Alerting

namespace Sidecar

/-- What is kept beside the trigger of a name. -/
def entry (sidecar : Option Sidecar) (name : String) : Compile TriggerSidecar :=
  match sidecar.bind fun s => s.triggers.get? name with
  | some e => .ok e
  | none => .error (.sidecarMissing name)

end Sidecar

namespace BucketSelector

/-- The conditions of a selector: those that are kept, or else those of its script. -/
def conditions (s : BucketSelector) (entry : Option TriggerSidecar) : Compile (List Condition) :=
  match entry.bind TriggerSidecar.conditions with
  | some cs => .ok cs
  | none => (Chain.parse s.script.source).map Chain.toConditions

/-- The where clause of a selector: the one that is kept, or else the one of its filter. -/
def whereClause (s : BucketSelector) (entry : Option TriggerSidecar) : Where.Clause :=
  match entry.bind TriggerSidecar.filter with
  | some c => c
  | none => (s.filter.bind Where.PatternFilter.clause?).getD .initial

end BucketSelector

namespace TriggerForm

/-- The form with the thresholds that are kept. -/
def withKept (t : TriggerForm) (e : TriggerSidecar) : TriggerForm :=
  { t with
    threshold := e.threshold
    anomaly := match e.anomaly with
      | some a => a.thresholds
      | none => t.anomaly }

/-- The form with the thresholds that are kept, if any are. -/
def withKept? (t : TriggerForm) : Option TriggerSidecar → TriggerForm
  | some e => t.withKept e
  | none => t

end TriggerForm

namespace Trigger

/-- The form of what a trigger says by itself, with its condition as text. -/
def bareForm (t : Trigger) : TriggerForm :=
  let form := { TriggerForm.initial with
    id := t.id
    name := t.name
    severity := t.severity
    actions := t.actions }
  match t.condition with
  | .query script => { form with script := script }
  | .bucket selector => { form with selector := (encode selector).pretty }

/-- A rebuilt form, and a warning if nothing is kept beside the trigger. -/
abbrev Rebuilt := TriggerForm × Option CompileError

/-- How searches are defined in a document: one without a sidecar was written by hand. -/
def searchKind (sidecar : Option Sidecar) : SearchKind :=
  match sidecar with
  | some s => s.search.kind
  | none => .query

/-- The conditions of a bucket trigger in the form.  Where searches are written by hand a script
that cannot be read leaves them out. -/
def rebuiltConditions (selector : BucketSelector) (entry : Option TriggerSidecar)
    (kind : SearchKind) : Compile (List Condition) :=
  match selector.conditions entry with
  | .ok cs => .ok cs
  | .error e => if kind = .query then .ok TriggerForm.initial.conditions else .error e

/-- Rebuilds the form of a trigger. -/
def rebuild (t : Trigger) (sidecar : Option Sidecar) : Compile Rebuilt :=
  let entry := (Sidecar.entry sidecar t.name).toOption
  let warning := if entry.isNone then some (.sidecarMissing t.name) else none
  let form := t.bareForm.withKept? entry
  match t.condition with
  | .query _ => .ok (form, warning)
  | .bucket selector => do
    let conditions ← rebuiltConditions selector entry (searchKind sidecar)
    return ({ form with
      conditions := conditions
      filter := selector.whereClause entry }, warning)

/-- Rebuilds the form of a trigger without warnings. -/
def toForm (t : Trigger) (sidecar : Option Sidecar) : Compile TriggerForm :=
  (t.rebuild sidecar).map Prod.fst

end Trigger

/-- A trigger whose form could not be rebuilt. -/
structure TriggerFailure where
  /-- The name of the trigger. -/
  name : String
  /-- Why not. -/
  error : CompileError
  /-- A form for editing the condition as text. -/
  fallback : TriggerForm
  deriving DecidableEq

/-- The forms of the triggers of a monitor. -/
structure Reconstruction where
  /-- The rebuilt forms. -/
  triggers : List TriggerForm
  /-- The triggers that could not be rebuilt. -/
  failures : List TriggerFailure
  /-- What was missing for rebuilt forms. -/
  warnings : List CompileError
  deriving DecidableEq

namespace Reconstruction

/-- No triggers. -/
def empty : Reconstruction := { triggers := [], failures := [], warnings := [] }

/-- The forms of some triggers and of others after them. -/
def append (r s : Reconstruction) : Reconstruction :=
  { triggers := r.triggers ++ s.triggers
    failures := r.failures ++ s.failures
    warnings := r.warnings ++ s.warnings }

/-- The forms of one trigger. -/
def ofTrigger (sidecar : Option Sidecar) (t : Trigger) : Reconstruction :=
  match t.rebuild sidecar with
  | .ok (form, warning) => { empty with triggers := [form], warnings := warning.toList }
  | .error e =>
    { empty with failures := [{ name := t.name, error := e, fallback := t.bareForm }] }

/-- The forms of a list of triggers, each for itself. -/
def ofTriggers (sidecar : Option Sidecar) : List Trigger → Reconstruction
  | [] => empty
  | t :: ts => (ofTrigger sidecar t).append (ofTriggers sidecar ts)

/-- The document of a reconstruction, with messages for errors. -/
def toJson (r : Reconstruction) : Json :=
  let failure (f : TriggerFailure) : Json :=
    .obj [("name", encode f.name), ("error", .str f.error.message),
      ("fallback", encode f.fallback)]
  .obj [("triggers", encode r.triggers), ("failures", .arr (r.failures.map failure)),
    ("warnings", encode (r.warnings.map CompileError.message))]

end Reconstruction

namespace Monitor

/-- The forms of the triggers of a monitor. -/
def reconstruct (m : Monitor) : Reconstruction := .ofTriggers m.sidecar m.triggers

end Monitor

end Alerting
