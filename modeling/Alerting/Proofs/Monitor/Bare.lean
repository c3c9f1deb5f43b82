import Alerting.Proofs.Monitor.RoundTrip

/-!
# Monitors written against the backend

A monitor that no form was compiled to has no sidecar.  It is edited as a query written by hand.

* `Monitor.Bare` : what such a document looks like.
* `Monitor.Bare.toMonitor_toForm` : an edit that changes nothing leaves the document as it is, every
  trigger included, whatever its script is.
-/

namespace Alerting

/-- The schedule that a form without a sidecar shows is the stored one. -/
theorem PickedSchedule.schedule_withStored_ofSchedule (s : Schedule) :
    ((PickedSchedule.ofSchedule s).withStored s).schedule = s := by
  cases s <;> rfl

/-- The kind of monitor that a condition is for. -/
def TriggerCondition.kind : TriggerCondition → MonitorKind
  | .query _ => .queryLevel
  | .bucket _ => .bucketLevel

namespace Monitor

variable {config : Config} {d : Monitor}

/-- A document without a sidecar that runs one search, with triggers of its own kind. -/
structure Bare (d : Monitor) : Prop where
  documentType : d.documentType = standardType
  sidecar : d.sidecar = none
  inputs : ∃ input, d.inputs = [input]
  triggers : ∀ tr ∈ d.triggers, tr.condition.kind = d.kind

theorem toForm_of_bare {input : SearchInput} (hs : d.sidecar = none) (hi : d.inputs = [input]) :
    d.toForm =
      { name := d.name
        disabled := !d.enabled
        kind := d.kind
        schedule := (PickedSchedule.ofSchedule d.schedule).withStored d.schedule
        indices := input.indices
        query := input.query.json.pretty
        search := { Search.initial with kind := .query } } := by
  unfold toForm
  simp only [pickedParts, searchTexts, hs, hi]
  rfl

/-- All but the condition of a trigger is in its form. -/
theorem trigger_of_bareForm (tr : Trigger) :
    { id := tr.bareForm.id, name := tr.bareForm.name, severity := tr.bareForm.severity,
      condition := tr.condition, actions := tr.bareForm.actions } = tr := by
  obtain ⟨id, name, severity, condition, actions⟩ := tr
  cases condition <;> rfl

/-- A trigger without a sidecar has a form, and this form compiles to it. -/
theorem exists_toForm {m : MonitorForm} {tr : Trigger} (hk : tr.condition.kind = m.kind)
    (hm : m.search.kind = .query) (hr : tr.condition.ReadsBack) :
    ∃ t, tr.toForm none = .ok t ∧ t.toTrigger m config = .ok tr := by
  cases hc : tr.condition with
  | query script =>
    have hkind : m.kind = .queryLevel := by rw [← hk, hc]; rfl
    have hcondition : tr.bareForm.condition m config = .ok (.query script) := by
      unfold TriggerForm.condition TriggerForm.queryScript Trigger.bareForm
      simp only [hkind, hm, hc]
    refine ⟨tr.bareForm, Compile.map_eq_ok.2 ⟨_, Trigger.rebuild_query hc rfl, rfl⟩, ?_⟩
    exact TriggerForm.toTrigger_eq_ok_iff.2 ⟨.query script, hcondition, hc ▸ trigger_of_bareForm tr⟩
  | bucket selector =>
    have hkind : m.kind = .bucketLevel := by rw [← hk, hc]; rfl
    obtain ⟨cs, hcs⟩ := Trigger.exists_rebuiltConditions_query selector none
    have hparse : BucketSelector.parse tr.bareForm.selector = .ok selector := by
      rw [hc] at hr
      unfold Trigger.bareForm
      simp only [hc]
      exact BucketSelector.parse_pretty hr
    have hentry : ((none : Option Sidecar).bind fun s => s.triggers.get? tr.name) = none := rfl
    have hrebuild := Trigger.rebuild_bucket hc hentry hcs
    refine ⟨_, Compile.map_eq_ok.2 ⟨_, hrebuild, rfl⟩, ?_⟩
    refine TriggerForm.toTrigger_eq_ok_iff.2 ⟨.bucket selector, ?_, hc ▸ trigger_of_bareForm tr⟩
    unfold TriggerForm.condition
    simp only [hkind, hm]
    exact Compile.map_eq_ok.2 ⟨selector, hparse, rfl⟩

/-- **A document that was written against the backend survives an edit.** -/
theorem Bare.toMonitor_toForm (hd : d.Bare) (hr : d.ReadsBack) (config : Config) :
    d.toForm.toMonitor config =
        .ok { d with triggers := [], sidecar := some d.toForm.sidecar } ∧
      ∀ tr ∈ d.triggers, ∃ t, tr.toForm none = .ok t ∧ t.toTrigger d.toForm config = .ok tr := by
  obtain ⟨input, hinput⟩ := hd.inputs
  have hform := toForm_of_bare hd.sidecar hinput
  constructor
  · -- The query is shown as text and read from it again, so here the text counts.
    have hread : readQuery input.query.json.pretty = .ok input.query :=
      readQuery_pretty (hr.queries input (by rw [hinput]; exact List.mem_singleton_self input))
    have hsearch : d.toForm.searchInput config = .ok input := by
      rw [hform]
      unfold MonitorForm.searchInput
      simp only [hread]
      rfl
    refine MonitorForm.toMonitor_eq_ok_iff.2 ⟨input, hsearch, ?_⟩
    unfold MonitorForm.stored
    rw [hform, hd.documentType, hinput]
    simp only [Bool.not_not, PickedSchedule.schedule_withStored_ofSchedule]
  · intro tr htr
    refine exists_toForm ?_ ?_ (hr.conditions tr htr)
    · rw [hd.triggers tr htr, hform]
    · rw [hform]

/-- A bucket monitor with a schedule, a script and a filter that no form writes. -/
def foreign : Monitor :=
  { documentType := standardType
    name := "hosts"
    kind := .bucketLevel
    enabled := false
    schedule := .cron { expression := "*/5 9-17 * * MON-FRI", timezone := none }
    inputs := [{ indices := ["logs-*"], query := .ofJson (.obj [("size", .nat 0)]) }]
    triggers := [{
      id := some "t1"
      name := "many"
      severity := "3"
      condition := .bucket {
        parentPath := "by"
        paths := .singleton "n" "_count"
        script := { lang := "expression", source := "max(n, 1) > 2" }
        filter := some (.singleton "host" (.singleton "exclude" (.ofJson (.arr [.str "db"])))) }
      actions := [.ofJson .null] }]
    sidecar := none }

theorem foreign_bare : foreign.Bare where
  documentType := rfl
  sidecar := rfl
  inputs := ⟨_, rfl⟩
  triggers := by
    intro tr htr
    rw [List.mem_singleton.1 htr]
    rfl

theorem foreign_readsBack : foreign.ReadsBack where
  queries := by
    intro input hinput
    rw [List.mem_singleton.1 hinput]
    exact Json.readsBack_of_floats (by decide +kernel) (by decide +kernel)
  conditions := by
    intro tr htr
    rw [List.mem_singleton.1 htr]
    exact Json.readsBack_of_floats (by decide +kernel) (by decide +kernel)

theorem Bare.toMonitor_toForm_foreign :
    foreign.Bare ∧ foreign.ReadsBack ∧
      (∃ d, foreign.toForm.toMonitor .initial = .ok d ∧ d.schedule = foreign.schedule ∧
        d.inputs = foreign.inputs) ∧
      ∀ tr ∈ foreign.triggers,
        ∃ t, tr.toForm none = .ok t ∧ t.toTrigger foreign.toForm .initial = .ok tr := by
  obtain ⟨hmonitor, htriggers⟩ := foreign_bare.toMonitor_toForm foreign_readsBack .initial
  exact ⟨foreign_bare, foreign_readsBack, ⟨_, hmonitor, rfl, rfl⟩, htriggers⟩

end Monitor

end Alerting
