import Alerting.Proofs.Compile
import Alerting.Proofs.Json.Coded
import Alerting.Proofs.Json.Text
import Alerting.Trigger.Rebuilt
import Alerting.Trigger.Stored
import Alerting.Validation

/-!
# Rebuilt trigger forms

The form that is rebuilt of a stored trigger need not be the form it was compiled from: fields that
do not count for the monitor are lost.  The two *agree* on what counts.

* `TriggerForm.AgreesFor` : what counts, by the kind of the monitor and of its search.
* `TriggerForm.AgreesFor.validate_eq`, `TriggerForm.AgreesFor.toTrigger_eq`,
  `TriggerForm.AgreesFor.sidecar_eq` : forms that agree are accepted alike and compile alike.
* `TriggerForm.exists_rebuild` : what is rebuilt of a compiled trigger and of what was kept beside
  it agrees with the form.
-/

namespace Alerting

/-- What a condition holds as text is read as it was written. -/
def TriggerCondition.ReadsBack : TriggerCondition → Prop
  | .query _ => True
  | .bucket selector => (encode selector).ReadsBack

/-! ### Rebuilding by kind of condition -/

/-- What is found beside the trigger of a name, if there is a sidecar. -/
theorem Sidecar.toOption_entry (sidecar : Option Sidecar) (name : String) :
    (entry sidecar name).toOption = sidecar.bind fun s => s.triggers.get? name := by
  unfold entry
  cases sidecar.bind fun s => s.triggers.get? name <;> rfl

namespace Trigger

variable {tr : Trigger} {sidecar : Option Sidecar} {entry : Option TriggerSidecar}

theorem rebuild_query {script : Script} (hc : tr.condition = .query script)
    (he : (sidecar.bind fun s => s.triggers.get? tr.name) = entry) :
    tr.rebuild sidecar = .ok (tr.bareForm.withKept? entry,
      if entry.isNone then some (.sidecarMissing tr.name) else none) := by
  unfold rebuild
  simp only [hc, Sidecar.toOption_entry, he]

theorem rebuild_bucket {selector : BucketSelector} {cs : List Condition}
    (hc : tr.condition = .bucket selector)
    (he : (sidecar.bind fun s => s.triggers.get? tr.name) = entry)
    (hcs : rebuiltConditions selector entry (searchKind sidecar) = .ok cs) :
    tr.rebuild sidecar = .ok ({ tr.bareForm.withKept? entry with
        conditions := cs
        filter := selector.whereClause entry },
      if entry.isNone then some (.sidecarMissing tr.name) else none) := by
  unfold rebuild
  simp only [hc, Sidecar.toOption_entry, he, hcs]
  rfl

/-- Where searches are written by hand, no script stands in the way of a form. -/
theorem exists_rebuiltConditions_query (selector : BucketSelector) (entry : Option TriggerSidecar) :
    ∃ cs, rebuiltConditions selector entry .query = .ok cs := by
  unfold rebuiltConditions
  cases hcs : selector.conditions entry with
  | ok cs => exact ⟨cs, rfl⟩
  | error e => exact ⟨_, rfl⟩

end Trigger

namespace TriggerForm

variable {m : MonitorForm} {config : Config} {t u : TriggerForm}

/-! ### Agreement -/

/-- `u` has the fields of `t` that count for the monitor `m`. -/
structure AgreesFor (m : MonitorForm) (t u : TriggerForm) : Prop where
  id : u.id = t.id
  name : u.name = t.name
  severity : u.severity = t.severity
  actions : u.actions = t.actions
  threshold : u.threshold = t.threshold
  conditions : m.kind = .bucketLevel → m.search.kind ≠ .query → u.conditions = t.conditions
  filter : m.kind = .bucketLevel → m.search.kind ≠ .query → u.filter = t.filter
  anomaly : m.search.kind = .anomaly → u.anomaly = t.anomaly
  script : m.kind = .queryLevel → m.search.kind = .query → u.script = t.script
  /-- Selectors written by hand are compared as what they are read as. -/
  selector : m.kind = .bucketLevel → m.search.kind = .query →
    BucketSelector.parse u.selector = BucketSelector.parse t.selector

namespace AgreesFor

variable (h : t.AgreesFor m u)

include h

theorem queryScript_eq (hk : m.kind = .queryLevel) :
    u.queryScript m.search config = t.queryScript m.search config := by
  unfold queryScript
  cases hs : m.search.kind with
  | query => exact h.script hk hs
  | anomaly => simp only [h.anomaly hs]
  | graph => simp only [h.threshold]

theorem toSelector_eq (hk : m.kind = .bucketLevel) (hs : m.search.kind ≠ .query) :
    u.toSelector config = t.toSelector config := by
  unfold toSelector
  rw [h.conditions hk hs, h.filter hk hs]

theorem condition_eq : u.condition m config = t.condition m config := by
  unfold condition
  cases hk : m.kind with
  | queryLevel => simp only [h.queryScript_eq hk]
  | bucketLevel =>
    cases hs : m.search.kind with
    | query => simp only [h.selector hk hs]
    | anomaly | graph => simp only [h.toSelector_eq hk (hs ▸ nofun)]

theorem toTrigger_eq : u.toTrigger m config = t.toTrigger m config := by
  unfold toTrigger
  rw [h.condition_eq, h.id, h.name, h.severity, h.actions]

theorem sidecar_eq : u.sidecar m = t.sidecar m := by
  have hanomaly : (if m.search.kind = .anomaly then some (KeptAnomaly.mk u.anomaly) else none) =
      if m.search.kind = .anomaly then some (KeptAnomaly.mk t.anomaly) else none := by
    split
    · rename_i hs; rw [h.anomaly hs]
    · rfl
  unfold sidecar
  rw [h.threshold, hanomaly]
  by_cases hp : hasPickedConditions m = true
  · have hp' := hp
    simp only [hasPickedConditions, Bool.and_eq_true, decide_eq_true_eq] at hp'
    rw [h.conditions hp'.1 hp'.2, h.filter hp'.1 hp'.2]
  · simp only [hp, Bool.false_eq_true, ↓reduceIte]

theorem validate_eq :
    u.validate m.kind m.search.kind config = t.validate m.kind m.search.kind config := by
  unfold validate
  rw [h.name]
  cases hk : m.kind with
  | queryLevel =>
    cases hs : m.search.kind with
    | query => simp only [h.script hk hs]
    | anomaly | graph => simp only [h.threshold]
  | bucketLevel =>
    cases hs : m.search.kind with
    | query => simp only [h.selector hk hs]
    | anomaly | graph => simp only [h.conditions hk (hs ▸ nofun), h.filter hk (hs ▸ nofun)]

end AgreesFor

/-! ### Rebuilt forms -/

variable {tr : Trigger}

theorem toTrigger_eq_ok_iff :
    t.toTrigger m config = .ok tr ↔
      ∃ c, t.condition m config = .ok c ∧
        { id := t.id, name := t.name, severity := t.severity, condition := c,
          actions := t.actions } = tr := by
  unfold toTrigger
  simp only [Compile.bind_eq_ok, Compile.pure_eq_ok]

theorem withKept_anomaly (ha : m.search.kind = .anomaly) :
    (u.withKept (t.sidecar m)).anomaly = t.anomaly := by
  simp only [withKept, sidecar, ha, ↓reduceIte]

/-- Conditions that were picked are found beside the trigger. -/
theorem exists_rebuiltConditions (selector : BucketSelector) (hk : m.kind = .bucketLevel) :
    ∃ cs, Trigger.rebuiltConditions selector (some (t.sidecar m)) m.search.kind = .ok cs ∧
      (m.search.kind ≠ .query → cs = t.conditions) := by
  by_cases hs : m.search.kind = .query
  · obtain ⟨cs, hcs⟩ := Trigger.exists_rebuiltConditions_query selector (some (t.sidecar m))
    exact ⟨cs, hs ▸ hcs, fun h => absurd hs h⟩
  · have hp : hasPickedConditions m = true := by simp [hasPickedConditions, hk, hs]
    have hcs : selector.conditions (some (t.sidecar m)) = .ok t.conditions := by
      simp only [BucketSelector.conditions, sidecar, hp, Option.bind_some, ↓reduceIte]
    exact ⟨t.conditions, by simp only [Trigger.rebuiltConditions, hcs], fun _ => rfl⟩

theorem query_of_condition {c : TriggerCondition} (hc : t.condition m config = .ok c)
    (hk : m.kind = .queryLevel) : .query (t.queryScript m.search config) = c := by
  unfold condition at hc
  simp only [hk] at hc
  exact Except.ok.inj hc

theorem bucket_of_condition {c : TriggerCondition} (hc : t.condition m config = .ok c)
    (hk : m.kind = .bucketLevel) :
    ∃ selector, .bucket selector = c ∧
      (m.search.kind = .query → BucketSelector.parse t.selector = .ok selector) := by
  unfold condition at hc
  cases hq : m.search.kind with
  | query =>
    simp only [hk, hq, Compile.map_eq_ok] at hc
    obtain ⟨selector, hselector, hc⟩ := hc
    exact ⟨selector, hc, fun _ => hselector⟩
  | anomaly | graph =>
    simp only [hk, hq, Compile.map_eq_ok] at hc
    obtain ⟨selector, -, hc⟩ := hc
    exact ⟨selector, hc, nofun⟩

/-- What is rebuilt of a compiled trigger agrees with the form, if what was kept is found. -/
theorem exists_rebuild {s : Sidecar} (htr : t.toTrigger m config = .ok tr)
    (hs : s.search.kind = m.search.kind) (he : s.triggers.get? t.name = some (t.sidecar m))
    (hr : m.search.kind = .query → tr.condition.ReadsBack) :
    ∃ u, tr.rebuild (some s) = .ok (u, none) ∧ t.AgreesFor m u := by
  obtain ⟨c, hc, htr⟩ := toTrigger_eq_ok_iff.1 htr
  have hentry : ((some s).bind fun s => s.triggers.get? tr.name) = some (t.sidecar m) := by
    rw [← htr]
    exact he
  have hcondition : tr.condition = c := by rw [← htr]
  cases hk : m.kind with
  | queryLevel =>
    obtain rfl := query_of_condition hc hk
    have hu := Trigger.rebuild_query hcondition hentry
    subst htr
    exact ⟨_, hu, {
      id := rfl
      name := rfl
      severity := rfl
      actions := rfl
      threshold := rfl
      conditions := hk ▸ nofun
      filter := hk ▸ nofun
      anomaly := fun ha => withKept_anomaly ha
      script := fun _ hq => by
        simp only [withKept?, withKept, Trigger.bareForm, queryScript, hq]
      selector := hk ▸ nofun }⟩
  | bucketLevel =>
    obtain ⟨selector, rfl, hselector⟩ := bucket_of_condition hc hk
    -- What is read back of a script is of no use to the monitor unless conditions are picked.
    obtain ⟨cs, hcs, hpicked⟩ := exists_rebuiltConditions (t := t) selector hk
    rw [← hs] at hcs
    have hu := Trigger.rebuild_bucket hcondition hentry hcs
    subst htr
    exact ⟨_, hu, {
      id := rfl
      name := rfl
      severity := rfl
      actions := rfl
      threshold := rfl
      conditions := fun _ hq => hpicked hq
      filter := fun _ hq => by
        simp [BucketSelector.whereClause, sidecar, hasPickedConditions, hk, hq]
      anomaly := fun ha => by simp only [withKept?, withKept_anomaly ha]
      script := hk ▸ nofun
      selector := fun _ hq => (BucketSelector.parse_pretty (hr hq)).trans (hselector hq).symm }⟩

end TriggerForm

end Alerting
