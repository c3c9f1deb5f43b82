import Alerting.Proofs.Monitor.Bare
import Alerting.Proofs.Trigger.Reconstruction

/-!
# Conditions edited as text

Whatever becomes of the script of a stored bucket trigger, its condition can be edited as text: the
form that is shown for the trigger, be it rebuilt or what stands beside the failure to rebuild it,
holds the whole condition.

* `TriggerForm.Shows` : the form says all that a trigger says by itself.
* `Trigger.shows_of_toForm` : nothing that is kept beside a trigger, and nothing that is read of its
  script, takes away from that.
* `TriggerForm.Shows.toTrigger` : where searches are written by hand, the form compiles to the
  trigger.
* `Monitor.reconstruct_keeps_selector` : so no condition of a stored bucket trigger is lost.
-/

namespace Alerting

/-! ### What a trigger says by itself -/

/-- A form says all that a trigger says by itself, with the condition of a bucket trigger as
text. -/
structure TriggerForm.Shows (form : TriggerForm) (t : Trigger) : Prop where
  id : form.id = t.id
  name : form.name = t.name
  severity : form.severity = t.severity
  actions : form.actions = t.actions
  script : ∀ script, t.condition = .query script → form.script = script
  selector : ∀ selector, t.condition = .bucket selector → form.selector = (encode selector).pretty

namespace Trigger

variable {t : Trigger} {sidecar : Option Sidecar} {form : TriggerForm}

theorem bareForm_shows (t : Trigger) : t.bareForm.Shows t := by
  obtain ⟨id, name, severity, condition, actions⟩ := t
  cases condition with
  | query script => exact ⟨rfl, rfl, rfl, rfl, by rintro _ ⟨⟩; rfl, nofun⟩
  | bucket selector => exact ⟨rfl, rfl, rfl, rfl, nofun, by rintro _ ⟨⟩; rfl⟩

end Trigger

namespace TriggerForm.Shows

variable {form : TriggerForm} {t : Trigger}

/-- Thresholds that are kept beside the trigger change nothing of what it says by itself. -/
theorem withKept? (h : form.Shows t) (entry : Option TriggerSidecar) :
    (form.withKept? entry).Shows t := by
  cases entry with
  | none => exact h
  | some e => exact ⟨h.id, h.name, h.severity, h.actions, h.script, h.selector⟩

/-- Neither do conditions and a filter picked in the form. -/
theorem withPicked (h : form.Shows t) (cs : List Condition) (c : Where.Clause) :
    Shows { form with conditions := cs, filter := c } t :=
  ⟨h.id, h.name, h.severity, h.actions, h.script, h.selector⟩

theorem parse_selector {selector : BucketSelector} (h : form.Shows t)
    (hc : t.condition = .bucket selector) (hr : (encode selector).ReadsBack) :
    BucketSelector.parse form.selector = .ok selector := by
  rw [h.selector selector hc]
  exact BucketSelector.parse_pretty hr

/-- Where searches are written by hand, the form compiles to the trigger. -/
theorem toTrigger {m : MonitorForm} (h : form.Shows t) (hk : t.condition.kind = m.kind)
    (hm : m.search.kind = .query) (hr : t.condition.ReadsBack) (config : Config) :
    form.toTrigger m config = .ok t := by
  have hcondition : form.condition m config = .ok t.condition := by
    unfold TriggerForm.condition
    cases hc : t.condition with
    | query script =>
      rw [hc] at hk
      simp only [← hk, TriggerCondition.kind, queryScript, hm, h.script script hc]
    | bucket selector =>
      rw [hc] at hk hr
      simp only [← hk, TriggerCondition.kind, hm, h.parse_selector hc hr]
      rfl
  refine toTrigger_eq_ok_iff.2 ⟨t.condition, hcondition, ?_⟩
  rw [h.id, h.name, h.severity, h.actions]

end TriggerForm.Shows

namespace Trigger

variable {t : Trigger} {sidecar : Option Sidecar} {form : TriggerForm}

/-- A rebuilt form says all that the trigger says, whatever is kept beside the trigger. -/
theorem shows_of_toForm (h : t.toForm sidecar = .ok form) : form.Shows t := by
  have hkept := t.bareForm_shows.withKept? (Sidecar.entry sidecar t.name).toOption
  obtain ⟨⟨_, warning⟩, hr, rfl⟩ := Compile.map_eq_ok.1 h
  unfold rebuild at hr
  cases hc : t.condition with
  | query script =>
    simp only [hc, Except.ok.injEq, Prod.mk.injEq] at hr
    exact hr.1 ▸ hkept
  | bucket selector =>
    simp only [hc, Compile.bind_eq_ok, Compile.pure_eq_ok, Prod.mk.injEq] at hr
    obtain ⟨cs, -, hform, -⟩ := hr
    exact hform ▸ hkept.withPicked cs _

end Trigger

/-! ### Forms of a monitor -/

/-- One form is shown for a trigger, rebuilt or beside a failure, and it says all that the trigger
says. -/
theorem Reconstruction.exists_shown (sidecar : Option Sidecar) (t : Trigger) :
    ∃ form : TriggerForm, form.Shows t ∧
      ((∃ warnings, ofTrigger sidecar t = ⟨[form], [], warnings⟩) ∨
        ∃ e, ofTrigger sidecar t = ⟨[], [⟨t.name, e, form⟩], []⟩) := by
  unfold ofTrigger
  cases h : t.rebuild sidecar with
  | ok rebuilt =>
    exact ⟨rebuilt.1, Trigger.shows_of_toForm (Compile.map_eq_ok.2 ⟨_, h, rfl⟩), .inl ⟨_, rfl⟩⟩
  | error e => exact ⟨t.bareForm, t.bareForm_shows, .inr ⟨e, rfl⟩⟩

namespace Monitor

variable {d : Monitor} {ts us : List Trigger} {tr : Trigger} {selector : BucketSelector}

/-- **No condition of a stored bucket trigger is lost.**  What is shown of a trigger stands between
what is shown of the triggers before it and after it; it is one form, rebuilt or beside a failure;
its text is read as the condition of the trigger, and where searches are written by hand the form
compiles to the trigger. -/
theorem reconstruct_keeps_selector (hd : d.triggers = ts ++ tr :: us)
    (hc : tr.condition = .bucket selector) (hr : (encode selector).ReadsBack) :
    d.reconstruct = (reconstruct { d with triggers := ts }).append
        ((reconstruct { d with triggers := [tr] }).append
          (reconstruct { d with triggers := us })) ∧
      ∃ form : TriggerForm,
        ((∃ warnings, reconstruct { d with triggers := [tr] } = ⟨[form], [], warnings⟩) ∨
          ∃ e, reconstruct { d with triggers := [tr] } = ⟨[], [⟨tr.name, e, form⟩], []⟩) ∧
        BucketSelector.parse form.selector = .ok selector ∧
        ∀ (m : MonitorForm) (config : Config), m.kind = .bucketLevel → m.search.kind = .query →
          form.toTrigger m config = .ok tr := by
  have hone : reconstruct { d with triggers := [tr] } = Reconstruction.ofTrigger d.sidecar tr := by
    simp [reconstruct, Reconstruction.ofTriggers, Reconstruction.append, Reconstruction.empty]
  constructor
  · unfold reconstruct
    rw [hd, ← List.singleton_append, Reconstruction.ofTriggers_append,
      Reconstruction.ofTriggers_append]
  · obtain ⟨form, hshows, hform⟩ := Reconstruction.exists_shown d.sidecar tr
    refine ⟨form, hone ▸ hform, hshows.parse_selector hc hr, fun m config hk hm => ?_⟩
    have hread : tr.condition.ReadsBack := by rw [hc]; exact hr
    exact hshows.toTrigger (by rw [hc, hk]; rfl) hm hread config

/-- A monitor whose groups were picked in the form, and whose trigger was then given a script that
no form writes: the trigger cannot be rebuilt, and yet its condition is shown. -/
theorem reconstruct_keeps_selector_foreign :
    let d := { foreign with sidecar := some { Sidecar.initial with kind := .bucketLevel } }
    let m := { MonitorForm.initial with
      kind := .bucketLevel, search := { Search.initial with kind := .query } }
    ∃ tr selector, d.triggers = [] ++ tr :: [] ∧ tr.condition = .bucket selector ∧
      (encode selector).ReadsBack ∧ selector.filter ≠ none ∧ d.reconstruct.triggers = [] ∧
      ∃ failure, d.reconstruct.failures = [failure] ∧
        BucketSelector.parse failure.fallback.selector = .ok selector ∧
        failure.fallback.toTrigger m .initial = .ok tr := by
  intro d m
  obtain ⟨tr, htr⟩ : ∃ tr, d.triggers = [] ++ tr :: [] := ⟨_, rfl⟩
  obtain ⟨selector, hc, hfilter⟩ :
      ∃ selector, tr.condition = .bucket selector ∧ selector.filter ≠ none := by
    obtain rfl := (List.singleton_inj.1 htr).symm
    exact ⟨_, rfl, nofun⟩
  have hr : (encode selector).ReadsBack := by
    have hmem : tr ∈ foreign.triggers := htr ▸ List.mem_singleton_self tr
    have hread := foreign_readsBack.conditions tr hmem
    rwa [hc] at hread
  have hnone : d.reconstruct.triggers = [] := by decide +kernel
  obtain ⟨-, form, hform, hparse, htoTrigger⟩ := reconstruct_keeps_selector htr hc hr
  have hshown : reconstruct { d with triggers := [tr] } = d.reconstruct := by
    rw [show [tr] = d.triggers from htr.symm]
  rw [hshown] at hform
  refine ⟨tr, selector, htr, hc, hr, hfilter, hnone, ?_⟩
  obtain ⟨_, hform⟩ | ⟨e, hform⟩ := hform
  · rw [hform] at hnone
    cases hnone
  · exact ⟨_, congrArg Reconstruction.failures hform, hparse, htoTrigger m .initial rfl rfl⟩

end Monitor

end Alerting
