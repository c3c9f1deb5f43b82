import Alerting.Proofs.Trigger.Agreement

/-!
# One bad trigger does not hide the others

Every trigger of a monitor is rebuilt for itself, and gives either a form or a failure.

* `Trigger.toForm_eq_error_iff` : the triggers without a form.
* `Reconstruction.ofTriggers_append` : triggers that stand after others change nothing of what
  these give.
* `Monitor.reconstruct_eq` : the forms, failures and warnings of a monitor, trigger by trigger.
-/

namespace Alerting

/-! ### Triggers without a form -/

namespace BucketSelector

theorem conditions_eq_error_iff {selector : BucketSelector} {entry : Option TriggerSidecar}
    {e : CompileError} :
    selector.conditions entry = .error e ↔
      entry.bind TriggerSidecar.conditions = none ∧
        Chain.parse selector.script.source = .error e := by
  unfold conditions
  cases entry.bind TriggerSidecar.conditions with
  | some cs => simp
  | none => simp only [Compile.map_eq_error, true_and]

end BucketSelector

namespace Trigger

variable {t : Trigger} {sidecar : Option Sidecar} {e : CompileError}

/-- The conditions of a trigger were picked, but nothing is left of them: its sidecar entry is
missing or says no conditions, and its script cannot be read for the reason `e`. -/
def IsUnreadable (t : Trigger) (sidecar : Option Sidecar) (e : CompileError) : Prop :=
  ∃ s selector, sidecar = some s ∧ s.search.kind ≠ .query ∧ t.condition = .bucket selector ∧
    (∀ kept, s.triggers.get? t.name = some kept → kept.conditions = none) ∧
    Chain.parse selector.script.source = .error e

/-- What stands in the place of a form that cannot be rebuilt. -/
def failure? (t : Trigger) (sidecar : Option Sidecar) : Option TriggerFailure :=
  match t.toForm sidecar with
  | .ok _ => none
  | .error e => some { name := t.name, error := e, fallback := t.bareForm }

/-- The trigger has a form although nothing is kept beside it. -/
def isRecovered (t : Trigger) (sidecar : Option Sidecar) : Bool :=
  (t.toForm sidecar).isOk && (sidecar.bind fun s => s.triggers.get? t.name).isNone

theorem rebuiltConditions_eq_error_iff {selector : BucketSelector} {entry : Option TriggerSidecar}
    {kind : SearchKind} :
    rebuiltConditions selector entry kind = .error e ↔
      kind ≠ .query ∧ selector.conditions entry = .error e := by
  unfold rebuiltConditions
  cases selector.conditions entry with
  | ok cs => simp
  | error e' => by_cases hk : kind = .query <;> simp [hk]

/-- A trigger has no form exactly when its conditions are lost. -/
theorem toForm_eq_error_iff : t.toForm sidecar = .error e ↔ t.IsUnreadable sidecar e := by
  unfold toForm IsUnreadable
  rw [Compile.map_eq_error]
  cases hc : t.condition with
  | query script =>
    rw [rebuild_query hc rfl]
    constructor
    · nofun
    · rintro ⟨_, _, -, -, h, -⟩
      cases h
  | bucket selector =>
    have hrebuild : t.rebuild sidecar = .error e ↔
        rebuiltConditions selector (sidecar.bind fun s => s.triggers.get? t.name)
          (searchKind sidecar) = .error e := by
      unfold rebuild
      simp only [hc, Sidecar.toOption_entry]
      cases rebuiltConditions selector (sidecar.bind fun s => s.triggers.get? t.name)
        (searchKind sidecar) with
      | ok cs => exact ⟨nofun, nofun⟩
      | error e' => exact ⟨fun h => by cases h; rfl, fun h => by cases h; rfl⟩
    rw [hrebuild, rebuiltConditions_eq_error_iff, BucketSelector.conditions_eq_error_iff]
    cases sidecar with
    | none =>
      -- Without a sidecar a search counts as written by hand.
      constructor
      · rintro ⟨hk, -⟩
        exact absurd rfl hk
      · rintro ⟨_, _, h, -⟩
        cases h
    | some s =>
      simp only [searchKind, Option.bind_some, Option.bind_eq_none_iff]
      constructor
      · rintro ⟨hk, hkept, hparse⟩
        exact ⟨s, selector, rfl, hk, rfl, hkept, hparse⟩
      · rintro ⟨_, _, ⟨⟩, hk, ⟨⟩, hkept, hparse⟩
        exact ⟨hk, hkept, hparse⟩

/-- The warning that comes with a form. -/
theorem rebuild_of_toForm {form : TriggerForm} (h : t.toForm sidecar = .ok form) :
    t.rebuild sidecar = .ok (form,
      if (sidecar.bind fun s => s.triggers.get? t.name).isNone
      then some (.sidecarMissing t.name) else none) := by
  obtain ⟨⟨form', warning⟩, hr, rfl⟩ := Compile.map_eq_ok.1 h
  rw [hr]
  refine congrArg (fun w => Except.ok (form', w)) ?_
  cases hc : t.condition with
  | query script =>
    rw [rebuild_query hc rfl] at hr
    exact (congrArg Prod.snd (Except.ok.inj hr)).symm
  | bucket selector =>
    unfold rebuild at hr
    simp only [hc, Sidecar.toOption_entry, Compile.bind_eq_ok, Compile.pure_eq_ok] at hr
    obtain ⟨cs, -, hr⟩ := hr
    exact (congrArg Prod.snd hr).symm

end Trigger

/-! ### Forms of a list -/

namespace Reconstruction

variable (sidecar : Option Sidecar) (t : Trigger) (ts us : List Trigger)

theorem append_assoc (r s u : Reconstruction) :
    (r.append s).append u = r.append (s.append u) := by
  simp [append]

/-- The forms of triggers and of others after them, each for themselves. -/
theorem ofTriggers_append :
    ofTriggers sidecar (ts ++ us) = (ofTriggers sidecar ts).append (ofTriggers sidecar us) := by
  induction ts with
  | nil => rfl
  | cons t ts ih => rw [List.cons_append, ofTriggers, ih, ofTriggers, append_assoc]

/-- A trigger gives a form, perhaps with a warning, or a failure. -/
theorem ofTrigger_eq :
    ofTrigger sidecar t =
      { triggers := (t.toForm sidecar).toOption.toList
        failures := (t.failure? sidecar).toList
        warnings := if t.isRecovered sidecar then [.sidecarMissing t.name] else [] } := by
  unfold ofTrigger Trigger.failure? Trigger.isRecovered
  cases h : t.toForm sidecar with
  | error e =>
    have hr : t.rebuild sidecar = .error e := Compile.map_eq_error.1 h
    rw [hr]
    rfl
  | ok form =>
    rw [Trigger.rebuild_of_toForm h]
    cases (sidecar.bind fun s => s.triggers.get? t.name) <;> rfl

theorem ofTriggers_eq :
    ofTriggers sidecar ts =
      { triggers := ts.filterMap fun t => (t.toForm sidecar).toOption
        failures := ts.filterMap fun t => t.failure? sidecar
        warnings := (ts.filter fun t => t.isRecovered sidecar).map fun t =>
          .sidecarMissing t.name } := by
  induction ts with
  | nil => rfl
  | cons t ts ih =>
    simp only [ofTriggers, ih, ofTrigger_eq, append, mk.injEq, List.filterMap_cons,
      List.filter_cons]
    refine ⟨?_, ?_, ?_⟩
    · cases (t.toForm sidecar).toOption <;> rfl
    · cases t.failure? sidecar <;> rfl
    · cases t.isRecovered sidecar <;> rfl

/-- Every trigger is shown once, as a form or as a failure. -/
theorem length_ofTriggers :
    (ofTriggers sidecar ts).triggers.length + (ofTriggers sidecar ts).failures.length =
      ts.length := by
  induction ts with
  | nil => rfl
  | cons t ts ih =>
    have hone : (t.toForm sidecar).toOption.toList.length +
        (t.failure? sidecar).toList.length = 1 := by
      unfold Trigger.failure?
      cases t.toForm sidecar <;> rfl
    simp only [ofTriggers, ofTrigger_eq, append, List.length_append, List.length_cons]
    omega

end Reconstruction

/-! ### Forms of a monitor -/

namespace Monitor

/-- **One bad trigger does not hide the others.**  The forms of a list of triggers are those of its
parts; a trigger has no form exactly when its conditions are lost; each trigger gives, in the order
of the triggers, either its form or a failure with its name and the reason, and a warning for a
form without a sidecar entry. -/
theorem reconstruct_eq (d : Monitor) :
    (∀ ts us, reconstruct { d with triggers := ts ++ us } =
        (reconstruct { d with triggers := ts }).append (reconstruct { d with triggers := us })) ∧
      (∀ (t : Trigger) (e : CompileError),
        t.toForm d.sidecar = .error e ↔ t.IsUnreadable d.sidecar e) ∧
      d.reconstruct =
        { triggers := d.triggers.filterMap fun t => (t.toForm d.sidecar).toOption
          failures := d.triggers.filterMap fun t => t.failure? d.sidecar
          warnings := (d.triggers.filter fun t => t.isRecovered d.sidecar).map fun t =>
            .sidecarMissing t.name } ∧
      d.reconstruct.triggers.length + d.reconstruct.failures.length = d.triggers.length :=
  ⟨Reconstruction.ofTriggers_append d.sidecar, fun _ _ => Trigger.toForm_eq_error_iff,
    Reconstruction.ofTriggers_eq d.sidecar d.triggers,
    Reconstruction.length_ofTriggers d.sidecar d.triggers⟩

end Monitor

end Alerting
