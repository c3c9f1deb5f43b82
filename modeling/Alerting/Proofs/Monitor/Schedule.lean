import Alerting.Monitor.Rebuilt
import Mathlib.Tactic.ByContra

/-!
# Schedules of rebuilt forms

The schedule of a monitor can be changed without its form, and the sidecar then keeps a frequency
that the stored schedule was not made by.  The form takes over what its frequency has a field for:
the period of an interval, the expression of a cron expression, and the time zone of any cron
schedule.  Nothing else of the stored schedule reaches it, and the frequency stays as it was kept.

* `PickedSchedule.schedule_withStored` : what the form stands for after that.
* `Monitor.schedule_toForm_iff` : when saving the form keeps the schedule of the monitor.
* `Monitor.schedule_toForm_rescheduled` : a monitor whose schedule is lost.
-/

namespace Alerting

namespace Schedule

/-- A schedule in the time zone of another one, where both have one. -/
def inZoneOf : Schedule → Schedule → Schedule
  | .cron c, .cron other => .cron { c with timezone := other.timezone }
  | s, _ => s

end Schedule

namespace PickedSchedule

/-- The picked frequency can stand for a schedule: by a field of its own, or because its fields
already spell the same expression. -/
def Covers (s : PickedSchedule) : Schedule → Prop
  | .period _ => s.frequency = .interval
  | .cron c =>
    s.frequency = .cronExpression ∨ s.picker.expression? s.frequency = some c.expression

instance (s : PickedSchedule) : (stored : Schedule) → Decidable (s.Covers stored)
  | .period _ => inferInstanceAs (Decidable (_ = _))
  | .cron _ => inferInstanceAs (Decidable (_ ∨ _))

section Shapes

variable {s : PickedSchedule} {expression : String}

theorem interval_of_none (hs : s.picker.expression? s.frequency = none) :
    s.frequency = .interval := by
  cases hf : s.frequency with
  | interval => rfl
  | daily | weekly | monthly | cronExpression =>
    rw [hf] at hs
    cases hs

theorem schedule_of_none (hs : s.picker.expression? s.frequency = none) :
    s.schedule = .period s.picker.period := by
  unfold schedule Picker.schedule
  rw [hs]

theorem schedule_of_some (hs : s.picker.expression? s.frequency = some expression) :
    s.schedule = .cron { expression := expression, timezone := s.picker.timezone } := by
  unfold schedule Picker.schedule
  rw [hs]

end Shapes

theorem schedule_withStored_period (s : PickedSchedule) (p : Period) :
    (s.withStored (.period p)).schedule =
      if s.frequency = .interval then .period p else s.schedule := by
  obtain ⟨frequency, picker⟩ := s
  cases frequency <;> rfl

/-- An expression that fields spell is kept, and only the time zone is taken over. -/
theorem schedule_withStored_cron {s : PickedSchedule} {expression : String}
    (hs : s.picker.expression? s.frequency = some expression) (hf : s.frequency ≠ .cronExpression)
    (c : Cron) :
    (s.withStored (.cron c)).schedule =
      .cron { expression := expression, timezone := c.timezone } := by
  refine schedule_of_some (s := s.withStored (.cron c)) ?_
  obtain ⟨frequency, picker⟩ := s
  cases frequency with
  | interval => cases hs
  | cronExpression => exact absurd rfl hf
  | daily | weekly | monthly => exact hs

/-- What a form stands for once a stored schedule was put in: that schedule if the picked frequency
covers it, and else the schedule that was picked. -/
theorem schedule_withStored (s : PickedSchedule) (stored : Schedule) :
    (s.withStored stored).schedule =
      if s.Covers stored then stored else s.schedule.inZoneOf stored := by
  cases stored with
  | period p =>
    have hzone : s.schedule.inZoneOf (.period p) = s.schedule := by cases s.schedule <;> rfl
    rw [schedule_withStored_period, hzone]
    rfl
  | cron c =>
    by_cases hf : s.frequency = .cronExpression
    · obtain ⟨frequency, picker⟩ := s
      obtain rfl : frequency = .cronExpression := hf
      exact (if_pos (.inl rfl)).symm
    · cases hs : s.picker.expression? s.frequency with
      | none =>
        obtain ⟨frequency, picker⟩ := s
        obtain rfl : frequency = .interval := interval_of_none hs
        rfl
      | some expression =>
        have hcovers : s.Covers (.cron c) ↔ expression = c.expression := by
          simp only [Covers, hf, hs, Option.some.injEq, false_or]
        rw [schedule_withStored_cron hs hf, schedule_of_some hs]
        simp only [hcovers, Schedule.inZoneOf]
        split
        · rename_i he
          rw [he]
        · rfl

/-- A picked schedule that is the stored one covers it. -/
theorem covers_of_inZoneOf {s : PickedSchedule} {stored : Schedule}
    (h : s.schedule.inZoneOf stored = stored) : s.Covers stored := by
  cases hs : s.picker.expression? s.frequency with
  | none =>
    rw [schedule_of_none hs] at h
    cases stored with
    | period p => exact interval_of_none hs
    | cron c => cases h
  | some expression =>
    rw [schedule_of_some hs] at h
    cases stored with
    | period p => cases h
    | cron c =>
      have he : expression = c.expression := congrArg Cron.expression (Schedule.cron.inj h)
      exact .inr (hs.trans (congrArg some he))

end PickedSchedule

namespace Monitor

variable {d : Monitor} {s : Sidecar}

theorem schedule_toForm_of_none (h : d.sidecar = none) :
    d.toForm.schedule.schedule = d.schedule := by
  unfold toForm pickedParts
  simp only [h]
  cases d.schedule <;> rfl

theorem schedule_toForm_of_some (h : d.sidecar = some s) :
    d.toForm.schedule.schedule =
      if s.schedule.Covers d.schedule then d.schedule
      else s.schedule.schedule.inZoneOf d.schedule := by
  rw [← PickedSchedule.schedule_withStored]
  unfold toForm pickedParts
  simp only [h]

/-- **When saving a rebuilt form keeps the schedule of its monitor:** when the frequency in the
sidecar, if there is one, covers that schedule.  Otherwise the schedule is replaced by the one that
the sidecar was kept for. -/
theorem schedule_toForm_iff (d : Monitor) :
    (d.toForm.schedule.schedule = d.schedule ↔
        ∀ s, d.sidecar = some s → s.schedule.Covers d.schedule) ∧
      ∀ s, d.sidecar = some s → ¬s.schedule.Covers d.schedule →
        d.toForm.schedule.schedule = s.schedule.schedule.inZoneOf d.schedule := by
  refine ⟨⟨fun h s hs => ?_, fun h => ?_⟩, fun s hs hc => ?_⟩
  · rw [schedule_toForm_of_some hs] at h
    by_contra hc
    rw [if_neg hc] at h
    exact hc (PickedSchedule.covers_of_inZoneOf h)
  · cases hs : d.sidecar with
    | none => exact schedule_toForm_of_none hs
    | some s => rw [schedule_toForm_of_some hs, if_pos (h s hs)]
  · rw [schedule_toForm_of_some hs, if_neg hc]

/-- A daily monitor that was changed, without its form, to run every five minutes. -/
def rescheduled : Monitor :=
  { documentType := standardType
    name := "errors"
    kind := .queryLevel
    enabled := true
    schedule := .cron { expression := "*/5 * * * *", timezone := some "UTC" }
    inputs := []
    triggers := []
    sidecar := some { Sidecar.initial with
      schedule :=
        { frequency := .daily
          picker := { Picker.initial with
            hour := 9
            timezone := some "UTC" } } } }

/-- Saving the form of a monitor that was changed brings the daily schedule back. -/
theorem schedule_toForm_rescheduled :
    rescheduled.toForm.schedule.schedule =
        .cron { expression := "0 9 * * *", timezone := some "UTC" } ∧
      rescheduled.toForm.schedule.schedule ≠ rescheduled.schedule := by
  decide +kernel

end Monitor

end Alerting
