import Alerting.Proofs.Monitor.Compiled
import Alerting.Proofs.Validation

/-!
# Cron expressions of picked schedules

Daily, weekly and monthly schedules are stored as cron expressions of five fields, which are written
from the hour, the days of the week and the day of the month in the form.  Validation asks for a day
of the week where the schedule is weekly, and compares no number with the hours of a day or the days
of a month.

* `Cron.fields?` : the five fields of an expression.
* `CronFields.HasShape`, `Schedule.HasShape` : fields and schedules with numbers in given ranges.
* `PickedSchedule.hasShape_schedule_iff` : which numbers of a form its schedule has.
* `MonitorForm.wellFormed_of_compile_iff` : the accepted forms whose schedule is well formed.
* `MonitorForm.compile_hourOutOfRange` : an accepted form whose schedule is not.
-/

namespace Alerting

/-! ### Fields of expressions -/

/-- The fields of a cron expression. -/
structure CronFields where
  minute : String
  hour : String
  dayOfMonth : String
  month : String
  dayOfWeek : String
  deriving DecidableEq

/-- The fields of an expression: five texts, none of them empty, between single spaces. -/
def Cron.fields? (c : Cron) : Option CronFields :=
  match (c.expression.toList.splitOn ' ').map String.ofList with
  | [minute, hour, dayOfMonth, month, dayOfWeek] =>
    if "" ∈ [minute, hour, dayOfMonth, month, dayOfWeek] then none
    else some {
      minute := minute
      hour := hour
      dayOfMonth := dayOfMonth
      month := month
      dayOfWeek := dayOfWeek }
  | _ => none

namespace CronFields

/-- The numeral of a number in a range. -/
def IsNumeral (range : Nat → Prop) (s : String) : Prop := ∃ n, range n ∧ s = n.repr

/-- A day of the month: any, left open, or a number in a range. -/
def IsDayOfMonth (days : Nat → Prop) (s : String) : Prop := s = "*" ∨ s = "?" ∨ IsNumeral days s

/-- Every month. -/
def IsMonth (s : String) : Prop := s = "*" ∨ s = "*/1"

/-- A day of the week: any, or a list of days.  A sublist of the week has no day twice, and its days
in the order from Monday on. -/
def IsDayOfWeek (s : String) : Prop :=
  s = "*" ∨ ∃ ds : List Weekday, ds ≠ [] ∧ ds.Sublist Weekday.week ∧
    s = ",".intercalate (ds.map Weekday.code)

/-- Fields for a full hour, with the hour and the day of the month in given ranges. -/
structure HasShape (f : CronFields) (hours days : Nat → Prop) : Prop where
  minute : f.minute = "0"
  hour : IsNumeral hours f.hour
  dayOfMonth : IsDayOfMonth days f.dayOfMonth
  month : IsMonth f.month
  dayOfWeek : IsDayOfWeek f.dayOfWeek

/-- A text that can be a field. -/
def IsField (s : String) : Prop := s ≠ "" ∧ ' ' ∉ s.toList

instance (s : String) : Decidable (IsField s) := inferInstanceAs (Decidable (_ ∧ _))

section Numerals

variable {range : Nat → Prop} {n : Nat}

theorem isDigit_of_mem_repr {c : Char} (h : c ∈ n.repr.toList) : c.isDigit = true := by
  rw [Nat.toList_repr] at h
  exact Nat.isDigit_of_mem_toDigits (by decide) (by decide) h

theorem isField_repr (n : Nat) : IsField n.repr := by
  constructor
  · intro h
    have hlist := congrArg String.toList h
    rw [Nat.toList_repr] at hlist
    exact Nat.toDigits_ne_nil hlist
  · exact fun h => absurd (isDigit_of_mem_repr h) (by decide)

/-- The number can be read off its numeral. -/
theorem isNumeral_repr_iff : IsNumeral range n.repr ↔ range n := by
  constructor
  · rintro ⟨k, hk, h⟩
    have hvalue := congrArg (fun s => Nat.ofDigitChars 10 s.toList 0) h
    simp only [Nat.toList_repr, Nat.ofDigitChars_ten_toDigits] at hvalue
    rwa [hvalue]
  · exact fun h => ⟨n, h, rfl⟩

/-- A number is no other field for days. -/
theorem isDayOfMonth_repr_iff : IsDayOfMonth range n.repr ↔ range n := by
  have hdigit : ∀ s : String, s.toList.any (!·.isDigit) = true → n.repr ≠ s := by
    rintro s hs rfl
    obtain ⟨c, hc, hnot⟩ := List.any_eq_true.1 hs
    rw [isDigit_of_mem_repr hc] at hnot
    cases hnot
  unfold IsDayOfMonth
  rw [or_iff_right (hdigit "*" rfl), or_iff_right (hdigit "?" rfl), isNumeral_repr_iff]

end Numerals

/-- Fields with commas between them are one field. -/
theorem isField_intercalate {ss : List String} (hne : ss ≠ []) (h : ∀ s ∈ ss, IsField s) :
    IsField (",".intercalate ss) := by
  induction ss with
  | nil => exact absurd rfl hne
  | cons s ss ih =>
    have hs := h s List.mem_cons_self
    cases ss with
    | nil => simpa using hs
    | cons t ss =>
      have ht := ih (List.cons_ne_nil _ _) fun u hu => h u (List.mem_cons_of_mem s hu)
      rw [String.intercalate_cons_cons]
      constructor
      · simp [hs.1]
      · simp only [String.toList_append, List.mem_append, not_or]
        exact ⟨⟨hs.2, by decide⟩, ht.2⟩

end CronFields

open CronFields

/-- Fields with spaces between them are read back. -/
theorem Cron.fields?_of_intercalate {c : Cron} {f : CronFields}
    (h : ∀ s ∈ [f.minute, f.hour, f.dayOfMonth, f.month, f.dayOfWeek], IsField s)
    (hc : c.expression =
      " ".intercalate [f.minute, f.hour, f.dayOfMonth, f.month, f.dayOfWeek]) :
    c.fields? = some f := by
  have hsplit : (c.expression.toList.splitOn ' ').map String.ofList =
      [f.minute, f.hour, f.dayOfMonth, f.month, f.dayOfWeek] := by
    -- No field has a space, so the spaces of the expression are those between its fields.
    rw [hc, String.toList_intercalate]
    refine (congrArg _ (List.splitOn_intercalate ' ' ?_ (by simp))).trans (by simp)
    exact List.forall_mem_map.2 fun s hs => (h s hs).2
  have hempty : "" ∉ [f.minute, f.hour, f.dayOfMonth, f.month, f.dayOfWeek] :=
    fun hmem => (h "" hmem).1 rfl
  rw [fields?, hsplit]
  exact if_neg hempty

example : Cron.fields? { expression := "0 9 ? */1 *", timezone := none } =
    some { minute := "0", hour := "9", dayOfMonth := "?", month := "*/1", dayOfWeek := "*" } := by
  decide

/-! ### Schedules with numbers in given ranges -/

/-- A schedule with the interval of a period, or the hour and the day of the month of an expression,
in given ranges. -/
def Schedule.HasShape (s : Schedule) (intervals hours days : Nat → Prop) : Prop :=
  match s with
  | .period p => intervals p.interval.toNat
  | .cron c => ∃ f, c.fields? = some f ∧ f.HasShape hours days

/-- A period of at least one unit, or an expression with an hour of the day and, if it has a number
for it, a day that months have. -/
def Schedule.IsWellFormed (s : Schedule) : Prop :=
  s.HasShape (1 ≤ ·) (· ≤ 23) fun n => 1 ≤ n ∧ n ≤ 31

variable {intervals hours days : Nat → Prop}

theorem Weekday.isField_code (d : Weekday) : IsField d.code := by
  cases d <;> decide

theorem Weekdays.isField_codes {w : Weekdays} (h : w.selected ≠ []) :
    IsField (",".intercalate (w.selected.map Weekday.code)) := by
  refine isField_intercalate (by simpa using h) fun s hs => ?_
  obtain ⟨d, -, rfl⟩ := List.mem_map.1 hs
  exact d.isField_code

theorem Weekdays.isDayOfWeek_codes {w : Weekdays} (h : w.selected ≠ []) :
    IsDayOfWeek (",".intercalate (w.selected.map Weekday.code)) :=
  .inr ⟨w.selected, h, List.filter_sublist, rfl⟩

theorem Monthly.isField_code (m : Monthly) : IsField m.code := by
  unfold code
  cases m.kind with
  | day => exact isField_repr _
  | lastDay => exact (by decide : IsField "?")

theorem Monthly.isDayOfMonth_code_iff (m : Monthly) :
    IsDayOfMonth days m.code ↔ (m.kind = .day → days m.day.toNat) := by
  unfold code
  cases m.kind with
  | day => simp [isDayOfMonth_repr_iff]
  | lastDay => simp [IsDayOfMonth]

namespace Picker

/-- A number of the hour and the last three fields make an expression of five. -/
theorem hasShape_hourly_iff (p : Picker) (dayOfMonth month dayOfWeek : String) {text : String}
    (htext : text = dayOfMonth ++ " " ++ month ++ " " ++ dayOfWeek)
    (h : ∀ s ∈ [dayOfMonth, month, dayOfWeek], IsField s) {timezone : Option String} :
    (Schedule.cron ⟨p.hourly text, timezone⟩).HasShape intervals hours days ↔
      hours p.hour.toNat ∧ IsDayOfMonth days dayOfMonth ∧ IsMonth month ∧
        IsDayOfWeek dayOfWeek := by
  let f : CronFields := ⟨"0", p.hour.toNat.repr, dayOfMonth, month, dayOfWeek⟩
  have hfields : Cron.fields? ⟨p.hourly text, timezone⟩ = some f := by
    refine Cron.fields?_of_intercalate ?_ ?_
    · exact List.forall_mem_cons.2 ⟨(by decide : IsField "0"),
        List.forall_mem_cons.2 ⟨isField_repr _, h⟩⟩
    · simp [f, hourly, htext, String.append_assoc]
  simp only [Schedule.HasShape, hfields, Option.some.injEq, exists_eq_left']
  constructor
  · intro hf
    exact ⟨isNumeral_repr_iff.1 hf.hour, hf.dayOfMonth, hf.month, hf.dayOfWeek⟩
  · rintro ⟨hhour, hday, hmonth, hweek⟩
    exact ⟨rfl, isNumeral_repr_iff.2 hhour, hday, hmonth, hweek⟩

end Picker

namespace PickedSchedule

variable {s : PickedSchedule}

/-- The numbers that a schedule is written from are in given ranges.  An expression written by hand
has none. -/
def Within (s : PickedSchedule) (intervals hours days : Nat → Prop) : Prop :=
  match s.frequency with
  | .interval => intervals s.picker.period.interval.toNat
  | .daily | .weekly => hours s.picker.hour.toNat
  | .monthly =>
    hours s.picker.hour.toNat ∧ (s.picker.monthly.kind = .day → days s.picker.monthly.day.toNat)
  | .cronExpression => True

/-- A period of at least one unit, an hour of the day, a day that months have. -/
def InRange (s : PickedSchedule) : Prop :=
  s.Within (1 ≤ ·) (· ≤ 23) fun n => 1 ≤ n ∧ n ≤ 31

/-- A schedule has the numbers that it is written from. -/
theorem hasShape_schedule_iff (hcron : s.frequency ≠ .cronExpression)
    (hweek : s.frequency = .weekly → s.picker.weekly.selected ≠ []) :
    s.schedule.HasShape intervals hours days ↔ s.Within intervals hours days := by
  obtain ⟨frequency, p⟩ := s
  have hany : IsField "*" ∧ IsField "*/1" := by decide
  cases frequency with
  | interval => exact Iff.rfl
  | daily =>
    refine (p.hasShape_hourly_iff "*" "*" "*" rfl (by decide)).trans ?_
    exact and_iff_left ⟨.inl rfl, .inl rfl, .inl rfl⟩
  | weekly =>
    have hdays := hweek rfl
    refine (p.hasShape_hourly_iff "*" "*" _ rfl ?_).trans ?_
    · simp [hany, Weekdays.isField_codes hdays]
    · exact and_iff_left ⟨.inl rfl, .inl rfl, Weekdays.isDayOfWeek_codes hdays⟩
  | monthly =>
    refine (p.hasShape_hourly_iff p.monthly.code "*/1" "*" ?_ ?_).trans ?_
    · simp [String.append_assoc]
    · simp [hany, p.monthly.isField_code]
    · rw [p.monthly.isDayOfMonth_code_iff]
      exact and_congr_right fun _ => and_iff_left ⟨.inr rfl, .inl rfl⟩
  | cronExpression => exact absurd rfl hcron

end PickedSchedule

/-! ### Accepted forms -/

namespace MonitorForm

variable {m : MonitorForm} {ts : List TriggerForm} {config : Config} {d : Monitor}

theorem schedule_of_compile (h : m.compile ts config = .ok d) :
    d.schedule = m.schedule.schedule := by
  obtain ⟨-, -, _, hstored, _, -, rfl⟩ := compile_eq_ok_iff.1 h
  obtain ⟨_, -, rfl⟩ := toMonitor_eq_ok_iff.1 hstored
  rfl

/-- **Which accepted forms have a well-formed schedule.**  A picked schedule is stored as a period or
as an expression of five fields, none of them empty, with the numbers of the form.  It is well formed
just if these are a positive interval, an hour of the day and a day that months have, and no check
asks for that. -/
theorem wellFormed_of_compile_iff (h : m.compile ts config = .ok d)
    (hcron : m.schedule.frequency ≠ .cronExpression) :
    (d.schedule.IsWellFormed ↔ m.schedule.InRange) ∧
      d.schedule.HasShape (· = m.schedule.picker.period.interval.toNat)
        (· = m.schedule.picker.hour.toNat) (· = m.schedule.picker.monthly.day.toNat) := by
  have hweek : m.schedule.frequency = .weekly → m.schedule.picker.weekly.selected ≠ [] :=
    selected_of_validate (compile_eq_ok_iff.1 h).1
  rw [schedule_of_compile h]
  -- Ranges of one number each say that the numbers are those of the form.
  refine ⟨PickedSchedule.hasShape_schedule_iff hcron hweek,
    (PickedSchedule.hasShape_schedule_iff hcron hweek).2 ?_⟩
  unfold PickedSchedule.Within
  cases m.schedule.frequency with
  | interval | daily | weekly => rfl
  | monthly => exact ⟨rfl, fun _ => rfl⟩
  | cronExpression => trivial

/-- An anomaly monitor, of whose form little is checked, runs on two days of the week. -/
theorem wellFormed_of_compile_iff_weekly :
    let m : MonitorForm := { initial with
      name := "grades"
      schedule := {
        frequency := .weekly
        picker := { Picker.initial with
          hour := 23
          weekly := { Weekdays.initial with
            thu := true
            tue := true } } }
      search := { Search.initial with
        kind := .anomaly
        detector := "d1" } }
    ∃ d, m.compile [] .initial = .ok d ∧ m.schedule.frequency ≠ .cronExpression ∧
      m.schedule.InRange ∧ d.schedule.IsWellFormed ∧
        d.schedule = .cron { expression := "0 23 * * TUE,THU", timezone := none } := by
  intro m
  have hcompiles : (m.compile [] .initial).map (fun d => d.schedule) =
      .ok (.cron { expression := "0 23 * * TUE,THU", timezone := none }) := by
    decide +kernel
  obtain ⟨d, hd, hschedule⟩ := Compile.map_eq_ok.1 hcompiles
  have hcron : m.schedule.frequency ≠ .cronExpression := by decide
  have hrange : m.schedule.InRange := (by decide : 23 ≤ 23)
  exact ⟨d, hd, hcron, hrange, (wellFormed_of_compile_iff hd hcron).1.2 hrange, hschedule⟩

/-- A daily monitor is stored with an hour that no day has. -/
theorem compile_hourOutOfRange :
    let m : MonitorForm := { initial with
      name := "errors"
      schedule := {
        frequency := .daily
        picker := { Picker.initial with hour := 24 } }
      indices := ["logs-*"]
      search := { Search.initial with timeField := "@timestamp" } }
    ∃ d, m.compile [] .initial = .ok d ∧
      d.schedule = .cron { expression := "0 24 * * *", timezone := none } ∧
        ¬d.schedule.IsWellFormed := by
  intro m
  have hcompiles : (m.compile [] .initial).map (fun d => d.schedule) =
      .ok (.cron { expression := "0 24 * * *", timezone := none }) := by
    decide +kernel
  obtain ⟨d, hd, hschedule⟩ := Compile.map_eq_ok.1 hcompiles
  refine ⟨d, hd, hschedule, fun hwf => ?_⟩
  have hcron : m.schedule.frequency ≠ .cronExpression := by decide
  have hweek : m.schedule.frequency ≠ .weekly := by decide
  have hrange : m.schedule.InRange :=
    (PickedSchedule.hasShape_schedule_iff hcron (absurd · hweek)).1 (schedule_of_compile hd ▸ hwf)
  exact absurd hrange (by decide : ¬24 ≤ 23)

end MonitorForm

end Alerting
