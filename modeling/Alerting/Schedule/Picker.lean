import Alerting.Error
import Alerting.Schedule.Basic

/-!
# Schedule pickers

The form picks a schedule by a frequency and the fields that the frequency uses.  `Picker.schedule`
is the schedule that is stored; `PickedSchedule.ofSchedule` recovers a frequency and fields from a
stored schedule alone.
-/

namespace Alerting

/-- How often a monitor runs, as the form offers it. -/
inductive Frequency where
  | interval
  | daily
  | weekly
  | monthly
  | cronExpression
  deriving DecidableEq

namespace Frequency

instance : Named Frequency where
  all := [.interval, .daily, .weekly, .monthly, .cronExpression]
  name
    | .interval => "interval"
    | .daily => "daily"
    | .weekly => "weekly"
    | .monthly => "monthly"
    | .cronExpression => "cronExpression"

/-- The frequency of a name. -/
def parse (s : String) : Compile Frequency :=
  match ofName? Frequency s with
  | some f => .ok f
  | none => .error (.frequency s)

end Frequency

/-- A day of the week, with its name in the form. -/
inductive Weekday where
  | mon
  | tue
  | wed
  | thu
  | fri
  | sat
  | sun
  deriving DecidableEq

namespace Weekday

instance : Named Weekday where
  all := [.mon, .tue, .wed, .thu, .fri, .sat, .sun]
  name
    | .mon => "mon"
    | .tue => "tue"
    | .wed => "wed"
    | .thu => "thu"
    | .fri => "fri"
    | .sat => "sat"
    | .sun => "sun"

/-- The days from Monday on. -/
def week : List Weekday := Named.all

/-- The code of a day in cron expressions. -/
def code : Weekday → String
  | .mon => "MON"
  | .tue => "TUE"
  | .wed => "WED"
  | .thu => "THU"
  | .fri => "FRI"
  | .sat => "SAT"
  | .sun => "SUN"

end Weekday

/-- The days of the week that are ticked. -/
structure Weekdays where
  mon : Bool
  tue : Bool
  wed : Bool
  thu : Bool
  fri : Bool
  sat : Bool
  sun : Bool
  deriving DecidableEq

namespace Weekdays

/-- No day. -/
def initial : Weekdays :=
  { mon := false, tue := false, wed := false, thu := false, fri := false, sat := false,
    sun := false }

/-- Whether a day is ticked. -/
def has (w : Weekdays) : Weekday → Bool
  | .mon => w.mon
  | .tue => w.tue
  | .wed => w.wed
  | .thu => w.thu
  | .fri => w.fri
  | .sat => w.sat
  | .sun => w.sun

/-- The ticked days from Monday on. -/
def selected (w : Weekdays) : List Weekday := Weekday.week.filter w.has

instance : Coded Weekdays where
  encode w := .obj (Weekday.week.map fun d => (nameOf d, encode (w.has d)))
  decode? rigour j := do
    let m ← Members.ofRecord? rigour (Weekday.week.map nameOf) j
    return {
      mon := ← m.withDefault "mon" false
      tue := ← m.withDefault "tue" false
      wed := ← m.withDefault "wed" false
      thu := ← m.withDefault "thu" false
      fri := ← m.withDefault "fri" false
      sat := ← m.withDefault "sat" false
      sun := ← m.withDefault "sun" false }

end Weekdays

/-- How the day of a month is picked. -/
inductive MonthlyKind where
  | day
  | lastDay
  deriving DecidableEq

instance : Named MonthlyKind where
  all := [.day, .lastDay]
  name
    | .day => "day"
    | .lastDay => "lastDay"

/-- The day of a month. -/
structure Monthly where
  /-- How it is picked. -/
  kind : MonthlyKind
  /-- Its number, where it is picked by number. -/
  day : UInt8
  deriving DecidableEq

namespace Monthly

/-- The first day. -/
def initial : Monthly := { kind := .day, day := 1 }

instance : Coded Monthly where
  encode m := .obj [("type", encode m.kind), ("day", encode m.day)]
  decode? rigour j := do
    let m ← Members.ofRecord? rigour ["type", "day"] j
    return {
      kind := ← m.withDefault "type" initial.kind
      day := ← m.withDefault "day" initial.day }

/-- The day in cron expressions.  There is no code for the last day, so it is left open. -/
def code (m : Monthly) : String :=
  match m.kind with
  | .day => m.day.toNat.repr
  | .lastDay => "?"

end Monthly

/-- The fields of the schedule in the form. -/
structure Picker where
  /-- The period of interval schedules. -/
  period : Period
  /-- The hour of daily, weekly and monthly schedules. -/
  hour : UInt8
  /-- The days of weekly schedules. -/
  weekly : Weekdays
  /-- The day of monthly schedules. -/
  monthly : Monthly
  /-- The expression of cron schedules. -/
  cronExpression : String
  /-- The time zone of all but interval schedules. -/
  timezone : Option String
  deriving DecidableEq

namespace Picker

/-- The fields of a new form. -/
def initial : Picker :=
  { period := .initial
    hour := 0
    weekly := .initial
    monthly := .initial
    cronExpression := "0 */1 * * *"
    timezone := none }

/-- The names of the members. -/
def names : List String :=
  ["period", "daily", "weekly", "monthly", "cronExpression", "timezone"]

/-- The members, also where they stand among those of another record. -/
def members (p : Picker) : List (String × Json) :=
  [("period", encode p.period), ("daily", encode p.hour), ("weekly", encode p.weekly),
    ("monthly", encode p.monthly), ("cronExpression", encode p.cronExpression),
    ("timezone", encode p.timezone)]

/-- Reads the fields from the members found. -/
def ofMembers? (m : Members) : Option Picker := do
  return {
    period := ← m.withDefault "period" initial.period
    hour := ← m.withDefault "daily" initial.hour
    weekly := ← m.withDefault "weekly" initial.weekly
    monthly := ← m.withDefault "monthly" initial.monthly
    cronExpression := ← m.withDefault "cronExpression" initial.cronExpression
    timezone := ← m.optional "timezone" }

instance : Coded Picker where
  encode p := .obj p.members
  decode? rigour j := (Members.ofRecord? rigour names j).bind ofMembers?

/-- The cron expression that starts at the full hour, with the given last three fields. -/
def hourly (p : Picker) (days : String) : String := "0 " ++ p.hour.toNat.repr ++ " " ++ days

/-- The cron expression of a frequency; interval schedules have none. -/
def expression? (p : Picker) : Frequency → Option String
  | .interval => none
  | .daily => some (p.hourly "* * *")
  | .weekly => some (p.hourly ("* * " ++ ",".intercalate (p.weekly.selected.map Weekday.code)))
  | .monthly => some (p.hourly (p.monthly.code ++ " */1 *"))
  | .cronExpression => some p.cronExpression

/-- The schedule of a frequency. -/
def schedule (p : Picker) (f : Frequency) : Schedule :=
  match p.expression? f with
  | none => .period p.period
  | some expression => .cron { expression := expression, timezone := p.timezone }

/-- The schedule of a frequency given by name; there is none for other names. -/
def scheduleNamed? (p : Picker) (name : String) : Option Schedule :=
  (Frequency.parse name).toOption.map p.schedule

end Picker

/-- A frequency with the fields of the form. -/
structure PickedSchedule where
  /-- The frequency. -/
  frequency : Frequency
  /-- The fields. -/
  picker : Picker
  deriving DecidableEq

namespace PickedSchedule

/-- The schedule of a new form. -/
def initial : PickedSchedule := { frequency := .interval, picker := .initial }

instance : Coded PickedSchedule where
  encode s := .obj (("frequency", encode s.frequency) :: s.picker.members)
  decode? rigour j := do
    let m ← Members.ofObject? rigour ("frequency" :: Picker.names) j
    return {
      frequency := ← m.withDefault "frequency" initial.frequency
      picker := ← Picker.ofMembers? m.lenient }

/-- The schedule that is stored. -/
def schedule (s : PickedSchedule) : Schedule := s.picker.schedule s.frequency

/-- A frequency and fields for a stored schedule: a period is an interval, and any cron schedule is
kept by its expression. -/
def ofSchedule : Schedule → PickedSchedule
  | .period p => { frequency := .interval, picker := { Picker.initial with period := p } }
  | .cron c =>
    { frequency := .cronExpression
      picker := { Picker.initial with
        cronExpression := c.expression
        timezone := c.timezone } }

end PickedSchedule

end Alerting
