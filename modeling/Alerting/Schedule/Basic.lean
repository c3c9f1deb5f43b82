import Alerting.Json.Coded

/-!
# Schedules

A monitor runs either every so many minutes, hours or days, or at the times of a cron expression.
-/

namespace Alerting

/-- The unit of a period. -/
inductive PeriodUnit where
  | minutes
  | hours
  | days
  deriving DecidableEq

namespace PeriodUnit

instance : Named PeriodUnit where
  all := [.minutes, .hours, .days]
  name
    | .minutes => "MINUTES"
    | .hours => "HOURS"
    | .days => "DAYS"

/-- The unit in date arithmetic of queries. -/
def suffix : PeriodUnit → String
  | .minutes => "m"
  | .hours => "h"
  | .days => "d"

end PeriodUnit

/-- A time between two runs. -/
structure Period where
  /-- How many units. -/
  interval : UInt32
  /-- The unit. -/
  unit : PeriodUnit
  deriving DecidableEq

namespace Period

/-- The period of a new form. -/
def initial : Period := { interval := 1, unit := .minutes }

instance : Coded Period where
  encode p := .obj [("interval", encode p.interval), ("unit", encode p.unit)]
  decode? rigour j := do
    let m ← Members.ofRecord? rigour ["interval", "unit"] j
    return { interval := ← m.required "interval", unit := ← m.required "unit" }

end Period

/-- A cron schedule. -/
structure Cron where
  /-- Minute, hour, day of month, month and day of week. -/
  expression : String
  /-- The time zone of the expression. -/
  timezone : Option String
  deriving DecidableEq

namespace Cron

instance : Coded Cron where
  encode c := .obj [("expression", encode c.expression), ("timezone", encode c.timezone)]
  decode? rigour j := do
    let m ← Members.ofRecord? rigour ["expression", "timezone"] j
    return { expression := ← m.required "expression", timezone := ← m.optionalByName "timezone" }

end Cron

/-- When a monitor runs. -/
inductive Schedule where
  /-- Every so often. -/
  | period (p : Period)
  /-- At the times of an expression. -/
  | cron (c : Cron)
  deriving DecidableEq

namespace Schedule

instance : Coded Schedule where
  encode
    | .period p => .obj [("period", encode p)]
    | .cron c => .obj [("cron", encode c)]
  decode?
    | rigour, .obj [("period", j)] => (decodeWith? Period rigour j).map .period
    | rigour, .obj [("cron", j)] => (decodeWith? Cron rigour j).map .cron
    | _, _ => none

end Schedule

end Alerting
