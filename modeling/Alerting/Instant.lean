import Alerting.Binary64.Text
import Alerting.Text.Basic

/-!
# Instants

An instant is counted in nanoseconds from the start of 1970 in universal time.  The calendar is the
Gregorian one, extended to the years -262143 to 262142.

`Instant.parse?` reads a date and a time of day with an offset from universal time.  Blanks may
stand between the parts.  A leap second, written as second 60, belongs to the minute that it ends
when the limits of the calendar are checked, and counts as the first second of the next minute.
-/

namespace Alerting

/-! ### Calendar -/

namespace Calendar

/-- Whether a year has a leap day. -/
def isLeap (year : Int) : Bool := year % 4 == 0 && (year % 100 != 0 || year % 400 == 0)

/-- The number of days of a month. -/
def daysInMonth (year : Int) (month : Nat) : Nat :=
  if month = 2 then (if isLeap year then 29 else 28)
  else if month = 4 ∨ month = 6 ∨ month = 9 ∨ month = 11 then 30
  else 31

/-- The number of days from the start of 1970 to the start of a year. -/
def daysToYear (year : Int) : Int :=
  let y := year - 1
  365 * (year - 1970) + (y / 4 - y / 100 + y / 400) - 477

/-- The number of days in the months before a month of a year. -/
def daysToMonth (year : Int) (month : Nat) : Nat :=
  (List.range (month - 1)).foldl (fun days i => days + daysInMonth year (i + 1)) 0

/-- The first year of the calendar. -/
def firstYear : Int := -262143

/-- The last year of the calendar. -/
def lastYear : Int := 262142

/-- The number of days from the start of 1970 to a date, if there is such a date. -/
def days? (year : Int) (month day : Nat) : Option Int :=
  if firstYear ≤ year ∧ year ≤ lastYear ∧ 1 ≤ month ∧ month ≤ 12 ∧ 1 ≤ day
      ∧ day ≤ daysInMonth year month then
    some (daysToYear year + daysToMonth year month + (day - 1))
  else none

end Calendar

/-- A point in time. -/
structure Instant where
  /-- Nanoseconds from the start of 1970. -/
  nanos : Int
  deriving DecidableEq

namespace Instant

/-- Nanoseconds in a second. -/
def second : Int := 1000000000

/-- Nanoseconds in a millisecond. -/
def millisecond : Int := 1000000

/-- Seconds in a day. -/
def daySeconds : Int := 86400

/-- The first instant of the calendar. -/
def first : Instant := ⟨Calendar.daysToYear Calendar.firstYear * daySeconds * second⟩

/-- The first instant after the calendar. -/
def afterLast : Instant := ⟨Calendar.daysToYear (Calendar.lastYear + 1) * daySeconds * second⟩

/-- Whole milliseconds from the start of 1970, rounded down. -/
def millis (t : Instant) : Int := t.nanos / millisecond

/-- The instant a number of seconds earlier, or later for a negative number, unless that is outside
the calendar.  An instant of the calendar only leaves it at the end by going forward. -/
def minusSeconds? (t : Instant) (seconds : Int) : Option Instant :=
  let start : Instant := ⟨t.nanos - seconds * second⟩
  if first.nanos ≤ start.nanos ∧ (0 ≤ seconds ∨ start.nanos < afterLast.nanos) then some start
  else none

/-! ### Reading -/

/-- Reads a number of at most `most` digits after blanks. -/
def readDigits (most : Nat) (cs : List Char) : Option (Nat × List Char) :=
  let cs := Text.trimStart cs
  let ds := (cs.take most).takeWhile Char.isDigit
  if ds.isEmpty then none else some (Numeral.value ds, cs.drop ds.length)

/-- Reads a year after blanks: up to four digits, or any number of them after a sign. -/
def readYear (cs : List Char) : Option (Int × List Char) :=
  let unlimited (cs : List Char) : Option (Nat × List Char) :=
    match Numeral.takeDigits cs with
    | ([], _) => none
    | (ds, r) => some (Numeral.value ds, r)
  match Text.trimStart cs with
  | '-' :: r => (unlimited r).map fun (n, r) => (-n, r)
  | '+' :: r => (unlimited r).map fun (n, r) => (n, r)
  | cs => (readDigits 4 cs).map fun (n, r) => (n, r)

/-- Reads a mark after blanks. -/
def readMark (mark : Char) (cs : List Char) : Option (List Char) :=
  match Text.trimStart cs with
  | c :: r => if c = mark then some r else none
  | [] => none

/-- Reads a date: its days from the start of 1970. -/
def readDate (cs : List Char) : Option (Int × List Char) := do
  let (year, r) ← readYear cs
  let (month, r) ← readDigits 2 (← readMark '-' r)
  let (day, r) ← readDigits 2 (← readMark '-' r)
  return (← Calendar.days? year month day, r)

/-- Reads the mark between date and time. -/
def readSeparator : List Char → Option (List Char)
  | 'T' :: r | 't' :: r | ' ' :: r => some r
  | _ => none

/-- Reads a fraction of a second, if there is one, in nanoseconds; digits after the ninth do not
count. -/
def readFraction (cs : List Char) : Option (Nat × List Char) :=
  match Numeral.takeFraction cs with
  | none => some (0, cs)
  | some ([], _) => none
  | some (ds, r) => some (Numeral.value ((ds ++ List.replicate 9 '0').take 9), r)

/-- A time of day. -/
structure ClockTime where
  /-- Nanoseconds from midnight, in a leap second those of the second before it. -/
  nanos : Int
  /-- Whether it is in a leap second. -/
  leap : Bool
  deriving DecidableEq

/-- Reads a time of day. -/
def readTime (cs : List Char) : Option (ClockTime × List Char) := do
  let (hour, r) ← readDigits 2 cs
  let (minute, r) ← readDigits 2 (← readMark ':' r)
  let (seconds, r) ← readDigits 2 (← readMark ':' r)
  let (fraction, r) ← readFraction r
  if hour ≤ 23 ∧ minute ≤ 59 ∧ seconds ≤ 60 then
    let clock := 3600 * hour + 60 * minute + min seconds 59
    return (⟨clock * second + fraction, seconds == 60⟩, r)
  else none

/-- Reads two digits below a bound. -/
def readPair (bound : Nat) : List Char → Option (Nat × List Char)
  | a :: b :: r =>
    let n := Numeral.value [a, b]
    if a.isDigit && b.isDigit && n < bound then some (n, r) else none
  | _ => none

/-- Reads the hours and minutes of an offset, with a colon, blanks or nothing between them. -/
def readOffsetParts (cs : List Char) : Option (Nat × List Char) := do
  let (hours, r) ← readPair 100 cs
  let (minutes, r) ← readPair 60 (r.dropWhile fun c => c == ':' || Text.isBlank c)
  let seconds := 3600 * hours + 60 * minutes
  if seconds < 86400 then return (seconds, r) else none

/-- Reads an offset from universal time, in seconds. -/
def readOffset (cs : List Char) : Option (Int × List Char) :=
  match cs with
  | 'Z' :: r | 'z' :: r => some (0, r)
  | '+' :: r => (readOffsetParts r).map fun (n, r) => (n, r)
  | '-' :: r | '\u2212' :: r => (readOffsetParts r).map fun (n, r) => (-n, r)
  | u :: t :: c :: r =>
    if [u, t, c].map Char.toUpper = ['U', 'T', 'C'] then some (0, r) else none
  | _ => none

/-- Reads an instant of the calendar. -/
def parse? (s : String) : Option Instant := do
  let (days, r) ← readDate s.toList
  let (time, r) ← readTime (← readSeparator r)
  let (offset, r) ← readOffset (Text.trimStart r)
  let t : Instant := ⟨(days * daySeconds - offset) * second + time.nanos⟩
  if (Text.trimStart r).isEmpty ∧ first.nanos ≤ t.nanos ∧ t.nanos < afterLast.nanos then
    return if time.leap then ⟨t.nanos + second⟩ else t
  else none

end Instant

end Alerting
