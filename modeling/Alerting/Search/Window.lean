import Alerting.Config
import Alerting.Error
import Alerting.Instant
import Alerting.Search.Basic

/-!
# Time windows

A stored query covers one bucket up to the end of the period in which it runs; the backend puts the
instant in.  A preview covers a number of buckets up to a given instant.
-/

namespace Alerting

/-- The instant for which the backend puts the end of the period in. -/
def periodEnd : String := "\x7b\x7bperiod_end\x7d\x7d"

/-- A number of units before the end of the period. -/
def beforePeriodEnd (amount : UInt32) (suffix : String) : String :=
  periodEnd ++ "||-" ++ amount.toNat.repr ++ suffix

/-- The time that a query covers. -/
inductive Window where
  /-- An amount of time up to the end of the period. -/
  | relative (amount : UInt32) (unit : BucketUnit)
  /-- From one instant to another. -/
  | absolute (start stop : Instant)
  deriving DecidableEq

namespace Window

/-- The bounds of the time field. -/
def bounds : Window → Json
  | .relative amount unit =>
    .obj [("gte", .str (beforePeriodEnd amount unit.suffix)), ("lte", .str periodEnd),
      ("format", .str "epoch_millis")]
  | .absolute start stop =>
    .obj [("gte", .int start.millis), ("lte", .int stop.millis), ("format", .str "epoch_millis")]

/-- The filter on a time field. -/
def filter (w : Window) (timeField : String) : Json :=
  .obj [("range", .obj [(timeField, w.bounds)])]

end Window

namespace Search

/-- The window of the stored query. -/
def storedWindow (s : Search) : Window := .relative s.bucketSize s.bucketUnit

/-- How many units the preview goes back: a product of words of 64 bits with a sign.  One that they
have no room for wraps around, and may be negative. -/
def previewUnits64 (s : Search) (config : Config) : Int64 :=
  Int64.ofNat s.bucketSize.toNat * Int64.ofNat config.previewBucketCount.toNat

/-- The start of the preview, unless it lies outside the calendar. -/
def previewStart (s : Search) (now : Instant) (config : Config) : Compile Instant :=
  match (s.bucketUnit.duration? (s.previewUnits64 config).toInt).bind now.minusSeconds? with
  | some start => .ok start
  | none => refuse .windowOutOfRange

end Search

end Alerting
