import Alerting.Json.Coded

/-!
# Configuration

The settings of the compiler, each with its default.
-/

namespace Alerting

/-- The settings of the compiler. -/
structure Config where
  /-- How many buckets the preview shows. -/
  previewBucketCount : UInt32
  /-- How many conditions a bucket trigger may have. -/
  maxTriggerConditions : UInt64
  /-- How many fields a where clause may have. -/
  maxWhereFilters : UInt64
  /-- Whether scripts of bucket triggers group their conditions by parentheses. -/
  parenthesizeBucketConditions : Bool
  /-- The language of the scripts. -/
  scriptLang : String
  /-- The time zone of the preview of monitors without one. -/
  previewTimeZone : String
  /-- The index that holds the results of anomaly detectors. -/
  anomalyResultsIndex : String
  deriving DecidableEq

/-- The script language of new scripts. -/
def defaultScriptLang : String := "painless"

namespace Config

/-- The default settings. -/
def initial : Config :=
  { previewBucketCount := 5
    maxTriggerConditions := 5
    maxWhereFilters := 1
    parenthesizeBucketConditions := false
    scriptLang := defaultScriptLang
    previewTimeZone := "UTC"
    anomalyResultsIndex := ".opendistro-anomaly-results*" }

/-- The names of the members. -/
def names : List String :=
  ["preview_bucket_count", "max_trigger_conditions", "max_where_filters",
    "parenthesize_bucket_conditions", "script_lang", "preview_time_zone", "anomaly_results_index"]

instance : Coded Config where
  encode c := .obj [
    ("preview_bucket_count", encode c.previewBucketCount),
    ("max_trigger_conditions", encode c.maxTriggerConditions),
    ("max_where_filters", encode c.maxWhereFilters),
    ("parenthesize_bucket_conditions", encode c.parenthesizeBucketConditions),
    ("script_lang", encode c.scriptLang),
    ("preview_time_zone", encode c.previewTimeZone),
    ("anomaly_results_index", encode c.anomalyResultsIndex)]
  decode? rigour j := do
    let m ← Members.ofRecord? rigour names j
    return {
      previewBucketCount := ← m.withDefault "preview_bucket_count" initial.previewBucketCount
      maxTriggerConditions := ← m.withDefault "max_trigger_conditions" initial.maxTriggerConditions
      maxWhereFilters := ← m.withDefault "max_where_filters" initial.maxWhereFilters
      parenthesizeBucketConditions :=
        ← m.withDefault "parenthesize_bucket_conditions" initial.parenthesizeBucketConditions
      scriptLang := ← m.withDefault "script_lang" initial.scriptLang
      previewTimeZone := ← m.withDefault "preview_time_zone" initial.previewTimeZone
      anomalyResultsIndex := ← m.withDefault "anomaly_results_index" initial.anomalyResultsIndex }

end Config

end Alerting
