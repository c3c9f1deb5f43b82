import Alerting.Text.Quoted
import Alerting.Where.Operator

/-!
# Why a form or document is refused

`Violation` lists what validation objects to, each with the field of the form and the reason that
are shown; `ScriptFault` lists why a script is not one that the compiler writes; `CompileError`
holds these and the remaining causes, and `CompileError.message` is the only place with their
wording.
-/

namespace Alerting

/-- What validation objects to in a form. -/
inductive Violation where
  /-- A bound of a range is not a number. -/
  | boundNotNumber
  /-- A bound of a range lies beyond its end. -/
  | startAfterEnd
  /-- A bound of a range lies before its start. -/
  | endBeforeStart
  /-- A where clause has more fields than the limit. -/
  | tooManyFields (limit : UInt64)
  /-- An operator is not offered for the type of the field. -/
  | operatorNotForType (op : Where.Operator) (type : FieldType)
  /-- An operator has no bucket filter. -/
  | operatorNotForBuckets (op : Where.Operator)
  /-- A range lacks a bound. -/
  | boundMissing
  /-- A check for null has a value. -/
  | valueNotEmpty
  /-- An operator lacks its value. -/
  | valueMissing
  /-- A bucket trigger has no condition. -/
  | noCondition
  /-- A bucket trigger has more conditions than the limit. -/
  | tooManyConditions (limit : UInt64)
  /-- A condition lacks its metric. -/
  | metricMissing (index : Nat)
  /-- The first condition is joined to nothing. -/
  | firstJoined
  /-- A later condition lacks its joiner. -/
  | joinerMissing (index : Nat)
  /-- A monitor or trigger lacks its name. -/
  | nameMissing
  /-- A weekly schedule has no day. -/
  | noWeekday
  /-- An anomaly monitor lacks its detector. -/
  | detectorMissing
  /-- A graph monitor lacks its time field. -/
  | timeFieldMissing
  /-- The bucket size is zero. -/
  | bucketSizeZero
  /-- The preview reaches back beyond the calendar. -/
  | windowOutOfRange
  /-- An aggregation lacks its field. -/
  | metricFieldMissing
  /-- A bucket monitor groups by nothing. -/
  | noGroup
  /-- A bucket monitor measures nothing. -/
  | noMetric
  /-- A monitor searches no index. -/
  | indexMissing
  /-- A trigger lacks its script. -/
  | scriptMissing
  /-- A threshold is not a finite number. -/
  | thresholdNotFinite
  /-- Two triggers have one name. -/
  | duplicateTrigger (name : String)
  deriving DecidableEq

namespace Violation

/-- The field of the form that is at fault. -/
def field : Violation → String
  | .boundNotNumber => "fieldRange"
  | .startAfterEnd => "fieldRangeStart"
  | .endBeforeStart => "fieldRangeEnd"
  | .tooManyFields _ => "where.fieldName"
  | .operatorNotForType _ _ | .operatorNotForBuckets _ => "where.operator"
  | .boundMissing => "where.fieldRange"
  | .valueNotEmpty | .valueMissing => "where.fieldValue"
  | .noCondition | .tooManyConditions _ => "triggerConditions"
  | .metricMissing i => "triggerConditions[" ++ i.repr ++ "].queryMetric"
  | .firstJoined => "triggerConditions[0].andOrCondition"
  | .joinerMissing i => "triggerConditions[" ++ i.repr ++ "].andOrCondition"
  | .nameMissing => "name"
  | .noWeekday => "weekly"
  | .detectorMissing => "detectorId"
  | .timeFieldMissing => "timeField"
  | .bucketSizeZero | .windowOutOfRange => "bucketValue"
  | .metricFieldMissing => "fieldName"
  | .noGroup => "groupBy"
  | .noMetric => "aggregations"
  | .indexMissing => "index"
  | .scriptMissing => "script.source"
  | .thresholdNotFinite => "thresholdValue"
  | .duplicateTrigger _ => "triggers.name"

/-- The reason that is shown. -/
def reason : Violation → String
  | .startAfterEnd => "start must be less than end"
  | .endBeforeStart => "end must be greater than start"
  | .tooManyFields limit => "at most " ++ limit.toNat.repr ++ " field(s)"
  | .operatorNotForType op type =>
    Text.quoted op.label ++ " is not available for " ++ type.title ++ " fields"
  | .operatorNotForBuckets op => op.label ++ " is not supported by bucket-level filters"
  | .boundMissing => "both bounds are required"
  | .valueNotEmpty => "must be empty for null checks"
  | .noCondition => "at least one condition is required"
  | .tooManyConditions limit => "at most " ++ limit.toNat.repr ++ " conditions"
  | .firstJoined => "first condition cannot be joined"
  | .joinerMissing _ => "must be AND or OR"
  | .noWeekday => "select at least one day"
  | .bucketSizeZero => "must be positive"
  | .windowOutOfRange => "window out of range"
  | .metricFieldMissing => "required for this aggregation"
  | .noGroup => "at least one field is required"
  | .noMetric => "at least one metric is required"
  | .thresholdNotFinite => "must be a number"
  | .duplicateTrigger name => "duplicate trigger name " ++ Text.quoted name
  | .boundNotNumber | .valueMissing | .metricMissing _ | .nameMissing | .detectorMissing
  | .timeFieldMissing | .indexMissing | .scriptMissing => "required"

end Violation

/-- Why a script is not one that the compiler writes. -/
inductive ScriptFault where
  /-- The tokens do not group into clauses and joiners. -/
  | tokenCount (count : Nat)
  /-- A clause does not start with a parameter. -/
  | notParameter (token : String)
  /-- A clause has no known comparison. -/
  | notComparison (token : String)
  /-- A clause has no finite threshold. -/
  | notFinite (token : String)
  /-- Two clauses are joined by no known joiner. -/
  | notJoiner (token : String)
  deriving DecidableEq

/-- The reason that is shown. -/
def ScriptFault.reason : ScriptFault → String
  | .tokenCount n => n.repr ++ " tokens do not form 3 + 4n clause tokens"
  | .notParameter t => "expected params.<metric>, got " ++ Text.quoted t
  | .notComparison t => "unknown relational operator " ++ Text.quoted t
  | .notFinite t => "threshold " ++ Text.quoted t ++ " is not a finite number"
  | .notJoiner t => "unknown logical operator " ++ Text.quoted t

/-- Why a form or document is refused. -/
inductive CompileError where
  /-- A text that should hold a query or a bucket selector does not. -/
  | querySyntax
  /-- A schedule has no known frequency. -/
  | frequency (name : String)
  /-- A script is not one that the compiler writes. -/
  | foreignScript (script : String) (fault : ScriptFault)
  /-- The document says nothing about the form of a trigger. -/
  | sidecarMissing (trigger : String)
  /-- Validation objects. -/
  | invalid (violation : Violation)
  deriving DecidableEq

namespace CompileError

/-- The message that is shown. -/
def message : CompileError → String
  | .querySyntax => "invalid query syntax"
  | .frequency name => "unsupported schedule type: " ++ name
  | .foreignScript script fault =>
    "ambiguous reverse parse: " ++ fault.reason ++ " (script: " ++ Text.quoted script ++ ")"
  | .sidecarMissing trigger => "missing sidecar metadata for trigger " ++ Text.quoted trigger
  | .invalid v => "validation: " ++ v.field ++ ": " ++ v.reason

end CompileError

/-- A computation that may be refused. -/
abbrev Compile := Except CompileError

/-- Results are compared by what they hold. -/
instance Compile.decidableEq {α : Type} [DecidableEq α] : DecidableEq (Compile α)
  | .ok a, .ok b => decidable_of_iff (a = b) ⟨congrArg Except.ok, Except.ok.inj⟩
  | .error e, .error f => decidable_of_iff (e = f) ⟨congrArg Except.error, Except.error.inj⟩
  | .ok _, .error _ | .error _, .ok _ => .isFalse nofun

/-- Refuses a form that violates a rule. -/
def refuse {α : Type} (v : Violation) : Compile α := .error (.invalid v)

end Alerting
