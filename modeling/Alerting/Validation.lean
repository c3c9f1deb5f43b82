import Alerting.Monitor.Form
import Alerting.Search.Query
import Alerting.Text.Basic
import Alerting.Trigger.Form
import Alerting.Trigger.Selector

/-!
# Validation

What a form has to fulfil before it is saved.  Every check objects to the first rule that is
violated, in the order given here; compiling relies on the checks and does not repeat them.
-/

namespace Alerting

/-- Objects unless a rule holds. -/
def require (holds : Bool) (v : Violation) : Compile Unit :=
  if holds then .ok () else refuse v

theorem require_eq_ok {holds : Bool} {v : Violation} :
    require holds v = .ok () ↔ holds = true := by
  cases holds <;> simp [require, refuse]

/-! ### Where clauses -/

/-- Whether a value is null or a string of blanks. -/
def Value.isVoid (v : Value) : Bool :=
  match v.json with
  | .null => true
  | .str s => Text.isBlankText s
  | _ => false

namespace Where.Clause

/-- A bound is a number, not beyond the end of the range and not before its start. -/
def checkBound (c : Clause) (bound : Binary64) : Compile Unit := do
  require (bound ≠ .nan) .boundNotNumber
  require (c.rangeEnd.all fun stop => !stop.less bound) .startAfterEnd
  require (c.rangeStart.all fun start => !bound.less start) .endBeforeStart

/-- The operator is offered for the type of the field, where that is known. -/
def checkOperator (c : Clause) (f : FieldRef) : Compile Unit :=
  match f.type with
  | some t => require (c.operator.appliesTo t) (.operatorNotForType c.operator t)
  | none => .ok ()

/-- A range has both bounds, in order; a check for null has no value, and all other operators have
one. -/
def checkOperand (c : Clause) : Compile Unit :=
  if c.operator.isRange then
    match c.rangeStart, c.rangeEnd with
    | some start, some stop => do
      c.checkBound start
      c.checkBound stop
    | _, _ => refuse .boundMissing
  else if c.operator.isNullCheck then require c.value.isVoid .valueNotEmpty
  else require (!c.value.isVoid) .valueMissing

/-- The rules for where clauses.  Without a field there is nothing more to check. -/
def validate (c : Clause) (config : Config) : Compile Unit := do
  require (c.fields.length ≤ config.maxWhereFilters.toNat) (.tooManyFields config.maxWhereFilters)
  match c.field? with
  | none => return ()
  | some f => do
    c.checkOperator f
    c.checkOperand

end Where.Clause

/-! ### Conditions -/

namespace Condition

/-- A condition has a metric, and a joiner exactly when it is not the first. -/
def validateAt (i : Nat) (c : Condition) : Compile Unit := do
  require (!Text.isBlankText c.metric) (.metricMissing i)
  match i, c.joiner with
  | 0, some _ => refuse .firstJoined
  | _ + 1, none => refuse (.joinerMissing i)
  | _, _ => return ()

/-- The rules for conditions from the one of a number on. -/
def validateFrom (i : Nat) : List Condition → Compile Unit
  | [] => .ok ()
  | c :: cs => do
    c.validateAt i
    validateFrom (i + 1) cs

/-- The rules for the conditions of a bucket trigger. -/
def validateAll (cs : List Condition) (config : Config) : Compile Unit := do
  require (!cs.isEmpty) .noCondition
  require (cs.length ≤ config.maxTriggerConditions.toNat)
    (.tooManyConditions config.maxTriggerConditions)
  validateFrom 0 cs

end Condition

/-! ### Monitors -/

namespace MonitorForm

/-- The rules for the visual search. -/
def validateGraph (m : MonitorForm) (config : Config) : Compile Unit := do
  let s := m.search
  require (!Text.isBlankText s.timeField) .timeFieldMissing
  require (s.bucketSize ≠ 0) .bucketSizeZero
  s.filter.validate config
  match m.kind with
  | .queryLevel =>
    require (s.aggregation = .count || !s.metricFields.isEmpty) .metricFieldMissing
  | .bucketLevel => do
    require (!s.groupBy.isEmpty) .noGroup
    require (!s.metrics.isEmpty) .noMetric

/-- The rules for monitors. -/
def validate (m : MonitorForm) (config : Config) : Compile Unit := do
  require (!Text.isBlankText m.name) .nameMissing
  require (m.schedule.frequency ≠ .weekly || !m.schedule.picker.weekly.selected.isEmpty) .noWeekday
  match m.search.kind with
  | .anomaly => require (!Text.isBlankText m.search.detector) .detectorMissing
  | .query => do
    let _ ← readQuery m.query
    require (!m.indices.isEmpty) .indexMissing
  | .graph => do
    m.validateGraph config
    require (!m.indices.isEmpty) .indexMissing

end MonitorForm

/-! ### Triggers -/

namespace TriggerForm

/-- The rules for triggers of a kind of monitor and search. -/
def validate (t : TriggerForm) (kind : MonitorKind) (search : SearchKind) (config : Config) :
    Compile Unit := do
  require (!Text.isBlankText t.name) .nameMissing
  match kind, search with
  | .bucketLevel, .query => do
    let _ ← BucketSelector.parse t.selector
    return ()
  | .bucketLevel, _ => do
    Condition.validateAll t.conditions config
    t.filter.validate config
  | .queryLevel, .query => require (!Text.isBlankText t.script.source) .scriptMissing
  | .queryLevel, _ => require t.threshold.value.isFinite .thresholdNotFinite

end TriggerForm

end Alerting
