import Alerting.Error
import Alerting.Where.Clause

/-!
# Bucket filters

A bucket selector narrows its buckets down by patterns on the values of a field, which are either
included or excluded; in a pattern `.*` stands for any text.  Six operators have such a filter
(`Clause.patternFilter?`), and a filter with one field and one pattern is read back as a clause on a
keyword field (`PatternFilter.clause?`).
-/

namespace Alerting

namespace Where

/-- The patterns of a bucket filter: by field, then by mode. -/
abbrev PatternFilter := SortedMap (SortedMap Value)

/-- Whether the values that match a pattern are kept or dropped. -/
inductive Mode where
  | keep
  | drop
  deriving DecidableEq

namespace Mode

/-- The name of a mode in a filter. -/
def keyword : Mode → String
  | .keep => "include"
  | .drop => "exclude"

/-- The mode of a name. -/
def ofKeyword? : String → Option Mode
  | "include" => some .keep
  | "exclude" => some .drop
  | _ => none

/-- The operator that asks for equality. -/
def equality : Mode → Operator
  | .keep => .is
  | .drop => .isNot

/-- The operator that asks for a part. -/
def containment : Mode → Operator
  | .keep => .contains
  | .drop => .doesNotContain

theorem ofKeyword?_keyword (m : Mode) : ofKeyword? m.keyword = some m := by
  cases m <;> rfl

theorem ofKeyword?_eq_some_iff {k : String} {m : Mode} : ofKeyword? k = some m ↔ k = m.keyword := by
  constructor
  · intro h
    unfold ofKeyword? at h
    split at h <;> cases h <;> rfl
  · rintro rfl
    exact m.ofKeyword?_keyword

theorem ofKeyword?_eq_none_iff {k : String} :
    ofKeyword? k = none ↔ k ≠ "include" ∧ k ≠ "exclude" := by
  unfold ofKeyword?
  split <;> simp_all

end Mode

/-- The pattern for any text. -/
def anyText : String := ".*"

namespace Clause

/-- The mode and pattern of a clause, if its operator has one. -/
def pattern? (c : Clause) : Option (Mode × Value) :=
  match c.operator with
  | .is => some (.keep, c.value)
  | .isNot => some (.drop, c.value)
  | .contains => some (.keep, .str (anyText ++ c.valueText ++ anyText))
  | .doesNotContain => some (.drop, .str (anyText ++ c.valueText ++ anyText))
  | .startsWith => some (.keep, .str (c.valueText ++ anyText))
  | .endsWith => some (.keep, .str (anyText ++ c.valueText))
  | _ => none

/-- The bucket filter of a clause; there is none without a field. -/
def patternFilter? (c : Clause) : Compile (Option PatternFilter) :=
  match c.field? with
  | none => .ok none
  | some f =>
    match c.pattern? with
    | some (mode, pattern) =>
      .ok (some (.singleton f.label (.singleton mode.keyword pattern)))
    | none => refuse (.operatorNotForBuckets c.operator)

end Clause

/-- A text without the pattern for any text at its start. -/
def afterAnyText? (s : String) : Option String :=
  (anyText.toList.isPrefixOf? s.toList).map String.ofList

/-- A text without the pattern for any text at its end. -/
def beforeAnyText? (s : String) : Option String :=
  (anyText.toList.isSuffixOf? s.toList).map String.ofList

/-- The operator and value of a pattern that is a text. -/
def readPattern (mode : Mode) (p : String) : Operator × String :=
  match (afterAnyText? p).bind beforeAnyText? with
  | some inner => (mode.containment, inner)
  | none =>
    match mode, beforeAnyText? p, afterAnyText? p with
    | .keep, some start, _ => (.startsWith, start)
    | .keep, none, some rest => (.endsWith, rest)
    | _, _, _ => (mode.equality, p)

namespace PatternFilter

/-- The clause of a filter: of its first field, and of that field's first mode. -/
def clause? (f : PatternFilter) : Option Clause := do
  let (label, modes) ← f.entries.head?
  let (keyword, pattern) ← modes.entries.head?
  let mode ← Mode.ofKeyword? keyword
  let (operator, value) := match pattern.str? with
    | some p =>
      let (operator, text) := readPattern mode p
      (operator, Value.str text)
    | none => (mode.equality, pattern)
  return {
    fields := [{ label := label, type := some .keyword }]
    operator := operator
    value := value
    rangeStart := none
    rangeEnd := none }

end PatternFilter

end Where

end Alerting
