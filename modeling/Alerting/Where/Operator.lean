import Alerting.Field

/-!
# Where-clause operators

Fourteen operators compare a field with a value.  Each is offered for some types of fields; the
catalogue lists them in the order in which they are shown.
-/

namespace Alerting

namespace Where

/-- The operator of a where clause. -/
inductive Operator where
  | is
  | isNot
  | isNull
  | isNotNull
  | isGreater
  | isGreaterEqual
  | isLess
  | isLessEqual
  | inRange
  | notInRange
  | startsWith
  | endsWith
  | contains
  | doesNotContain
  deriving DecidableEq

namespace Operator

instance : Named Operator where
  all := [.is, .isNot, .isNull, .isNotNull, .isGreater, .isGreaterEqual, .isLess, .isLessEqual,
    .inRange, .notInRange, .startsWith, .endsWith, .contains, .doesNotContain]
  name
    | .is => "is"
    | .isNot => "is_not"
    | .isNull => "is_null"
    | .isNotNull => "is_not_null"
    | .isGreater => "is_greater"
    | .isGreaterEqual => "is_greater_equal"
    | .isLess => "is_less"
    | .isLessEqual => "is_less_equal"
    | .inRange => "in_range"
    | .notInRange => "not_in_range"
    | .startsWith => "starts_with"
    | .endsWith => "ends_with"
    | .contains => "contains"
    | .doesNotContain => "does_not_contain"

/-- The operators in the order in which they are shown. -/
def catalogue : List Operator := Named.all

/-- The text shown for an operator. -/
def label : Operator → String
  | .is => "is"
  | .isNot => "is not"
  | .isNull => "is null"
  | .isNotNull => "is not null"
  | .isGreater => "is greater than"
  | .isGreaterEqual => "is greater than equal"
  | .isLess => "is less than"
  | .isLessEqual => "is less than equal"
  | .inRange => "is in range"
  | .notInRange => "is not in range"
  | .startsWith => "starts with"
  | .endsWith => "ends with"
  | .contains => "contains"
  | .doesNotContain => "does not contain"

/-- The types of fields that an operator is offered for. -/
def fieldTypes : Operator → List FieldType
  | .is | .isNot | .isNull | .isNotNull => [.number, .text, .keyword, .boolean]
  | .isGreater | .isGreaterEqual | .isLess | .isLessEqual | .inRange | .notInRange => [.number]
  | .startsWith | .endsWith | .contains | .doesNotContain => [.text, .keyword]

/-- Whether an operator is offered for a type of fields. -/
def appliesTo (op : Operator) (t : FieldType) : Bool := op.fieldTypes.contains t

/-- The operators offered for a type of fields, in the order in which they are shown. -/
def forType (t : FieldType) : List Operator := catalogue.filter (·.appliesTo t)

/-- Whether an operator takes two bounds. -/
def isRange : Operator → Bool
  | .inRange | .notInRange => true
  | _ => false

/-- Whether an operator takes no value. -/
def isNullCheck : Operator → Bool
  | .isNull | .isNotNull => true
  | _ => false

end Operator

end Where

end Alerting
