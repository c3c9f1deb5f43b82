import Alerting.Json.Printer
import Alerting.Where.Operator

/-!
# Where clauses

A where clause narrows a search down by one field.  The form keeps a list of picked fields, of which
the first one counts; without a field there is no filter.
-/

namespace Alerting

namespace Where

/-- A where clause as the form holds it. -/
structure Clause where
  /-- The picked fields. -/
  fields : List FieldRef
  /-- How the field is compared. -/
  operator : Operator
  /-- The value it is compared with. -/
  value : Value
  /-- The lower bound of a range. -/
  rangeStart : Option Binary64
  /-- The upper bound of a range. -/
  rangeEnd : Option Binary64
  deriving DecidableEq

namespace Clause

/-- The clause of a new form: no field, and an empty value. -/
def initial : Clause :=
  { fields := [], operator := .is, value := .str "", rangeStart := none, rangeEnd := none }

/-- The field that counts. -/
def field? (c : Clause) : Option FieldRef := c.fields.head?

/-- The value as plain text, for patterns: nothing for null, and JSON text for all but strings. -/
def valueText (c : Clause) : String :=
  match c.value.json with
  | .str s => s
  | .null => ""
  | j => j.compact

instance : Coded Clause where
  encode c := .obj (
    [("fieldName", encode c.fields), ("operator", encode c.operator),
      ("fieldValue", encode c.value)]
    ++ optionalMember "fieldRangeStart" c.rangeStart
    ++ optionalMember "fieldRangeEnd" c.rangeEnd)
  decode? rigour j := do
    let m ← Members.ofRecord? rigour
      ["fieldName", "operator", "fieldValue", "fieldRangeStart", "fieldRangeEnd"] j
    return {
      fields := ← m.withDefault "fieldName" initial.fields
      operator := ← m.withDefault "operator" initial.operator
      value := ← m.withDefault "fieldValue" initial.value
      rangeStart := ← m.optional "fieldRangeStart"
      rangeEnd := ← m.optional "fieldRangeEnd" }

end Clause

end Where

end Alerting
