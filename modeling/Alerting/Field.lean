import Alerting.Json.Coded

/-!
# Fields

A field of an index is picked by its dotted path.  Where clauses tell four types of fields apart;
the mapping types of an index collapse onto them, and some (dates, for instance) onto none.
-/

namespace Alerting

/-- The type of a field in a where clause. -/
inductive FieldType where
  | number
  | text
  | keyword
  | boolean
  deriving DecidableEq

namespace FieldType

instance : Named FieldType where
  all := [.number, .text, .keyword, .boolean]
  name
    | .number => "number"
    | .text => "text"
    | .keyword => "keyword"
    | .boolean => "boolean"

/-- The name of a type in messages. -/
def title : FieldType → String
  | .number => "Number"
  | .text => "Text"
  | .keyword => "Keyword"
  | .boolean => "Boolean"

/-- The mapping types that hold numbers. -/
def numericMappings : List String :=
  ["long", "integer", "short", "byte", "double", "float", "half_float", "scaled_float",
    "unsigned_long"]

/-- The type of the fields of a mapping type. -/
def ofMapping? (mapping : String) : Option FieldType :=
  if mapping ∈ numericMappings then some .number
  else if mapping = "text" then some .text
  else if mapping = "keyword" then some .keyword
  else if mapping = "boolean" then some .boolean
  else none

end FieldType

/-- A picked field. -/
structure FieldRef where
  /-- Its dotted path. -/
  label : String
  /-- Its type, where it is known. -/
  type : Option FieldType
  deriving DecidableEq

namespace FieldRef

instance : Coded FieldRef where
  encode f := .obj (("label", encode f.label) :: optionalMember "type" f.type)
  decode? rigour j := do
    let m ← Members.ofRecord? rigour ["label", "type"] j
    return { label := ← m.required "label", type := ← m.optional "type" }

end FieldRef

end Alerting
