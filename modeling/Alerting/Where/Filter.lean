import Alerting.Where.Clause

/-!
# Query filters

A where clause with a field compiles to one filter of the search (`Clause.filter?`).  Nothing is
checked here: the clause is taken as its validation leaves it.
-/

namespace Alerting

namespace Where

/-- The bound of a range filter. -/
inductive Bound where
  | gt
  | gte
  | lt
  | lte
  deriving DecidableEq

/-- The name of a bound in a query. -/
def Bound.keyword : Bound → String
  | .gt => "gt"
  | .gte => "gte"
  | .lt => "lt"
  | .lte => "lte"

/-- A filter on one field. -/
inductive Filter where
  /-- The field equals a value. -/
  | term (field : String) (value : Value)
  /-- The field holds the words of a value in their order. -/
  | phrase (field : String) (value : Value)
  /-- The field has a value. -/
  | present (field : String)
  /-- The field lies within bounds. -/
  | range (field : String) (bounds : List (Bound × Json))
  /-- The field starts with a text. -/
  | leading (field text : String)
  /-- The field matches a pattern with `*` for any text. -/
  | wildcard (field pattern : String)
  /-- The words of the field match a pattern. -/
  | wordPattern (field pattern : String)
  /-- A filter does not hold. -/
  | not (f : Filter)
  deriving DecidableEq

namespace Filter

/-- A filter in the query language. -/
def toJson : Filter → Json
  | .term field v => .obj [("term", .obj [(field, v.json)])]
  | .phrase field v => .obj [("match_phrase", .obj [(field, v.json)])]
  | .present field => .obj [("exists", .obj [("field", .str field)])]
  | .range field bounds =>
    .obj [("range", .obj [(field, .obj (bounds.map fun (b, j) => (b.keyword, j)))])]
  | .leading field text => .obj [("prefix", .obj [(field, .str text)])]
  | .wildcard field pattern => .obj [("wildcard", .obj [(field, .str pattern)])]
  | .wordPattern field pattern =>
    .obj [("query_string", .obj [("query", .str pattern), ("default_field", .str field)])]
  | .not f => .obj [("bool", .obj [("must_not", f.toJson)])]

end Filter

namespace Clause

/-- The field has the value: by its words if it is a text. -/
def equalFilter (c : Clause) (f : FieldRef) : Filter :=
  if f.type = some .text then .phrase f.label c.value else .term f.label c.value

/-- The field lies within both bounds. -/
def rangeFilter (c : Clause) (f : FieldRef) : Filter :=
  .range f.label [(.gte, encode c.rangeStart), (.lte, encode c.rangeEnd)]

/-- The field contains the value: among its words if it is a text. -/
def containsFilter (c : Clause) (f : FieldRef) : Filter :=
  let pattern := "*" ++ c.valueText ++ "*"
  if f.type = some .text then .wordPattern f.label pattern else .wildcard f.label pattern

/-- The filter of a clause on a field. -/
def filterOn (c : Clause) (f : FieldRef) : Filter :=
  match c.operator with
  | .is => c.equalFilter f
  | .isNot => .not (c.equalFilter f)
  | .isNull => .not (.present f.label)
  | .isNotNull => .present f.label
  | .isGreater => .range f.label [(.gt, c.value.json)]
  | .isGreaterEqual => .range f.label [(.gte, c.value.json)]
  | .isLess => .range f.label [(.lt, c.value.json)]
  | .isLessEqual => .range f.label [(.lte, c.value.json)]
  | .inRange => c.rangeFilter f
  | .notInRange => .not (c.rangeFilter f)
  | .startsWith => .leading f.label c.valueText
  | .endsWith => .wildcard f.label ("*" ++ c.valueText)
  | .contains => c.containsFilter f
  | .doesNotContain => .not (c.containsFilter f)

/-- The filter of a clause; there is none without a field. -/
def filter? (c : Clause) : Option Filter := c.field?.map c.filterOn

end Clause

end Where

end Alerting
