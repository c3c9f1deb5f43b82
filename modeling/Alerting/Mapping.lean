import Alerting.Field

/-!
# Field paths of an index mapping

A mapping describes the fields of an index as a tree.  A field with an object of `properties` is an
inner node; any other field is a leaf of its `type`, and may have further leaves below it in
`fields`.  `PathTable.ofMapping` lists the paths of all leaves by mapping type, and the pickers read
the table.
-/

namespace Alerting

/-- The field paths of each mapping type. -/
abbrev PathTable := SortedMap StringSet

/-- The path of a name below a path; the empty path stands for the root. -/
def joinPath (path name : String) : String :=
  if path.isEmpty then name else path ++ "." ++ name

namespace Json

/-- The mapping type of a field, if it has one. -/
def mappingType? (field : Json) : Option String :=
  match field.get? "type" with
  | some (.str s) => some s
  | _ => none

mutual
/-- The leaves of a field at a path, each with its mapping type first. -/
def fieldLeaves (path : String) : Json → List (String × String)
  | .obj ms =>
    match innerLeaves path "properties" ms with
    | some leaves => leaves
    | none =>
      ((Json.obj ms).mappingType?.toList.map (·, path))
        ++ (innerLeaves path "fields" ms).getD []
  | _ => []

/-- The leaves below the first member of a name, if it is an object of fields. -/
def innerLeaves (path name : String) : List (String × Json) → Option (List (String × String))
  | [] => none
  | (k, v) :: ms => if k = name then objectLeaves path v else innerLeaves path name ms

/-- The leaves of an object of fields. -/
def objectLeaves (path : String) : Json → Option (List (String × String))
  | .obj fields => some (fieldsLeaves path fields)
  | _ => none

/-- The leaves of all fields below a path. -/
def fieldsLeaves (path : String) : List (String × Json) → List (String × String)
  | [] => []
  | (name, field) :: rest => fieldLeaves (joinPath path name) field ++ fieldsLeaves path rest
end

/-- The leaves of an object of fields at the root. -/
def rootLeaves? (j : Json) : Option (List (String × String)) := objectLeaves "" j

/-- The leaves of one index: those of the `properties` of its `mappings`. -/
def indexLeaves? (j : Json) : Option (List (String × String)) := do
  rootLeaves? (← (← j.get? "mappings").get? "properties")

/-- The leaves of a mapping in any of three shapes: an object with `properties`, one with
`mappings`, or one such object for each index. -/
def mappingLeaves (j : Json) : List (String × String) :=
  match (j.get? "properties").bind rootLeaves? with
  | some leaves => leaves
  | none =>
    match indexLeaves? j with
    | some leaves => leaves
    | none => (j.members?.getD []).flatMap fun (_, index) => (indexLeaves? index).getD []

end Json

namespace PathTable

/-- Records a path under a mapping type. -/
def record (t : PathTable) (mapping path : String) : PathTable :=
  t.insert mapping (((t.get? mapping).getD .empty).insert path ())

/-- The paths of all leaves of a mapping. -/
def ofMapping (v : Value) : PathTable :=
  v.json.mappingLeaves.foldl (fun t (mapping, path) => t.record mapping path) .empty

/-- Typed references to the fields that where clauses can use, by path. -/
def whereFields (t : PathTable) : List FieldRef :=
  (t.entries.flatMap fun (mapping, paths) =>
    match FieldType.ofMapping? mapping with
    | some type => paths.keys.map fun p => { label := p, type := some type }
    | none => []).mergeSort fun a b => a.label ≤ b.label

/-- The paths that metrics can be taken of: those of numbers. -/
def metricFields (t : PathTable) : List String :=
  (t.entries.flatMap fun (mapping, paths) =>
    if FieldType.ofMapping? mapping = some .number then paths.keys else []).mergeSort
      fun a b => a ≤ b

/-- The mapping types of instants. -/
def timeMappings : List String := ["date", "date_nanos"]

/-- The paths of instants. -/
def timeFields (t : PathTable) : List String :=
  (timeMappings.flatMap fun mapping => ((t.get? mapping).getD .empty).keys).mergeSort
    fun a b => a ≤ b

end PathTable

end Alerting
