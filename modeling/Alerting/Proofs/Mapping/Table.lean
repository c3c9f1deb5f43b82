import Alerting.Proofs.Mapping.Leaves

/-!
# The table of a mapping

A table records leaves one by one, so that it lists what was recorded and no type without a path.
A mapping may come as an object of fields, as an index, or as a response about several indices; its
table lists the leaves of its fields in all three.

* `PathTable.Lists` : what a table lists.
* `PathTable.lists_record`, `PathTable.lists_ofMapping` : one record, and all of them.
* `PathTable.NoneEmpty.record`, `PathTable.noneEmpty_ofMapping` : there is a path under each type.
* `Mapping.ofFields`, `Mapping.ofIndex`, `Mapping.ofIndices` : the shapes of a mapping.
* `PathTable.lists_leaves` : the tables of the three shapes.

What this does **not** say: where the first name of a way is empty, the next one is not set apart by
a dot.  Further down an empty name is one like others.
-/

namespace Alerting

/-! ### What a table lists -/

namespace PathTable

/-- The paths under a mapping type. -/
def paths (t : PathTable) (mapping : String) : StringSet := (t.get? mapping).getD .empty

/-- The table lists a path under a mapping type. -/
def Lists (t : PathTable) (mapping path : String) : Prop := path ∈ (t.paths mapping).keys

instance (t : PathTable) (mapping path : String) : Decidable (t.Lists mapping path) :=
  inferInstanceAs (Decidable (path ∈ (t.paths mapping).keys))

/-- Every mapping type of the table has a path. -/
def NoneEmpty (t : PathTable) : Prop := ∀ mapping ∈ t.keys, ∃ path, t.Lists mapping path

variable {t : PathTable} {mapping path mapping' path' : String}

theorem lists_record : (t.record mapping path).Lists mapping' path' ↔
    mapping' = mapping ∧ path' = path ∨ t.Lists mapping' path' := by
  unfold Lists paths record
  rw [SortedMap.get?_insert]
  by_cases h : mapping' = mapping
  · subst h
    rw [if_pos rfl, Option.getD_some, SortedMap.mem_keys_insert]
    simp
  · simp [h]

theorem lists_foldl_record (leaves : List (String × String)) :
    (leaves.foldl (fun t leaf => t.record leaf.1 leaf.2) t).Lists mapping path ↔
      t.Lists mapping path ∨ (mapping, path) ∈ leaves := by
  induction leaves generalizing t with
  | nil => simp
  | cons leaf leaves ih =>
    rw [List.foldl_cons, ih, lists_record, List.mem_cons, Prod.ext_iff]
    exact (or_congr_left or_comm).trans or_assoc

theorem lists_ofMapping (v : Value) :
    (ofMapping v).Lists mapping path ↔ (mapping, path) ∈ v.json.mappingLeaves :=
  (lists_foldl_record v.json.mappingLeaves).trans (or_iff_right List.not_mem_nil)

theorem NoneEmpty.record (h : t.NoneEmpty) : (t.record mapping path).NoneEmpty := by
  intro other hother
  rcases SortedMap.mem_keys_insert.1 hother with rfl | hother
  · exact ⟨path, lists_record.2 (.inl ⟨rfl, rfl⟩)⟩
  · obtain ⟨p, hp⟩ := h other hother
    exact ⟨p, lists_record.2 (.inr hp)⟩

theorem NoneEmpty.foldl_record (h : t.NoneEmpty) (leaves : List (String × String)) :
    (leaves.foldl (fun t leaf => t.record leaf.1 leaf.2) t).NoneEmpty := by
  induction leaves generalizing t with
  | nil => exact h
  | cons leaf leaves ih => exact ih h.record

theorem noneEmpty_ofMapping (v : Value) : (ofMapping v).NoneEmpty :=
  NoneEmpty.foldl_record (fun _ h => absurd h List.not_mem_nil) v.json.mappingLeaves

end PathTable

/-! ### Shapes of mappings -/

namespace Mapping

open Json

/-- The mapping of some fields. -/
def ofFields (fields : SortedMap Value) : Value := .ofJson (.obj [("properties", encode fields)])

/-- An index with some fields. -/
def ofIndex (fields : SortedMap Value) : Value :=
  .ofJson (.obj [("mappings", (ofFields fields).json)])

/-- Several indices, by name, each with its fields. -/
def ofIndices (indices : SortedMap (SortedMap Value)) : Value :=
  .ofJson (.obj (indices.entries.map fun (name, fields) => (name, (ofIndex fields).json)))

variable (fields : SortedMap Value) (indices : SortedMap (SortedMap Value))

theorem isCanonical_encode : (encode fields).isCanonical = true :=
  Value.isCanonical_obj_entries fields id

theorem mappingLeaves_ofFields : (ofFields fields).json.mappingLeaves =
    fieldsLeaves "" (fields.entries.map fun (name, field) => (name, field.json)) := by
  rw [mappingLeaves, ofFields, Value.get?_ofJson_singleton _ (isCanonical_encode fields)]
  rfl

theorem indexLeaves?_ofIndex :
    indexLeaves? (ofIndex fields).json = some (ofFields fields).json.mappingLeaves := by
  rw [mappingLeaves_ofFields, indexLeaves?, ofIndex,
    Value.get?_ofJson_singleton _ (ofFields fields).canonical, ofFields, Option.bind_eq_bind,
    Option.bind_some, Value.get?_ofJson_singleton _ (isCanonical_encode fields)]
  rfl

theorem get?_properties_ofIndex : (ofIndex fields).json.get? "properties" = none := by
  rw [ofIndex, Value.get?_ofJson]
  rfl

theorem mappingLeaves_ofIndex :
    (ofIndex fields).json.mappingLeaves = (ofFields fields).json.mappingLeaves := by
  rw [mappingLeaves, get?_properties_ofIndex, indexLeaves?_ofIndex]
  rfl

theorem json_ofIndices : (ofIndices indices).json =
    .obj (indices.entries.map fun (name, fields) => (name, (ofIndex fields).json)) :=
  canonical_eq_self (Value.isCanonical_obj_entries indices ofIndex)

theorem get?_ofIndices (name : String) : (ofIndices indices).json.get? name =
    (indices.get? name).map fun fields => (ofIndex fields).json := by
  rw [json_ofIndices]
  exact SortedMap.lookup_map (fun fields => (ofIndex fields).json) indices.entries name

/-- Not even an index that is called `mappings` makes a response look like an index. -/
theorem indexLeaves?_ofIndices : indexLeaves? (ofIndices indices).json = none := by
  rw [indexLeaves?, get?_ofIndices]
  cases indices.get? "mappings" with
  | none => rfl
  | some fields =>
    rw [Option.map_some, Option.bind_eq_bind, Option.bind_some, get?_properties_ofIndex]
    rfl

theorem mappingLeaves_ofIndices (h : "properties" ∉ indices.keys) :
    (ofIndices indices).json.mappingLeaves =
      indices.entries.flatMap fun (_, fields) => (ofFields fields).json.mappingLeaves := by
  have hproperties : indices.get? "properties" = none :=
    Option.eq_none_iff_forall_ne_some.2 fun fields hf => h (SortedMap.mem_keys_iff.2 ⟨fields, hf⟩)
  rw [mappingLeaves, get?_ofIndices, hproperties, indexLeaves?_ofIndices, json_ofIndices]
  simp only [Option.map_none, Option.bind_none, members?, Option.getD_some, List.flatMap_map,
    indexLeaves?_ofIndex]

end Mapping

/-! ### Tables of mappings -/

namespace PathTable

variable {fields : SortedMap Value} {mapping path : String}

/-- A table lists the leaves to which names lead from the fields. -/
theorem lists_ofFields (h : "" ∉ fields.keys) :
    (ofMapping (Mapping.ofFields fields)).Lists mapping path ↔
      ∃ name names first last, fields.get? name = some first ∧ first.json.LeadsTo names last ∧
        last.IsLeafOf mapping ∧ ".".intercalate (name :: names) = path := by
  have hpath : ∀ {name first}, fields.get? name = some first → ∀ names : List String,
      names.foldl joinPath name = ".".intercalate (name :: names) := by
    rintro name first hfirst names
    refine foldl_joinPath ?_ names
    rintro rfl
    exact h (SortedMap.mem_keys_iff.2 ⟨first, hfirst⟩)
  rw [lists_ofMapping, Mapping.mappingLeaves_ofFields, Json.fieldsLeaves_eq, List.flatMap_map,
    List.mem_flatMap]
  constructor
  · rintro ⟨⟨name, first⟩, hmem, hleaf⟩
    have hfirst := SortedMap.get?_eq_some_iff.2 hmem
    obtain ⟨names, last, hleads, hlast, rfl⟩ :=
      (Json.mem_fieldLeaves_iff_leadsTo first.canonical).1 hleaf
    exact ⟨name, names, first, last, hfirst, hleads, hlast, (hpath hfirst names).symm⟩
  · rintro ⟨name, names, first, last, hfirst, hleads, hlast, rfl⟩
    refine ⟨(name, first), SortedMap.get?_eq_some_iff.1 hfirst, ?_⟩
    rw [← hpath hfirst]
    exact hleads.mem_fieldLeaves hlast

theorem ofMapping_ofIndex (fields : SortedMap Value) :
    ofMapping (Mapping.ofIndex fields) = ofMapping (Mapping.ofFields fields) := by
  unfold ofMapping
  rw [Mapping.mappingLeaves_ofIndex]

theorem lists_ofIndices {indices : SortedMap (SortedMap Value)} (h : "properties" ∉ indices.keys) :
    (ofMapping (Mapping.ofIndices indices)).Lists mapping path ↔
      ∃ name fields, indices.get? name = some fields ∧
        (ofMapping (Mapping.ofFields fields)).Lists mapping path := by
  simp only [lists_ofMapping, Mapping.mappingLeaves_ofIndices indices h, List.mem_flatMap,
    SortedMap.get?_eq_some_iff, Prod.exists]

/-- **The table of a mapping lists the leaves of its fields.**  A path is listed under a mapping
type if its names lead to a leaf of this type: the first to one of the fields, and each other to one
of the fields below.  An index has the table of its fields.  Several indices, none of them called
`properties`, have the union of the tables of theirs.  No table has a mapping type without paths. -/
theorem lists_leaves (fields : SortedMap Value) :
    ("" ∉ fields.keys → ∀ mapping path,
      (ofMapping (Mapping.ofFields fields)).Lists mapping path ↔
        ∃ name names first last, fields.get? name = some first ∧ first.json.LeadsTo names last ∧
          last.IsLeafOf mapping ∧ ".".intercalate (name :: names) = path) ∧
    ofMapping (Mapping.ofIndex fields) = ofMapping (Mapping.ofFields fields) ∧
    (∀ indices : SortedMap (SortedMap Value), "properties" ∉ indices.keys → ∀ mapping path,
      (ofMapping (Mapping.ofIndices indices)).Lists mapping path ↔
        ∃ name fields, indices.get? name = some fields ∧
          (ofMapping (Mapping.ofFields fields)).Lists mapping path) ∧
    ∀ v, (ofMapping v).NoneEmpty :=
  ⟨fun h _ _ => lists_ofFields h, ofMapping_ofIndex fields, fun _ h _ _ => lists_ofIndices h,
    noneEmpty_ofMapping⟩

/-- A field of two leaves and one without any of its own, in an index with an odd name beside an
empty one. -/
theorem lists_leaves_multiField :
    let message : Value := .ofJson (.obj [("type", .str "text"),
      ("fields", .obj [("keyword", .obj [("type", .str "keyword")])])])
    let http : Value := .ofJson (.obj [("type", .str "nested"),
      ("properties", .obj [("", .obj [("type", .str "integer")])])])
    let fields : SortedMap Value := .ofList [("message", message), ("http", http)]
    let indices : SortedMap (SortedMap Value) := .ofList [("mappings", fields), ("logs", .empty)]
    "" ∉ fields.keys ∧ (ofMapping (Mapping.ofFields fields)).Lists "keyword" "message.keyword" ∧
      ¬(ofMapping (Mapping.ofFields fields)).Lists "nested" "http" ∧
      "properties" ∉ indices.keys ∧
      (ofMapping (Mapping.ofIndices indices)).Lists "integer" "http." := by
  intro message http fields indices
  have hfields : "" ∉ fields.keys := by decide +kernel
  have hindices : "properties" ∉ indices.keys := by decide +kernel
  obtain ⟨hleaves, -, hunion, -⟩ := lists_leaves fields
  refine ⟨hfields, ?_, by decide +kernel, hindices, ?_⟩
  · exact (hleaves hfields _ _).2 ⟨"message", ["keyword"], message, _, by decide +kernel,
      .down rfl rfl .here, ⟨rfl, rfl⟩, by decide +kernel⟩
  · refine (hunion indices hindices _ _).2 ⟨"mappings", fields, by decide +kernel, ?_⟩
    exact (hleaves hfields _ _).2 ⟨"http", [""], http, _, by decide +kernel,
      .down rfl rfl .here, ⟨rfl, rfl⟩, by decide +kernel⟩

end PathTable

end Alerting
