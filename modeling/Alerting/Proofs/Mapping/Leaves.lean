import Alerting.Mapping

/-!
# Leaves of fields

The walker goes through the documents of fields and keeps the path of dotted names that led to each
of them.  Apart from it, names lead from a field to the fields below it, one name after the other;
the leaves that the walker lists are the fields where such ways end and a mapping type stands.

* `Json.fieldsBelow?`, `Json.LeadsTo`, `Json.IsLeafOf` : the fields below a field, the ways down
  from it, and where they end.
* `Json.mem_fieldLeaves_iff` : one step of the walker.
* `Json.mem_fieldLeaves_iff_leadsTo` : all of its steps.
* `foldl_joinPath` : the path of a way is its names, with dots between them.
-/

namespace Alerting

/-! ### Paths -/

theorem joinPath_of_ne {path : String} (h : path ≠ "") (name : String) :
    joinPath path name = path ++ "." ++ name := by
  unfold joinPath
  rw [if_neg (by simpa using h)]

/-- The empty path is only the root. -/
theorem foldl_joinPath {path : String} (h : path ≠ "") (names : List String) :
    names.foldl joinPath path = ".".intercalate (path :: names) := by
  induction names generalizing path with
  | nil => simp
  | cons name names ih =>
    have hne : joinPath path name ≠ "" := by
      rw [joinPath_of_ne h]
      simp [h]
    rw [List.foldl_cons, ih hne, joinPath_of_ne h]
    cases names <;> simp [String.append_assoc]

namespace Json

/-! ### Ways down from a field -/

/-- The members of the object of a name. -/
def objectAt? (name : String) (j : Json) : Option (List (String × Json)) :=
  (j.get? name).bind members?

/-- The fields below a field: its `properties` where these are an object, and otherwise its
`fields`. -/
def fieldsBelow? (field : Json) : Option (List (String × Json)) :=
  (field.objectAt? "properties").or (field.objectAt? "fields")

/-- The names lead from a field to one below it, each to one of the fields below the last. -/
inductive LeadsTo : Json → List String → Json → Prop
  /-- No name leads anywhere else. -/
  | here {field : Json} : LeadsTo field [] field
  /-- The first name leads to a field below, and the others lead on from there. -/
  | down {field next last : Json} {below : List (String × Json)} {name : String}
      {names : List String} (hbelow : field.fieldsBelow? = some below)
      (hname : below.lookup name = some next) (hnext : LeadsTo next names last) :
      LeadsTo field (name :: names) last

/-- The field is a leaf of a mapping type: it has no object of `properties`. -/
structure IsLeafOf (field : Json) (mapping : String) : Prop where
  properties : field.objectAt? "properties" = none
  type : field.get? "type" = some (.str mapping)

theorem objectAt?_eq_some_iff {j : Json} {name : String} {ms : List (String × Json)} :
    j.objectAt? name = some ms ↔ j.get? name = some (.obj ms) := by
  unfold objectAt?
  rw [Option.bind_eq_some_iff]
  constructor
  · rintro ⟨v, hv, hms⟩
    cases v with
    | obj ns =>
      cases hms
      exact hv
    | null | bool | num | str | arr => cases hms
  · exact fun h => ⟨_, h, rfl⟩

variable {field : Json} {mapping path p : String}

theorem exists_get?_of_fieldsBelow? {below : List (String × Json)}
    (h : field.fieldsBelow? = some below) : ∃ name, field.get? name = some (.obj below) := by
  rcases Option.or_eq_some_iff.1 h with h | ⟨-, h⟩
  · exact ⟨_, objectAt?_eq_some_iff.1 h⟩
  · exact ⟨_, objectAt?_eq_some_iff.1 h⟩

theorem mappingType?_eq_some_iff :
    field.mappingType? = some mapping ↔ field.get? "type" = some (.str mapping) := by
  unfold mappingType?
  constructor
  · intro h
    split at h
    · rename_i s hs
      cases h
      exact hs
    · cases h
  · intro h
    rw [h]

/-! ### One step of the walker -/

theorem fieldsLeaves_eq (path : String) (fields : List (String × Json)) :
    fieldsLeaves path fields = fields.flatMap fun m => fieldLeaves (joinPath path m.1) m.2 := by
  induction fields with
  | nil => simp [fieldsLeaves]
  | cons m fields ih => simp [fieldsLeaves, ih]

theorem objectLeaves_eq (path : String) (j : Json) :
    objectLeaves path j = j.members?.map (fieldsLeaves path) := by
  cases j <;> rfl

theorem innerLeaves_eq (path name : String) (ms : List (String × Json)) :
    innerLeaves path name ms = ((obj ms).objectAt? name).map (fieldsLeaves path) := by
  show _ = ((ms.lookup name).bind members?).map (fieldsLeaves path)
  induction ms with
  | nil => simp [innerLeaves]
  | cons m ms ih =>
    obtain ⟨k, v⟩ := m
    rw [innerLeaves, SortedMap.lookup_cons_eq, ih, objectLeaves_eq]
    by_cases h : name = k
    · simp [h]
    · simp [h, Ne.symm h]

theorem fieldLeaves_of_properties {fields : List (String × Json)}
    (h : field.objectAt? "properties" = some fields) :
    fieldLeaves path field = fieldsLeaves path fields := by
  cases field with
  | obj ms => rw [fieldLeaves, innerLeaves_eq, h, Option.map_some]
  | null | bool | num | str | arr => cases h

theorem fieldLeaves_of_noProperties (h : field.objectAt? "properties" = none) :
    fieldLeaves path field = field.mappingType?.toList.map (·, path)
      ++ ((field.objectAt? "fields").map (fieldsLeaves path)).getD [] := by
  cases field with
  | obj ms => rw [fieldLeaves, innerLeaves_eq, innerLeaves_eq, h, Option.map_none]
  | null | bool | num | str | arr => rfl

/-- The leaves of a field are the field itself, if it is one, and those of the fields below it. -/
theorem mem_fieldLeaves_iff : (mapping, p) ∈ fieldLeaves path field ↔
    field.IsLeafOf mapping ∧ path = p ∨
      ∃ below, field.fieldsBelow? = some below ∧
        ∃ m ∈ below, (mapping, p) ∈ fieldLeaves (joinPath path m.1) m.2 := by
  have hfields : ∀ fields, (mapping, p) ∈ fieldsLeaves path fields ↔
      ∃ m ∈ fields, (mapping, p) ∈ fieldLeaves (joinPath path m.1) m.2 := by
    intro fields
    rw [fieldsLeaves_eq, List.mem_flatMap]
  unfold fieldsBelow?
  cases hp : field.objectAt? "properties" with
  | some fields =>
    -- The type of a field with properties is not looked at.
    have hnot : ¬field.IsLeafOf mapping := by
      intro h
      rw [h.properties] at hp
      cases hp
    rw [fieldLeaves_of_properties hp, hfields]
    simp [hnot]
  | none =>
    have hleaf : field.IsLeafOf mapping ↔ field.mappingType? = some mapping :=
      ⟨fun h => mappingType?_eq_some_iff.2 h.type, fun h => ⟨hp, mappingType?_eq_some_iff.1 h⟩⟩
    rw [fieldLeaves_of_noProperties hp, List.mem_append, hleaf]
    refine or_congr ?_ ?_
    · cases field.mappingType? <;> simp [eq_comm]
    · cases field.objectAt? "fields" <;> simp [hfields]

/-! ### All steps of the walker -/

theorem sizeOf_lt_of_get? {j v : Json} {name : String} (h : j.get? name = some v) :
    sizeOf v < sizeOf j := by
  cases j with
  | obj ms =>
    obtain ⟨before, after, rfl, -⟩ := List.lookup_eq_some_iff.1 h
    have hmem := List.sizeOf_lt_of_mem (List.mem_append_right before
      (List.mem_cons_self (a := (name, v)) (l := after)))
    simp only [obj.sizeOf_spec, Prod.mk.sizeOf_spec] at hmem ⊢
    omega
  | null | bool | num | str | arr => cases h

theorem LeadsTo.mem_fieldLeaves {names : List String} {last : Json} (h : field.LeadsTo names last)
    (hlast : last.IsLeafOf mapping) :
    (mapping, names.foldl joinPath path) ∈ fieldLeaves path field := by
  induction h generalizing path with
  | here => exact mem_fieldLeaves_iff.2 (.inl ⟨hlast, rfl⟩)
  | @down _ next _ _ name _ hbelow hname _ ih =>
    obtain ⟨before, after, rfl, -⟩ := List.lookup_eq_some_iff.1 hname
    exact mem_fieldLeaves_iff.2
      (.inr ⟨_, hbelow, (name, next), List.mem_append_right _ List.mem_cons_self, ih hlast⟩)

/-- A leaf is reached by names.  In a canonical document each name leads to one field only. -/
theorem exists_leadsTo_of_mem (field : Json) (path : String) (hc : field.isCanonical = true)
    (h : (mapping, p) ∈ fieldLeaves path field) :
    ∃ names last, field.LeadsTo names last ∧ last.IsLeafOf mapping ∧
      names.foldl joinPath path = p := by
  rcases mem_fieldLeaves_iff.1 h with ⟨hleaf, rfl⟩ | ⟨below, hbelow, ⟨name, next⟩, hm, h⟩
  · exact ⟨[], field, .here, hleaf, rfl⟩
  · obtain ⟨member, hmember⟩ := exists_get?_of_fieldsBelow? hbelow
    have hcanonical := isCanonical_of_get? hc hmember
    have hname := (get?_obj_eq_some_iff hcanonical).2 hm
    -- The field below is smaller: it is a member of a member.
    have hsize : sizeOf next < sizeOf field :=
      Nat.lt_trans (sizeOf_lt_of_get? hname) (sizeOf_lt_of_get? hmember)
    obtain ⟨names, last, hleads, hleaf, rfl⟩ :=
      exists_leadsTo_of_mem next (joinPath path name) (isCanonical_of_get? hcanonical hname) h
    exact ⟨name :: names, last, .down hbelow hname hleads, hleaf, rfl⟩
termination_by sizeOf field

theorem mem_fieldLeaves_iff_leadsTo (hc : field.isCanonical = true) :
    (mapping, p) ∈ fieldLeaves path field ↔
      ∃ names last, field.LeadsTo names last ∧ last.IsLeafOf mapping ∧
        names.foldl joinPath path = p := by
  constructor
  · exact exists_leadsTo_of_mem field path hc
  · rintro ⟨names, last, hleads, hlast, rfl⟩
    exact hleads.mem_fieldLeaves hlast

end Json

end Alerting
