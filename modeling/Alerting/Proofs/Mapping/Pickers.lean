import Alerting.Proofs.Mapping.Table
import Mathlib.Data.List.Nodup

/-!
# Pickers of fields

A picker shows the fields of a table that have a mapping type for its purpose.  Several mapping
types serve one purpose, and a field may be listed under more than one of them: indices need not
agree about the type of a field.  Every picker keeps all copies, and sorts them.

* `PathTable.Picks` : a picker for some mapping types.
* `PathTable.count_metricFields`, `PathTable.count_whereFields` : how often a picker shows a field.
* `PathTable.pickers_of_mapping` : the pickers of metrics and of times.
* `PathTable.pickers_repeat` : a field of two indices that is shown twice.
* `PathTable.whereFields_agree` : the picker of where clauses, and what of it the one of metrics is.
-/

namespace Alerting

/-! ### Counting and sorting -/

section Counting

variable {α β : Type} [DecidableEq β]

/-- In lists without repetitions, each list that has an element adds one copy of it. -/
theorem count_flatMap_of_nodup {xs : List α} {f : α → List β} (h : ∀ x ∈ xs, (f x).Nodup) (b : β) :
    (xs.flatMap f).count b = xs.countP fun x => b ∈ f x := by
  induction xs with
  | nil => rfl
  | cons x xs ih =>
    have hx := h x List.mem_cons_self
    have hxs := ih fun y hy => h y (List.mem_cons_of_mem x hy)
    rw [List.flatMap_cons, List.count_append, List.countP_cons, hx.count, hxs, Nat.add_comm]
    simp

theorem pairwise_mergeSort_by (key : α → String) (xs : List α) :
    (xs.mergeSort fun a b => key a ≤ key b).Pairwise fun a b => key a ≤ key b := by
  have h : (xs.mergeSort fun a b => key a ≤ key b).Pairwise fun a b =>
      decide (key a ≤ key b) = true := by
    refine List.pairwise_mergeSort (fun a b c hab hbc => ?_) (fun a b => ?_) xs
    · exact decide_eq_true (String.le_trans (of_decide_eq_true hab) (of_decide_eq_true hbc))
    · simpa using String.le_total (key a) (key b)
  exact h.imp of_decide_eq_true

/-- A sorted list is strictly increasing if nothing in it is repeated. -/
theorem pairwise_lt_iff_of_sorted {xs : List String} (h : xs.Pairwise (· ≤ ·)) :
    xs.Pairwise (· < ·) ↔ ∀ x, xs.count x ≤ 1 := by
  rw [← List.nodup_iff_count_le_one]
  constructor
  · exact fun hlt => hlt.imp String.ne_of_lt
  · intro hn
    refine (h.and hn).imp fun hab => ?_
    exact String.not_le.1 fun hba => hab.2 (String.le_antisymm hab.1 hba)

end Counting

theorem FieldType.ofMapping?_eq_number_iff {mapping : String} :
    ofMapping? mapping = some .number ↔ mapping ∈ numericMappings := by
  unfold ofMapping?
  split
  · rename_i h
    simp [h]
  · rename_i h
    simp only [h, iff_false]
    repeat' split
    all_goals nofun

namespace PathTable

/-! ### How often a picker shows a field -/

variable (t : PathTable) {fields : List String} {mapping path : String}

theorem entries_eq : t.entries = t.keys.map fun m => (m, t.paths m) := by
  rw [SortedMap.keys, List.map_map]
  refine (List.map_id _).symm.trans (List.map_congr_left fun e he => ?_)
  have hget : t.get? e.1 = some e.2 := SortedMap.get?_eq_some_iff.2 he
  rw [Function.comp_apply, paths, hget]
  rfl

theorem count_metricFields (path : String) : t.metricFields.count path =
    t.keys.countP fun m => FieldType.ofMapping? m = some .number ∧ t.Lists m path := by
  rw [metricFields, (List.mergeSort_perm _ _).count_eq, entries_eq, List.flatMap_map,
    count_flatMap_of_nodup]
  · refine List.countP_congr fun m _ => ?_
    by_cases h : FieldType.ofMapping? m = some .number <;> simp [h, Lists]
  · intro m _
    dsimp only
    split
    · exact (t.paths m).nodup_keys
    · exact List.nodup_nil

theorem count_timeFields (path : String) :
    t.timeFields.count path = timeMappings.countP fun m => t.Lists m path := by
  rw [timeFields, (List.mergeSort_perm _ _).count_eq, count_flatMap_of_nodup]
  · rfl
  · exact fun m _ => (t.paths m).nodup_keys

theorem count_whereFields (path : String) (type : FieldType) :
    t.whereFields.count { label := path, type := some type } =
      t.keys.countP fun m => FieldType.ofMapping? m = some type ∧ t.Lists m path := by
  rw [whereFields, (List.mergeSort_perm _ _).count_eq, entries_eq, List.flatMap_map,
    count_flatMap_of_nodup]
  · refine List.countP_congr fun m _ => ?_
    cases h : FieldType.ofMapping? m with
    | none => simp [h]
    | some u => simp [h, Lists, and_comm]
  · intro m _
    dsimp only
    split
    · refine (t.paths m).nodup_keys.map fun p q h => ?_
      exact congrArg FieldRef.label h
    · exact List.nodup_nil

variable {t}

theorem Lists.mem_keys (h : t.Lists mapping path) : mapping ∈ t.keys := by
  unfold Lists paths at h
  cases hget : t.get? mapping with
  | none =>
    rw [hget] at h
    cases h
  | some ps => exact SortedMap.mem_keys_iff.2 ⟨ps, hget⟩

variable (t) in
/-- What is listed under some mapping types stands among the types of the table. -/
theorem countP_keys {mappings : List String} (hn : mappings.Nodup) (path : String) :
    (t.keys.countP fun m => m ∈ mappings ∧ t.Lists m path) =
      mappings.countP fun m => t.Lists m path := by
  rw [List.countP_eq_length_filter, List.countP_eq_length_filter]
  refine List.Perm.length_eq
    ((List.perm_ext_iff_of_nodup (t.nodup_keys.filter _) (hn.filter _)).2 fun m => ?_)
  simp only [List.mem_filter, decide_eq_true_eq]
  exact ⟨fun h => h.2, fun h => ⟨h.2.mem_keys, h⟩⟩

/-! ### Pickers of paths -/

/-- A picker for some mapping types: a list of the paths under these types, each as often as it is
listed under one of them. -/
structure Picks (t : PathTable) (mappings fields : List String) : Prop where
  sorted : fields.Pairwise (· ≤ ·)
  mem : ∀ path, path ∈ fields ↔ ∃ m ∈ mappings, t.Lists m path
  count : ∀ path, fields.count path = mappings.countP fun m => t.Lists m path
  increasing : fields.Pairwise (· < ·) ↔ ∀ path, (mappings.countP fun m => t.Lists m path) ≤ 1

theorem picks_of_count {mappings : List String} (hsorted : fields.Pairwise (· ≤ ·))
    (hcount : ∀ path, fields.count path = mappings.countP fun m => t.Lists m path) :
    t.Picks mappings fields where
  sorted := hsorted
  mem path := by
    rw [← List.count_pos_iff, hcount, List.countP_pos_iff]
    simp
  count := hcount
  increasing := by
    rw [pairwise_lt_iff_of_sorted hsorted]
    simp only [hcount]

theorem sorted_metricFields (t : PathTable) : t.metricFields.Pairwise (· ≤ ·) :=
  pairwise_mergeSort_by id _

theorem picks_metricFields (t : PathTable) : t.Picks FieldType.numericMappings t.metricFields := by
  refine picks_of_count t.sorted_metricFields fun path => ?_
  rw [count_metricFields, ← countP_keys t (by decide)]
  simp only [FieldType.ofMapping?_eq_number_iff]

theorem picks_timeFields (t : PathTable) : t.Picks timeMappings t.timeFields :=
  picks_of_count (pairwise_mergeSort_by id _) t.count_timeFields

/-- **Pickers show a field once for each mapping type that it has.**  Metrics are picked from the
paths under a numeric mapping type, times from those of the two types of instants.  The paths are
sorted, and strictly increasing just if none of them is listed under two of these types. -/
theorem pickers_of_mapping (v : Value) :
    (ofMapping v).Picks FieldType.numericMappings (ofMapping v).metricFields ∧
      (ofMapping v).Picks timeMappings (ofMapping v).timeFields :=
  ⟨picks_metricFields _, picks_timeFields _⟩

/-- Two indices disagree about the types of both of their fields. -/
theorem pickers_repeat :
    let fields (metric time : String) : SortedMap Value := .ofList [
      ("latency", .ofJson (.obj [("type", .str metric)])),
      ("at", .ofJson (.obj [("type", .str time)]))]
    let v := Mapping.ofIndices (.ofList [("a", fields "long" "date"),
      ("b", fields "double" "date_nanos")])
    ¬(ofMapping v).metricFields.Pairwise (· < ·) ∧ ¬(ofMapping v).timeFields.Pairwise (· < ·) := by
  intro fields v
  rw [(picks_metricFields _).increasing, (picks_timeFields _).increasing]
  constructor
  · exact fun h => absurd (h "latency") (by decide +kernel)
  · exact fun h => absurd (h "at") (by decide +kernel)

/-! ### The picker of where clauses -/

theorem none_notMem_whereFields (t : PathTable) (path : String) :
    { label := path, type := none } ∉ t.whereFields := by
  rw [whereFields, List.mem_mergeSort, List.mem_flatMap]
  rintro ⟨e, -, h⟩
  dsimp only at h
  split at h
  · simp at h
  · cases h

theorem count_labels (refs : List FieldRef) (type : FieldType) (path : String) :
    ((refs.filter fun r => r.type = some type).map FieldRef.label).count path =
      refs.count { label := path, type := some type } := by
  rw [List.count, List.countP_map, List.countP_filter, List.count]
  refine List.countP_congr fun r _ => ?_
  obtain ⟨label, u⟩ := r
  simp

/-- The metrics to pick are the numbers that where clauses can use. -/
theorem metricFields_eq (t : PathTable) : t.metricFields =
    (t.whereFields.filter fun r => r.type = some .number).map FieldRef.label := by
  have hsorted : t.whereFields.Pairwise fun a b => a.label ≤ b.label :=
    pairwise_mergeSort_by FieldRef.label _
  -- Two sorted lists of paths are equal if they have the same number of copies of each path.
  refine List.Perm.eq_of_pairwise (fun _ _ _ _ => String.le_antisymm) t.sorted_metricFields
    ((hsorted.filter _).map _ fun _ _ h => h) (List.perm_iff_count.2 fun path => ?_)
  rw [count_labels, count_whereFields, count_metricFields]

/-- **The picker of where clauses agrees with the one of metrics.**  It is sorted by path and refers
to each path once for every mapping type under which it is listed, as a field of the type that the
mapping type stands for, and to nothing under mapping types that stand for none.  Its numbers are
the metrics, in the same order. -/
theorem whereFields_agree (t : PathTable) :
    (t.whereFields.Pairwise fun a b => a.label ≤ b.label) ∧
    (∀ path type, t.whereFields.count { label := path, type := some type } =
      t.keys.countP fun m => FieldType.ofMapping? m = some type ∧ t.Lists m path) ∧
    (∀ path, { label := path, type := none } ∉ t.whereFields) ∧
    t.metricFields = (t.whereFields.filter fun r => r.type = some .number).map FieldRef.label :=
  ⟨pairwise_mergeSort_by FieldRef.label _, t.count_whereFields, t.none_notMem_whereFields,
    t.metricFields_eq⟩

end PathTable

end Alerting
