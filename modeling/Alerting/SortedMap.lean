/-!
# Maps sorted by key

A finite map from strings is kept as the list of its entries in increasing order of keys, where
strings are ordered by code point (which is also the order of their UTF-8 bytes).  The order is
part of the type, so two maps with the same entries are equal.

* `SortedMap.get?_insert` : what a look-up sees after an insertion.
* `SortedMap.get?_ofList` : what it sees in the map of a list of entries.
* `SortedMap.get?_eq_some_iff` : the value of a key is the one that it has an entry with.
* `SortedMap.sorted_insertWith` : an insertion keeps the order.
-/

namespace Alerting

/-- A finite map from strings: its entries, in strictly increasing order of keys. -/
structure SortedMap (α : Type) where
  /-- The entries, by increasing key. -/
  entries : List (String × α)
  /-- The keys increase. -/
  sorted : (entries.map Prod.fst).Pairwise (· < ·)
  deriving DecidableEq

/-- A finite set of strings. -/
abbrev StringSet := SortedMap Unit

namespace SortedMap

variable {α : Type}

/-! ### Sorted entry lists -/

/-- Puts an entry at its place.  An entry of the same key stays, with its value changed by `old`. -/
def insertWith (old : α → α) (k : String) (v : α) : List (String × α) → List (String × α)
  | [] => [(k, v)]
  | (l, w) :: rest =>
    if k < l then (k, v) :: (l, w) :: rest
    else if k = l then (k, old w) :: rest
    else (l, w) :: insertWith old k v rest

/-- Puts an entry at its place; an entry of the same key is replaced. -/
def insertEntry (k : String) (v : α) : List (String × α) → List (String × α) :=
  insertWith (fun _ => v) k v

/-- Puts an entry at its place, unless there is one of the same key. -/
def insertNew (k : String) (v : α) : List (String × α) → List (String × α) := insertWith id k v

/-- Entries in sorted order; of several entries of one key the last stays. -/
def sortEntries : List (String × α) → List (String × α)
  | [] => []
  | (k, v) :: rest => insertNew k v (sortEntries rest)

/-- Two strings that are in neither order are equal. -/
theorem eq_of_not_lt {a b : String} (h : ¬ a < b) (h' : ¬ b < a) : a = b :=
  String.le_antisymm (String.not_lt.1 h') (String.not_lt.1 h)

theorem mem_keys_insertWith {old : α → α} {k l : String} {v : α} {es : List (String × α)} :
    l ∈ (insertWith old k v es).map Prod.fst ↔ l = k ∨ l ∈ es.map Prod.fst := by
  induction es with
  | nil => simp [insertWith]
  | cons e es ih =>
    obtain ⟨m, w⟩ := e
    simp only [insertWith]
    split
    · simp
    · split
      · rename_i h; simp [h]
      · rw [List.map_cons, List.mem_cons, ih, List.map_cons, List.mem_cons]
        exact or_left_comm

theorem sorted_insertWith {old : α → α} {k : String} {v : α} {es : List (String × α)}
    (h : (es.map Prod.fst).Pairwise (· < ·)) :
    ((insertWith old k v es).map Prod.fst).Pairwise (· < ·) := by
  induction es with
  | nil => simp [insertWith]
  | cons e es ih =>
    obtain ⟨m, w⟩ := e
    rw [List.map_cons, List.pairwise_cons] at h
    simp only [insertWith]
    split
    · rename_i hk
      -- A key below the first one is below all others.
      refine List.pairwise_cons.2 ⟨fun l hl => ?_, List.pairwise_cons.2 h⟩
      rcases List.mem_cons.1 hl with rfl | hl
      · exact hk
      · exact String.lt_trans hk (h.1 l hl)
    · split
      · rename_i hk; subst hk; exact List.pairwise_cons.2 h
      · rename_i hlt hne
        refine List.pairwise_cons.2 ⟨fun l hl => ?_, ih h.2⟩
        rcases mem_keys_insertWith.1 hl with rfl | hl
        · exact Decidable.byContradiction fun hn => hne (eq_of_not_lt hlt hn)
        · exact h.1 l hl

theorem sorted_sortEntries (es : List (String × α)) :
    ((sortEntries es).map Prod.fst).Pairwise (· < ·) := by
  induction es with
  | nil => simp [sortEntries]
  | cons e es ih => exact sorted_insertWith ih

/-- An entry whose key is below all others comes first. -/
theorem insertNew_of_lt {k : String} {v : α} {es : List (String × α)}
    (h : ∀ l ∈ es.map Prod.fst, k < l) : insertNew k v es = (k, v) :: es := by
  cases es with
  | nil => rfl
  | cons e es => simp [insertNew, insertWith, h e.1 (by simp)]

/-- Sorted entries stay as they are. -/
theorem sortEntries_eq_self {es : List (String × α)}
    (h : (es.map Prod.fst).Pairwise (· < ·)) : sortEntries es = es := by
  induction es with
  | nil => rfl
  | cons e es ih =>
    rw [List.map_cons, List.pairwise_cons] at h
    rw [sortEntries, ih h.2, insertNew_of_lt h.1]

/-! ### Operations on maps -/

/-- The map without entries. -/
def empty : SortedMap α := ⟨[], List.Pairwise.nil⟩

/-- The map with one entry. -/
def singleton (k : String) (v : α) : SortedMap α := ⟨[(k, v)], by simp⟩

/-- The map with an entry put in, in place of one of the same key. -/
def insert (m : SortedMap α) (k : String) (v : α) : SortedMap α :=
  ⟨insertEntry k v m.entries, sorted_insertWith m.sorted⟩

/-- The map of some entries; of several entries of one key the last counts. -/
def ofList (es : List (String × α)) : SortedMap α := ⟨sortEntries es, sorted_sortEntries es⟩

/-- The value of a key. -/
def get? (m : SortedMap α) (k : String) : Option α := m.entries.lookup k

/-- The keys, in increasing order. -/
def keys (m : SortedMap α) : List String := m.entries.map Prod.fst

/-- The set of the strings in a list. -/
def setOf (xs : List String) : StringSet := ofList (xs.map (·, ()))

theorem lookup_cons_eq (k l : String) (v : α) (es : List (String × α)) :
    ((k, v) :: es).lookup l = if l = k then some v else es.lookup l := by
  by_cases h : l = k
  · simp [h]
  · have hb : (l == k) = false := by simpa using h
    rw [List.lookup_cons, hb, if_neg h]

theorem lookup_insertEntry (k l : String) (v : α) (es : List (String × α)) :
    (insertEntry k v es).lookup l = if l = k then some v else es.lookup l := by
  induction es with
  | nil => simp [insertEntry, insertWith, lookup_cons_eq]
  | cons e es ih =>
    obtain ⟨m, w⟩ := e
    simp only [insertEntry, insertWith] at ih ⊢
    split
    · rw [lookup_cons_eq]
    · split
      · rename_i hk
        subst hk
        simp only [lookup_cons_eq]
        split <;> rfl
      · rename_i hne
        simp only [lookup_cons_eq, ih]
        by_cases h : l = m
        · subst h; simp [Ne.symm hne]
        · simp [h]

theorem lookup_map {β : Type} (f : α → β) (es : List (String × α)) (k : String) :
    (es.map fun (l, v) => (l, f v)).lookup k = (es.lookup k).map f := by
  induction es with
  | nil => rfl
  | cons e es ih =>
    obtain ⟨l, v⟩ := e
    rw [List.map_cons, lookup_cons_eq, lookup_cons_eq, ih]
    split <;> rfl

/-- With distinct keys every entry is seen. -/
theorem lookup_eq_some_iff_mem {es : List (String × α)} (hn : (es.map Prod.fst).Nodup) {k : String}
    {v : α} : es.lookup k = some v ↔ (k, v) ∈ es := by
  induction es with
  | nil => simp
  | cons e es ih =>
    obtain ⟨l, w⟩ := e
    rw [List.map_cons, List.nodup_cons] at hn
    rw [lookup_cons_eq, List.mem_cons, Prod.mk.injEq]
    by_cases hk : k = l
    · subst hk
      have hnot : (k, v) ∉ es := fun h => hn.1 (List.mem_map.2 ⟨_, h, rfl⟩)
      simp [hnot, eq_comm]
    · simp [hk, ih hn.2]

theorem nodup_keys (m : SortedMap α) : m.keys.Nodup := m.sorted.imp String.ne_of_lt

theorem get?_eq_some_iff {m : SortedMap α} {k : String} {v : α} :
    m.get? k = some v ↔ (k, v) ∈ m.entries := lookup_eq_some_iff_mem m.nodup_keys

theorem mem_keys_iff {m : SortedMap α} {k : String} : k ∈ m.keys ↔ ∃ v, m.get? k = some v := by
  simp only [get?_eq_some_iff, keys, List.mem_map, Prod.exists, exists_and_right, exists_eq_right]

theorem mem_keys_insert {m : SortedMap α} {k l : String} {v : α} :
    l ∈ (m.insert k v).keys ↔ l = k ∨ l ∈ m.keys := mem_keys_insertWith

theorem get?_insert (m : SortedMap α) (k l : String) (v : α) :
    (m.insert k v).get? l = if l = k then some v else m.get? l :=
  lookup_insertEntry k l v m.entries

theorem lookup_insertNew {k l : String} {v : α} {es : List (String × α)}
    (h : (es.map Prod.fst).Pairwise (· < ·)) :
    (insertNew k v es).lookup l = (es.lookup l).or (if l = k then some v else none) := by
  induction es with
  | nil => simp [insertNew, insertWith, lookup_cons_eq]
  | cons e es ih =>
    obtain ⟨m, w⟩ := e
    rw [List.map_cons, List.pairwise_cons] at h
    simp only [insertNew, insertWith] at ih ⊢
    split
    · rename_i hk
      -- The new key is below all others, so no entry of its own stands further on.
      have hnone : ((m, w) :: es).lookup k = none := by
        rw [List.lookup_eq_none_iff]
        intro e he
        have hlt : k < e.1 := by
          rcases List.mem_cons.1 he with rfl | he
          · exact hk
          · exact String.lt_trans hk (h.1 e.1 (List.mem_map_of_mem he))
        simpa using (String.ne_of_lt hlt)
      rw [lookup_cons_eq]
      split
      · rename_i hl; subst hl; rw [hnone]; rfl
      · simp
    · split
      · rename_i hkm
        subst hkm
        simp only [lookup_cons_eq, id]
        split <;> simp
      · simp only [lookup_cons_eq, ih h.2]
        split <;> simp

theorem mem_keys_sortEntries {k : String} {es : List (String × α)} :
    k ∈ (sortEntries es).map Prod.fst ↔ k ∈ es.map Prod.fst := by
  induction es with
  | nil => rfl
  | cons e es ih => rw [sortEntries, insertNew, mem_keys_insertWith, ih, List.map_cons, List.mem_cons]

theorem mem_of_mem_insertNew {k : String} {v : α} {es : List (String × α)} {e : String × α}
    (h : e ∈ insertNew k v es) : e = (k, v) ∨ e ∈ es := by
  induction es with
  | nil => exact .inl (List.mem_singleton.1 h)
  | cons f es ih =>
    obtain ⟨l, w⟩ := f
    simp only [insertNew, insertWith] at ih h
    split at h
    · exact List.mem_cons.1 h
    · split at h
      · rename_i hk
        subst hk
        exact .inr h
      · rcases List.mem_cons.1 h with rfl | h
        · exact .inr List.mem_cons_self
        · exact (ih h).imp_right (List.mem_cons_of_mem _)

/-- The entries of a map are among those that it was made of. -/
theorem mem_of_mem_ofList {es : List (String × α)} {e : String × α}
    (h : e ∈ (ofList es).entries) : e ∈ es := by
  induction es with
  | nil => exact h
  | cons f es ih =>
    rcases mem_of_mem_insertNew h with rfl | h
    · exact List.mem_cons_self
    · exact List.mem_cons_of_mem _ (ih h)

/-- The keys of a map are those of the entries that it was made of. -/
theorem mem_keys_ofList {k : String} {es : List (String × α)} :
    k ∈ (ofList es).keys ↔ k ∈ es.map Prod.fst := mem_keys_sortEntries

/-- Of several entries of one key the last counts. -/
theorem get?_ofList (es : List (String × α)) (k : String) :
    (ofList es).get? k = es.reverse.lookup k := by
  show (sortEntries es).lookup k = _
  induction es with
  | nil => rfl
  | cons e es ih =>
    obtain ⟨l, v⟩ := e
    rw [sortEntries, lookup_insertNew (sorted_sortEntries es), ih, List.reverse_cons,
      List.lookup_append, lookup_cons_eq, List.lookup_nil]

/-- With distinct keys every entry counts. -/
theorem get?_ofList_of_mem {es : List (String × α)} (hn : (es.map Prod.fst).Nodup) {k : String}
    {v : α} (h : (k, v) ∈ es) : (ofList es).get? k = some v := by
  have hn' : (es.reverse.map Prod.fst).Nodup := by
    rw [List.map_reverse]
    exact List.pairwise_reverse.2 (hn.imp Ne.symm)
  rw [get?_ofList, lookup_eq_some_iff_mem hn']
  exact List.mem_reverse.2 h

/-- A map is the map of its entries. -/
theorem ofList_entries (m : SortedMap α) : ofList m.entries = m := by
  obtain ⟨es, h⟩ := m
  simp only [ofList, sortEntries_eq_self h]

end SortedMap

end Alerting
