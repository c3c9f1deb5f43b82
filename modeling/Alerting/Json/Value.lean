import Alerting.Json.Basic
import Alerting.SortedMap

/-!
# JSON values

A document stands for a value in which the order of members does not count and of several members of
one name the last counts.  `Json.canonical` picks the one document of a value that has the members
of every object in increasing order of names; `Value` is the type of these documents, so that two
values are equal exactly when their documents are.

* `Json.isCanonical_canonical` : the result is canonical.
* `Json.canonical_eq_self` : a canonical document is its own canonical form.
* `Value.str?_eq_some_iff` : the values that are strings.
* `Value.get?_ofJson` : the member of a name in the value of an object.
-/

namespace Alerting

namespace Json

mutual
/-- The canonical document of the same value: members by increasing name, the last of equal
names. -/
def canonical : Json → Json
  | .arr xs => .arr (canonicalItems xs)
  | .obj ms => .obj (canonicalMembers ms)
  | .null => .null
  | .bool b => .bool b
  | .num n => .num n
  | .str s => .str s

/-- The canonical documents of a list. -/
def canonicalItems : List Json → List Json
  | [] => []
  | x :: xs => x.canonical :: canonicalItems xs

/-- Members with canonical documents, by increasing name, the last of equal names. -/
def canonicalMembers : List (String × Json) → List (String × Json)
  | [] => []
  | (k, v) :: ms => SortedMap.insertNew k v.canonical (canonicalMembers ms)
end

mutual
/-- Whether the names increase in every object of a document. -/
def isCanonical : Json → Bool
  | .arr xs => allCanonical xs
  | .obj ms => decide ((ms.map Prod.fst).Pairwise (· < ·)) && allMembersCanonical ms
  | .null | .bool _ | .num _ | .str _ => true

/-- Whether all documents of a list are canonical. -/
def allCanonical : List Json → Bool
  | [] => true
  | x :: xs => x.isCanonical && allCanonical xs

/-- Whether the documents of all members are canonical. -/
def allMembersCanonical : List (String × Json) → Bool
  | [] => true
  | (_, v) :: ms => v.isCanonical && allMembersCanonical ms
end

theorem allMembersCanonical_insertNew {k : String} {v : Json} {ms : List (String × Json)}
    (hv : v.isCanonical = true) (hms : allMembersCanonical ms = true) :
    allMembersCanonical (SortedMap.insertNew k v ms) = true := by
  induction ms with
  | nil => simp [SortedMap.insertNew, SortedMap.insertWith, allMembersCanonical, hv]
  | cons m ms ih =>
    obtain ⟨l, w⟩ := m
    simp only [allMembersCanonical, Bool.and_eq_true] at hms
    simp only [SortedMap.insertNew, SortedMap.insertWith] at ih ⊢
    split
    · simp [allMembersCanonical, hv, hms]
    · split
      · simp [allMembersCanonical, hms]
      · simp [allMembersCanonical, hms.1, ih hms.2]

theorem sorted_canonicalMembers : ∀ ms : List (String × Json),
    ((canonicalMembers ms).map Prod.fst).Pairwise (· < ·)
  | [] => List.Pairwise.nil
  | (_, _) :: ms => SortedMap.sorted_insertWith (sorted_canonicalMembers ms)

theorem mem_keys_canonicalMembers {ms : List (String × Json)} {name : String} :
    name ∈ (canonicalMembers ms).map Prod.fst ↔ name ∈ ms.map Prod.fst := by
  induction ms with
  | nil => rfl
  | cons m ms ih =>
    rw [canonicalMembers, SortedMap.insertNew, SortedMap.mem_keys_insertWith, ih, List.map_cons,
      List.mem_cons]

/-- The last member of a name counts. -/
theorem lookup_canonicalMembers (ms : List (String × Json)) (k : String) :
    (canonicalMembers ms).lookup k = (ms.reverse.lookup k).map canonical := by
  induction ms with
  | nil => rfl
  | cons m ms ih =>
    obtain ⟨l, v⟩ := m
    rw [canonicalMembers, SortedMap.lookup_insertNew (sorted_canonicalMembers ms), ih,
      List.reverse_cons, List.lookup_append, SortedMap.lookup_cons_eq, List.lookup_nil,
      Option.map_or]
    split <;> rfl

mutual
theorem isCanonical_canonical : ∀ j : Json, j.canonical.isCanonical = true
  | .arr xs => allCanonical_canonicalItems xs
  | .obj ms => by
    simp only [canonical, isCanonical, Bool.and_eq_true, decide_eq_true_eq]
    exact ⟨sorted_canonicalMembers ms, allMembersCanonical_canonicalMembers ms⟩
  | .null | .bool _ | .num _ | .str _ => rfl

theorem allCanonical_canonicalItems : ∀ xs : List Json, allCanonical (canonicalItems xs) = true
  | [] => rfl
  | x :: xs => by
    simp only [canonicalItems, allCanonical, Bool.and_eq_true]
    exact ⟨isCanonical_canonical x, allCanonical_canonicalItems xs⟩

theorem allMembersCanonical_canonicalMembers : ∀ ms : List (String × Json),
    allMembersCanonical (canonicalMembers ms) = true
  | [] => rfl
  | (_, v) :: ms =>
    allMembersCanonical_insertNew (isCanonical_canonical v)
      (allMembersCanonical_canonicalMembers ms)
end

mutual
theorem canonical_eq_self : ∀ {j : Json}, j.isCanonical = true → j.canonical = j
  | .arr xs, h => congrArg Json.arr (canonicalItems_eq_self h)
  | .obj ms, h => by
    simp only [isCanonical, Bool.and_eq_true, decide_eq_true_eq] at h
    exact congrArg Json.obj (canonicalMembers_eq_self h.1 h.2)
  | .null, _ | .bool _, _ | .num _, _ | .str _, _ => rfl

theorem canonicalItems_eq_self : ∀ {xs : List Json}, allCanonical xs = true → canonicalItems xs = xs
  | [], _ => rfl
  | x :: xs, h => by
    simp only [allCanonical, Bool.and_eq_true] at h
    simp only [canonicalItems]
    rw [canonical_eq_self h.1, canonicalItems_eq_self h.2]

theorem canonicalMembers_eq_self : ∀ {ms : List (String × Json)},
    (ms.map Prod.fst).Pairwise (· < ·) → allMembersCanonical ms = true → canonicalMembers ms = ms
  | [], _, _ => rfl
  | (k, v) :: ms, hs, h => by
    simp only [allMembersCanonical, Bool.and_eq_true] at h
    rw [List.map_cons, List.pairwise_cons] at hs
    simp only [canonicalMembers]
    rw [canonical_eq_self h.1, canonicalMembers_eq_self hs.2 h.2,
      SortedMap.insertNew_of_lt hs.1]
end

theorem isCanonical_of_mem {ms : List (String × Json)} (h : allMembersCanonical ms = true)
    {m : String × Json} (hm : m ∈ ms) : m.2.isCanonical = true := by
  induction ms with
  | nil => cases hm
  | cons l ms ih =>
    simp only [allMembersCanonical, Bool.and_eq_true] at h
    rcases List.mem_cons.1 hm with rfl | hm
    · exact h.1
    · exact ih h.2 hm

/-- In canonical documents every member is found. -/
theorem get?_obj_eq_some_iff {ms : List (String × Json)} (h : (obj ms).isCanonical = true)
    {name : String} {v : Json} : (obj ms).get? name = some v ↔ (name, v) ∈ ms := by
  simp only [isCanonical, Bool.and_eq_true, decide_eq_true_eq] at h
  exact SortedMap.lookup_eq_some_iff_mem (h.1.imp String.ne_of_lt)

theorem isCanonical_of_get? {j v : Json} {name : String} (hj : j.isCanonical = true)
    (h : j.get? name = some v) : v.isCanonical = true := by
  cases j with
  | obj ms =>
    have hmem := (get?_obj_eq_some_iff hj).1 h
    simp only [isCanonical, Bool.and_eq_true] at hj
    exact isCanonical_of_mem hj.2 hmem
  | null | bool | num | str | arr => cases h

end Json

/-- A JSON value: its canonical document. -/
structure Value where
  /-- The document. -/
  json : Json
  /-- The document is canonical. -/
  canonical : json.isCanonical = true
  deriving DecidableEq

namespace Value

/-- The value of a document. -/
def ofJson (j : Json) : Value := ⟨j.canonical, j.isCanonical_canonical⟩

/-- A string as a value. -/
def str (s : String) : Value := ⟨.str s, rfl⟩

/-- The string that a value is. -/
def str? (v : Value) : Option String :=
  match v.json with
  | .str s => some s
  | _ => none

theorem str?_eq_some_iff {v : Value} {s : String} : v.str? = some s ↔ v = .str s := by
  obtain ⟨j, hj⟩ := v
  constructor
  · intro h
    unfold str? at h
    cases j with
    | str t =>
      obtain rfl : t = s := Option.some.inj h
      rfl
    | null | bool | num | arr | obj => cases h
  · intro h
    rw [h]
    rfl

@[simp] theorem json_ofJson (j : Json) : (ofJson j).json = j.canonical := rfl

theorem get?_ofJson (ms : List (String × Json)) (name : String) :
    (ofJson (.obj ms)).json.get? name = (ms.reverse.lookup name).map Json.canonical :=
  Json.lookup_canonicalMembers ms name

/-- The member of an object with a single member. -/
theorem get?_ofJson_singleton (name : String) {j : Json} (h : j.isCanonical = true) :
    (ofJson (.obj [(name, j)])).json.get? name = some j := by
  rw [get?_ofJson]
  simp [Json.canonical_eq_self h]

/-- The values of a map are the members of a canonical document. -/
theorem isCanonical_obj_entries {α : Type} (m : SortedMap α) (f : α → Value) :
    (Json.obj (m.entries.map fun (k, a) => (k, (f a).json))).isCanonical = true := by
  have hvalues : ∀ es : List (String × α),
      Json.allMembersCanonical (es.map fun (k, a) => (k, (f a).json)) = true := by
    intro es
    induction es with
    | nil => rfl
    | cons e es ih => simp [Json.allMembersCanonical, ih, (f e.2).canonical]
  simp only [Json.isCanonical, Bool.and_eq_true, decide_eq_true_eq, List.map_map]
  exact ⟨m.sorted, hvalues m.entries⟩

theorem ofJson_json (v : Value) : ofJson v.json = v := by
  obtain ⟨j, h⟩ := v
  simp [ofJson, Json.canonical_eq_self h]

end Value

end Alerting
