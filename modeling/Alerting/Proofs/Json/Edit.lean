import Alerting.Json.Edit

/-!
# What an edit changes

A document that was put at the end of a path is found there, and everything off the path stays as
it was.  An edit of canonical documents that gives a canonical one is an edit of values.

* `Json.part?_editAt?` : below the end of the path lies what was put there.
* `Json.part?_editAt?_of_ne` : where another path leaves the edited one, it leads where it led
  before.
-/

namespace Alerting

namespace Json

variable {j j' v : Json} {s s' : Step}

/-! ### One step -/

theorem getElem?_setChild? {xs : List Json} {i : Nat}
    (h : setChild? v (.item i) (.arr xs) = some j') :
    ∃ ys, j' = .arr ys ∧ ∀ n, ys[n]? = if n = i then some v else xs[n]? := by
  simp only [setChild?] at h
  split at h
  · cases h
    refine ⟨_, rfl, fun n => ?_⟩
    rw [List.getElem?_set]
    grind
  · split at h
    · cases h
      refine ⟨_, rfl, fun n => ?_⟩
      grind
    · cases h

/-- A step sees what was put there, and any other step sees what it saw before. -/
theorem child?_setChild? (h : setChild? v s j = some j') :
    j'.child? s' = if s' = s then some v else j.child? s' := by
  cases s with
  | member name =>
    cases j with
    | obj ms =>
      cases h
      cases s' with
      | member name' => simp [child?, SortedMap.lookup_insertEntry]
      | item => rfl
    | null | bool | num | str | arr => cases h
  | item i =>
    cases j with
    | arr xs =>
      obtain ⟨ys, rfl, hys⟩ := getElem?_setChild? h
      cases s' with
      | member => rfl
      | item n => simp [child?, hys]
    | null | bool | num | str | obj => cases h

/-! ### Paths -/

theorem editAt?_cons_eq_some_iff {edit : Step → Json → Option Json} {path : List Step} {t : Step} :
    editAt? edit (s :: t :: path) j = some j' ↔
      ∃ c, j.child? s = some c ∧ ∃ c', editAt? edit (t :: path) c = some c' ∧
        setChild? c' s j = some j' := by
  simp only [editAt?, Option.bind_eq_bind, Option.bind_eq_some_iff]

/-- A path leads on from where its first part ends. -/
theorem part?_append (path rest : List Step) :
    part? (path ++ rest) j = (part? path j).bind (part? rest) := by
  induction path generalizing j with
  | nil => rfl
  | cons s path ih =>
    rw [List.cons_append, part?, part?, Option.bind_assoc]
    exact congrArg (Option.bind (j.child? s)) (funext fun _ => ih)

theorem part?_editAt? {path rest : List Step} (h : editAt? (setChild? v) path j = some j') :
    part? (path ++ rest) j' = part? rest v := by
  induction path generalizing j j' with
  | nil => cases h
  | cons s path ih =>
    cases path with
    | nil =>
      simp only [editAt?] at h
      simp [part?, child?_setChild? h]
    | cons t path =>
      obtain ⟨c, -, c', hc, hset⟩ := editAt?_cons_eq_some_iff.1 h
      simp only [List.cons_append, part?, child?_setChild? hset, ↓reduceIte, Option.bind_some]
      exact ih hc

/-- Where a path leaves the edited one, it leads where it led before. -/
theorem part?_editAt?_of_ne (common : List Step) {path rest : List Step} (hne : s' ≠ s)
    (h : editAt? (setChild? v) (common ++ s :: path) j = some j') :
    part? (common ++ s' :: rest) j' = part? (common ++ s' :: rest) j := by
  induction common generalizing j j' with
  | nil =>
    cases path with
    | nil =>
      simp only [List.nil_append, editAt?] at h
      simp [part?, child?_setChild? h, hne]
    | cons t path =>
      obtain ⟨c, -, c', -, hset⟩ := editAt?_cons_eq_some_iff.1 h
      simp [part?, child?_setChild? hset, hne]
  | cons t common ih =>
    have hstep : ∃ c, j.child? t = some c ∧
        ∃ c', editAt? (setChild? v) (common ++ s :: path) c = some c' ∧
          setChild? c' t j = some j' := by
      cases common <;> exact editAt?_cons_eq_some_iff.1 h
    obtain ⟨c, hchild, c', hc, hset⟩ := hstep
    simp only [List.cons_append, part?, child?_setChild? hset, hchild, ↓reduceIte, Option.bind_some]
    exact ih hc

end Json

/-! ### Values -/

/-- An edit of the canonical document of a value is an edit of the value. -/
theorem Value.setAt?_ofJson {j k part : Json} {path : List Json.Step}
    (h : j.canonical.editAt? (Json.setChild? part.canonical) path = some k.canonical) :
    (ofJson j).setAt? path (ofJson part) = some (ofJson k) :=
  (congrArg (Option.map ofJson) h).trans (congrArg some (ofJson_json (ofJson k)))

end Alerting
