import Alerting.Proofs.Compile
import Alerting.Validation

/-!
# What validation guarantees

Compiling relies on the checks and does not repeat them.  These lemmas say what is left to rely on
once a check is passed.

* `Where.Clause.bounds_of_checkOperand`, `Where.Clause.isVoid_of_checkOperand` : what a where clause
  with a field holds, by its operator.
* `Condition.validateAt_eq_ok_iff` : a condition has a metric, and a joiner unless it is the first.
* `TriggerForm.validateAll_of_validate`, `TriggerForm.exists_parse_of_validate` : what a trigger
  form of a bucket monitor holds.
* `MonitorForm.selected_of_validate` : a weekly monitor form has a day of the week.
* `MonitorForm.exists_readQuery_of_validate`, `MonitorForm.metricFields_of_validate` : what a
  monitor form holds, by the kind of its search.
-/

namespace Alerting

variable {config : Config}

/-- A check objects to its own rule. -/
theorem eq_of_require {holds : Bool} {v w : Violation} (h : require holds v = refuse w) :
    v = w := by
  cases holds with
  | true => cases h
  | false =>
    cases h
    rfl

/-! ### Where clauses -/

namespace Where.Clause

variable {c : Clause} {f : FieldRef}

theorem checkOperand_of_validate (h : c.validate config = .ok ()) (hf : c.field? = some f) :
    c.checkOperand = .ok () := by
  unfold validate at h
  simp only [hf, Compile.check_bind_eq_ok] at h
  exact h.2.2

/-- A bound is checked against both bounds, and so against itself. -/
theorem checkBound_eq_ok_iff {bound : Binary64} :
    c.checkBound bound = .ok () ↔
      bound ≠ .nan ∧ (∀ stop ∈ c.rangeEnd, stop.less bound = false) ∧
        ∀ start ∈ c.rangeStart, bound.less start = false := by
  unfold checkBound
  simp only [Compile.check_bind_eq_ok, require_eq_ok, decide_eq_true_eq, Option.all_eq_true,
    Bool.not_eq_true', Option.mem_def]

theorem bounds_of_checkOperand (h : c.checkOperand = .ok ()) (hr : c.operator.isRange = true) :
    ∃ start stop, c.rangeStart = some start ∧ c.rangeEnd = some stop ∧
      start ≠ .nan ∧ stop ≠ .nan ∧ stop.less start = false := by
  unfold checkOperand at h
  rw [if_pos hr] at h
  split at h
  · rename_i start stop hstart hstop
    obtain ⟨hfirst, hlast⟩ := Compile.check_bind_eq_ok.1 h
    obtain ⟨hnumber, hbefore, -⟩ := checkBound_eq_ok_iff.1 hfirst
    exact ⟨start, stop, hstart, hstop, hnumber, (checkBound_eq_ok_iff.1 hlast).1,
      hbefore stop hstop⟩
  · cases h

theorem isVoid_of_checkOperand (h : c.checkOperand = .ok ()) (hr : c.operator.isRange = false)
    (hn : c.operator.isNullCheck = false) : c.value.isVoid = false := by
  unfold checkOperand at h
  simpa [hr, hn, require_eq_ok] using h

end Where.Clause

/-! ### Conditions -/

namespace Condition

variable {c : Condition} {cs : List Condition} {i : Nat}

theorem validateAt_eq_ok_iff :
    c.validateAt i = .ok () ↔
      Text.isBlankText c.metric = false ∧ (c.joiner = none ↔ i = 0) := by
  unfold validateAt
  rw [Compile.check_bind_eq_ok, require_eq_ok, Bool.not_eq_true']
  refine and_congr_right fun _ => ?_
  cases i with
  | zero => cases c.joiner <;> simp [refuse, pure, Except.pure]
  | succ i => cases c.joiner <;> simp [refuse, pure, Except.pure]

theorem validateFrom_cons_eq_ok_iff :
    validateFrom i (c :: cs) = .ok () ↔
      c.validateAt i = .ok () ∧ validateFrom (i + 1) cs = .ok () :=
  Compile.check_bind_eq_ok

/-- Valid conditions are there, and the first of them is not joined to anything. -/
theorem exists_cons_of_validateAll (h : validateAll cs config = .ok ()) :
    ∃ first rest, cs = first :: rest ∧ first.joiner = none ∧ validateFrom 1 rest = .ok () := by
  unfold validateAll at h
  simp only [Compile.check_bind_eq_ok, require_eq_ok] at h
  obtain ⟨hne, -, hfrom⟩ := h
  cases cs with
  | nil => cases hne
  | cons first rest =>
    obtain ⟨hfirst, hrest⟩ := validateFrom_cons_eq_ok_iff.1 hfrom
    exact ⟨first, rest, rfl, (validateAt_eq_ok_iff.1 hfirst).2.2 rfl, hrest⟩

end Condition

/-! ### Triggers -/

namespace TriggerForm

variable {t : TriggerForm} {kind : MonitorKind} {search : SearchKind}

theorem validateAll_of_validate (h : t.validate kind search config = .ok ())
    (hk : kind = .bucketLevel) (hs : search ≠ .query) :
    Condition.validateAll t.conditions config = .ok () := by
  unfold validate at h
  rw [hk] at h
  cases search with
  | query => exact absurd rfl hs
  | anomaly | graph =>
    simp only [Compile.check_bind_eq_ok] at h
    exact h.2.1

theorem exists_parse_of_validate (h : t.validate kind search config = .ok ())
    (hk : kind = .bucketLevel) (hs : search = .query) :
    ∃ selector, BucketSelector.parse t.selector = .ok selector := by
  unfold validate at h
  simp only [hk, hs, Compile.bind_eq_ok] at h
  obtain ⟨_, -, selector, hselector, -⟩ := h
  exact ⟨selector, hselector⟩

end TriggerForm

/-! ### Monitors -/

namespace MonitorForm

variable {m : MonitorForm}

/-- Every kind of search is checked only after the schedule is. -/
theorem selected_of_validate (h : m.validate config = .ok ())
    (hw : m.schedule.frequency = .weekly) : m.schedule.picker.weekly.selected ≠ [] := by
  unfold validate at h
  simp only [Compile.check_bind_eq_ok, require_eq_ok] at h
  obtain ⟨-, hday, -⟩ := h
  simpa [hw] using hday

theorem exists_readQuery_of_validate (h : m.validate config = .ok ())
    (hs : m.search.kind = .query) : ∃ query, readQuery m.query = .ok query := by
  unfold validate at h
  simp only [hs, Compile.bind_eq_ok] at h
  obtain ⟨_, -, _, -, query, hquery, -⟩ := h
  exact ⟨query, hquery⟩

/-- A metric that is measured without groups has its field. -/
theorem metricFields_of_validate (h : m.validate config = .ok ()) (hs : m.search.kind = .graph)
    (hk : m.kind = .queryLevel) (ha : m.search.aggregation ≠ .count) :
    ∃ f fs, m.search.metricFields = f :: fs := by
  unfold validate validateGraph at h
  simp only [hs, hk, Compile.check_bind_eq_ok, require_eq_ok, Bool.or_eq_true,
    decide_eq_true_eq, ha, false_or, Bool.not_eq_true'] at h
  obtain ⟨-, -, ⟨-, -, -, hfields⟩, -⟩ := h
  exact List.exists_cons_of_ne_nil (List.isEmpty_eq_false_iff.1 hfields)

end MonitorForm

end Alerting
