import Alerting.Proofs.Monitor.Bare
import Alerting.Proofs.Trigger.Recovered

/-!
# Which forms are accepted

Forms are validated before they compile, and compiling can fail by itself: at a text that is not
read, at a condition without its joiner, at an operator without a bucket filter.  Validation rules
out the first two but not the last one.

* `Where.Clause.exists_patternFilter?_iff` : the clauses that have a bucket filter.
* `TriggerForm.exists_toTrigger_iff` : the valid trigger forms that compile.
* `MonitorForm.exists_compile_iff_acceptable` : the forms that are accepted, and what the stored
  monitor holds of their triggers.
-/

namespace Alerting

variable {config : Config}

/-! ### Selectors -/

namespace Where.Clause

variable {c : Clause}

/-- A clause has a bucket filter if it filters nothing or by an operator that has patterns. -/
theorem exists_patternFilter?_iff :
    (∃ filter, c.patternFilter? = .ok filter) ↔
      c.field? = none ∨ c.operator ∈ patternOperators := by
  rw [← isSome_pattern?_iff]
  unfold patternFilter?
  cases c.field? with
  | none => simp
  | some f => cases c.pattern? <;> simp [refuse]

end Where.Clause

/-! ### Triggers -/

namespace TriggerForm

variable {m : MonitorForm} {t : TriggerForm}

theorem exists_toSelector_iff (h : Condition.validateAll t.conditions config = .ok ()) :
    (∃ selector, t.toSelector config = .ok selector) ↔
      t.filter.field? = none ∨ t.filter.operator ∈ Where.patternOperators := by
  obtain ⟨chain, hchain⟩ := Chain.exists_ofConditions h
  rw [← Where.Clause.exists_patternFilter?_iff]
  simp only [toSelector_eq_ok_iff]
  constructor
  · rintro ⟨_, _, -, filter, hfilter, -⟩
    exact ⟨filter, hfilter⟩
  · rintro ⟨filter, hfilter⟩
    exact ⟨_, chain, hchain, filter, hfilter, rfl⟩

/-- Valid trigger forms compile, but for picked filters without patterns. -/
theorem exists_toTrigger_iff (h : t.validate m.kind m.search.kind config = .ok ()) :
    (∃ tr, t.toTrigger m config = .ok tr) ↔
      (m.kind = .bucketLevel → m.search.kind ≠ .query →
        t.filter.field? = none ∨ t.filter.operator ∈ Where.patternOperators) := by
  have htrigger : (∃ tr, t.toTrigger m config = .ok tr) ↔ ∃ c, t.condition m config = .ok c := by
    simp only [toTrigger_eq_ok_iff]
    exact ⟨fun ⟨_, c, hc, _⟩ => ⟨c, hc⟩, fun ⟨c, hc⟩ => ⟨_, c, hc, rfl⟩⟩
  rw [htrigger]
  unfold condition
  cases hk : m.kind with
  | queryLevel => exact ⟨fun _ => nofun, fun _ => ⟨_, rfl⟩⟩
  | bucketLevel =>
    by_cases hs : m.search.kind = .query
    · obtain ⟨selector, hselector⟩ := exists_parse_of_validate h hk hs
      simp only [hs, Compile.map_eq_ok]
      exact ⟨fun _ _ hq => absurd rfl hq, fun _ => ⟨_, selector, hselector, rfl⟩⟩
    · have hpicked : (∃ c, (t.toSelector config).map TriggerCondition.bucket = .ok c) ↔
          ∃ selector, t.toSelector config = .ok selector := by
        simp only [Compile.map_eq_ok]
        exact ⟨fun ⟨_, selector, hselector, _⟩ => ⟨selector, hselector⟩,
          fun ⟨selector, hselector⟩ => ⟨_, selector, hselector, rfl⟩⟩
      rw [exists_toSelector_iff (validateAll_of_validate h hk hs)] at hpicked
      cases hq : m.search.kind with
      | query => exact absurd hq hs
      | anomaly | graph => simpa using hpicked

/-- A stored trigger has the name of its form and a condition for its monitor. -/
theorem name_kind_of_toTrigger {tr : Trigger} (h : t.toTrigger m config = .ok tr) :
    tr.name = t.name ∧ tr.condition.kind = m.kind := by
  obtain ⟨c, hc, rfl⟩ := toTrigger_eq_ok_iff.1 h
  refine ⟨rfl, ?_⟩
  cases hk : m.kind with
  | queryLevel =>
    obtain rfl := query_of_condition hc hk
    rfl
  | bucketLevel =>
    obtain ⟨selector, rfl, -⟩ := bucket_of_condition hc hk
    rfl

end TriggerForm

/-! ### Monitors -/

namespace MonitorForm

variable {m : MonitorForm} {ts : List TriggerForm} {d : Monitor}

/-- What a monitor form and its trigger forms have to fulfil to be saved. -/
structure Acceptable (m : MonitorForm) (ts : List TriggerForm) (config : Config) : Prop where
  monitor : m.validate config = .ok ()
  triggers : ∀ t ∈ ts, t.validate m.kind m.search.kind config = .ok ()
  names : (ts.map TriggerForm.name).Nodup
  /-- Validation knows nothing of this rule. -/
  filters : m.kind = .bucketLevel → m.search.kind ≠ .query →
    ∀ t ∈ ts, t.filter.field? = none ∨ t.filter.operator ∈ Where.patternOperators

/-- What a stored monitor holds of the trigger forms of `m`. -/
structure HoldsTriggers (m : MonitorForm) (ts : List TriggerForm) (d : Monitor) : Prop where
  /-- One trigger for each form, in their order. -/
  triggers : List.Forall₂ (fun t tr => tr.name = t.name ∧ tr.condition.kind = m.kind) ts d.triggers
  /-- One entry beside each trigger and no other. -/
  sidecar : ∃ s, d.sidecar = some s ∧
    (∀ name, name ∈ s.triggers.keys ↔ name ∈ ts.map TriggerForm.name) ∧
    ∀ t ∈ ts, s.triggers.get? t.name = some (t.sidecar m)

theorem exists_searchInput (h : m.validate config = .ok ()) :
    ∃ input, m.searchInput config = .ok input := by
  unfold searchInput
  cases hs : m.search.kind with
  | query =>
    obtain ⟨query, hquery⟩ := exists_readQuery_of_validate h hs
    rw [hquery]
    exact ⟨_, rfl⟩
  | anomaly => exact ⟨_, rfl⟩
  | graph => cases m.kind <;> exact ⟨_, rfl⟩

theorem mem_keys_triggerSidecars {name : String} :
    name ∈ (m.triggerSidecars ts).keys ↔ name ∈ ts.map TriggerForm.name := by
  unfold triggerSidecars
  rw [SortedMap.mem_keys_ofList, List.map_map]
  rfl

theorem Acceptable.exists_compile (h : m.Acceptable ts config) :
    ∃ d, m.compile ts config = .ok d := by
  have htriggers : m.validateTriggers config [] ts = .ok () :=
    validateTriggers_eq_ok_iff.2 ⟨h.triggers, h.names, fun _ _ => List.not_mem_nil⟩
  obtain ⟨input, hinput⟩ := exists_searchInput h.monitor
  obtain ⟨trs, htrs⟩ := Compile.exists_mapM_iff.2 fun t ht =>
    (TriggerForm.exists_toTrigger_iff (h.triggers t ht)).2 fun hk hs => h.filters hk hs t ht
  exact ⟨_, compile_eq_ok_iff.2 ⟨h.monitor, htriggers, _,
    toMonitor_eq_ok_iff.2 ⟨input, hinput, rfl⟩, trs, Compile.mapM_eq_ok_iff.1 htrs, rfl⟩⟩

theorem acceptable_of_compile (h : m.compile ts config = .ok d) : m.Acceptable ts config := by
  obtain ⟨hmonitor, htriggers, _, -, trs, htrs, -⟩ := compile_eq_ok_iff.1 h
  obtain ⟨hrules, hnames, -⟩ := validateTriggers_eq_ok_iff.1 htriggers
  refine ⟨hmonitor, hrules, hnames, fun hk hs t ht => ?_⟩
  obtain ⟨tr, -, htr⟩ := Compile.exists_mem_of_forall₂ htrs ht
  exact (TriggerForm.exists_toTrigger_iff (hrules t ht)).1 ⟨tr, htr⟩ hk hs

theorem holdsTriggers_of_compile (h : m.compile ts config = .ok d) : m.HoldsTriggers ts d := by
  have hnames := (acceptable_of_compile h).names
  obtain ⟨-, -, d₀, hd, trs, htrs, rfl⟩ := compile_eq_ok_iff.1 h
  obtain ⟨input, -, rfl⟩ := toMonitor_eq_ok_iff.1 hd
  exact ⟨htrs.imp fun _ _ => TriggerForm.name_kind_of_toTrigger, _, rfl,
    fun _ => mem_keys_triggerSidecars, fun _ => get?_triggerSidecars hnames⟩

/-- **What is accepted.**  Forms compile exactly when validation objects to nothing, no two triggers
have one name, and every picked filter on buckets has patterns; the monitor then holds one trigger
and one sidecar entry for each form. -/
theorem exists_compile_iff_acceptable (m : MonitorForm) (ts : List TriggerForm) (config : Config) :
    ((∃ d, m.compile ts config = .ok d) ↔ m.Acceptable ts config) ∧
      ∀ d, m.compile ts config = .ok d → m.HoldsTriggers ts d :=
  ⟨⟨fun ⟨_, h⟩ => acceptable_of_compile h, Acceptable.exists_compile⟩,
    fun _ => holdsTriggers_of_compile⟩

end MonitorForm

end Alerting
