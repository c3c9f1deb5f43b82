import Alerting.Proofs.Trigger.Recovered

/-!
# What selectors bind

A selector takes its paths and its script from one chain in two ways, once as a set of metrics and
once as text.  What the text is read as has just the metrics that are bound.

* `SortedMap.keys_ofKeys`, `SortedMap.get?_ofKeys` : the map that takes each of some keys to itself.
* `Where.Clause.saysOneMode_of_patternFilter?` : what a selector takes of its where clause.
* `Chain.mem_keys_metrics_of_ofConditions` : what it takes of its conditions.
* `TriggerForm.binds_of_toSelector` : the metrics of the script are the ones that are bound.
-/

namespace Alerting

/-! ### Keys that stand for themselves -/

namespace SortedMap

variable {α : Type}

theorem entries_ofKeys (m : SortedMap α) :
    (ofList (m.keys.map fun k => (k, k))).entries = m.keys.map fun k => (k, k) := by
  refine sortEntries_eq_self ?_
  rw [List.map_map]
  exact (List.map_id m.keys).symm ▸ m.sorted

theorem keys_ofKeys (m : SortedMap α) : (ofList (m.keys.map fun k => (k, k))).keys = m.keys := by
  rw [keys, entries_ofKeys, List.map_map]
  exact List.map_id m.keys

theorem get?_ofKeys (m : SortedMap α) {k : String} (h : k ∈ m.keys) :
    (ofList (m.keys.map fun k => (k, k))).get? k = some k := by
  refine get?_ofList_of_mem ?_ (List.mem_map_of_mem h)
  rw [List.map_map]
  exact (List.map_id m.keys).symm ▸ m.nodup_keys

end SortedMap

/-! ### Filters -/

namespace Where

/-- A filter says one thing of one field: which of its values are included, or which are not. -/
def PatternFilter.SaysOneMode (f : PatternFilter) : Prop :=
  ∃ label modes, f.entries = [(label, modes)] ∧
    ∃ keyword pattern, modes.entries = [(keyword, pattern)] ∧
      (keyword = "include" ∨ keyword = "exclude")

theorem Mode.keyword_eq (m : Mode) : m.keyword = "include" ∨ m.keyword = "exclude" := by
  cases m with
  | keep => exact .inl rfl
  | drop => exact .inr rfl

namespace Clause

variable {c : Clause} {filter : Option PatternFilter}

theorem patternFilter?_eq_none_iff (h : c.patternFilter? = .ok filter) :
    filter = none ↔ c.fields = [] := by
  have hfield : c.field? = none ↔ c.fields = [] := List.head?_eq_none_iff
  rw [← hfield]
  unfold patternFilter? at h
  cases hf : c.field? with
  | none =>
    rw [hf] at h
    cases h
    exact ⟨fun _ => rfl, fun _ => rfl⟩
  | some f =>
    rw [hf] at h
    cases hp : c.pattern? with
    | none =>
      rw [hp] at h
      cases h
    | some pattern =>
      rw [hp] at h
      cases h
      exact ⟨nofun, nofun⟩

theorem saysOneMode_of_patternFilter? {f : PatternFilter} (h : c.patternFilter? = .ok (some f)) :
    f.SaysOneMode := by
  obtain ⟨field, mode, pattern, -, -, rfl⟩ := patternFilter?_eq_some_iff.1 h
  exact ⟨field.label, _, rfl, mode.keyword, pattern, rfl, mode.keyword_eq⟩

end Clause

end Where

/-! ### Parameters -/

namespace Chain

theorem mem_keys_metrics {c : Chain} {k : String} :
    k ∈ c.metrics.keys ↔ k ∈ c.clauses.map Clause.metric := by
  rw [metrics, SortedMap.setOf, SortedMap.mem_keys_ofList, List.map_map]
  exact Iff.of_eq (congrArg (k ∈ ·) (List.map_id _))

/-- The metrics of a chain are those of its conditions. -/
theorem mem_keys_metrics_of_ofConditions {cs : List Condition} {c : Chain}
    (h : ofConditions cs = .ok c) {k : String} :
    k ∈ c.metrics.keys ↔ k ∈ cs.map Condition.metric := by
  rw [mem_keys_metrics, clauses_of_ofConditions h, List.map_map]
  rfl

end Chain

namespace TriggerForm

variable {t : TriggerForm} {config : Config} {selector : BucketSelector}

/-- **A selector binds what its script uses.**  It binds the distinct metrics of the conditions,
each to itself.  If the conditions can be read back, they are read in both layouts of the script,
and the metrics that are read are the ones that are bound.  There is a filter unless the where
clause has no field, and it says one mode of one field. -/
theorem binds_of_toSelector (h : t.toSelector config = .ok selector) :
    (∀ k, k ∈ selector.paths.keys ↔ k ∈ t.conditions.map Condition.metric) ∧
      selector.paths.keys.Nodup ∧
      (∀ k ∈ selector.paths.keys, selector.paths.get? k = some k) ∧
    (t.conditions ≠ [] → (∀ c ∈ t.conditions, (Chain.Clause.ofCondition c).IsReadable) →
      ∃ chain, Chain.parse selector.script.source = .ok chain ∧
        chain.metrics.keys = selector.paths.keys ∧
        ∀ grouped, ∃ other, t.toSelector (config.withGrouping grouped) = .ok other ∧
          Chain.parse other.script.source = .ok chain ∧ other.paths = selector.paths) ∧
    (selector.filter = none ↔ t.filter.fields = []) ∧
      ∀ f, selector.filter = some f → f.SaysOneMode := by
  obtain ⟨chain, hchain, filter, hfilter, rfl⟩ := toSelector_eq_ok_iff.1 h
  have hkeys := SortedMap.keys_ofKeys chain.metrics
  refine ⟨fun k => ?_, SortedMap.nodup_keys _, fun k hk => ?_, fun hne hclauses => ?_,
    Where.Clause.patternFilter?_eq_none_iff hfilter, ?_⟩
  · rw [hkeys]
    exact Chain.mem_keys_metrics_of_ofConditions hchain
  · exact SortedMap.get?_ofKeys chain.metrics (hkeys ▸ hk)
  · have hreadable := Chain.isReadable_of_ofConditions hchain hne hclauses
    refine ⟨chain, Chain.parse_chainText hreadable config, hkeys.symm, fun grouped => ?_⟩
    exact ⟨_, toSelector_eq_ok_iff.2 ⟨chain, hchain, filter, hfilter, rfl⟩,
      Chain.parse_chainText hreadable _, rfl⟩
  · rintro f rfl
    exact Where.Clause.saysOneMode_of_patternFilter? hfilter

/-- A metric that two of three conditions compare is bound once. -/
theorem binds_of_toSelector_repeated :
    let t : TriggerForm :=
      { TriggerForm.initial with
        conditions := [
          ⟨"latency(max", .above, .ofDecimal false ⟨15, -1⟩, some .or⟩,
          ⟨"errors", .exactly, .ofDecimal true ⟨0, 0⟩, some .or⟩,
          ⟨"latency(max", .below, .ofDecimal false ⟨2, 9⟩, some .and⟩]
        filter := .onKeyword "host" .doesNotContain "web" }
    ∃ selector, t.toSelector .initial = .ok selector ∧ t.conditions ≠ [] ∧
      (∀ c ∈ t.conditions, (Chain.Clause.ofCondition c).IsReadable) ∧
      selector.paths.keys = ["errors", "latency(max"] ∧
      (∃ chain, Chain.parse selector.script.source = .ok chain ∧
        chain.metrics.keys = selector.paths.keys) ∧
      ∃ f, selector.filter = some f ∧ f.SaysOneMode := by
  intro t
  obtain ⟨selector, h⟩ : ∃ selector, t.toSelector .initial = .ok selector :=
    Compile.exists_ok_of_isOk (by decide +kernel)
  have hreadable : ∀ c ∈ t.conditions, (Chain.Clause.ofCondition c).IsReadable := by
    have hclauses : ∀ c ∈ t.conditions, Text.Unspaced c.metric.toList ∧
        c.metric.toList.getLast? ≠ some ')' ∧ c.threshold.isFinite = true := by decide +kernel
    exact fun c hc => ⟨(hclauses c hc).1, (hclauses c hc).2.1, (hclauses c hc).2.2⟩
  have hkeys : (t.toSelector .initial).map (fun s => s.paths.keys) =
      .ok ["errors", "latency(max"] := by decide +kernel
  rw [h] at hkeys
  obtain ⟨-, -, -, hparse, hnone, hfilter⟩ := binds_of_toSelector h
  obtain ⟨chain, hchain, hmetrics, -⟩ := hparse nofun hreadable
  refine ⟨selector, h, nofun, hreadable, Except.ok.inj hkeys, ⟨chain, hchain, hmetrics⟩, ?_⟩
  cases hf : selector.filter with
  | none => cases hnone.1 hf
  | some f => exact ⟨f, rfl, hfilter f hf⟩

end TriggerForm

end Alerting
