import Alerting.Proofs.Monitor.Compiled
import Alerting.Proofs.Script.Names
import Alerting.Proofs.Trigger.Recovered

/-!
# What triggers refer to

The query of a monitor and the conditions of its triggers are compiled apart.  A trigger refers to
the query by names: its script reads aggregations, and its selector stands on one.

* `TriggerForm.RefersTo` : what a trigger refers to, and what of it the query computes.
* `MonitorForm.refersTo_of_compile` : the triggers of a compiled monitor.
* `MonitorForm.compile_foreignMetric` : a metric that reads an aggregation by itself.

What this does **not** say: the metrics of a bucket trigger are put into its script as they are, so
a metric may read what no query computes.
-/

namespace Alerting

/-! ### Names that a query computes -/

namespace SearchInput

/-- The aggregations that the query computes, by name. -/
def aggregations (i : SearchInput) : List (String × Json) :=
  ((i.query.json.get? "aggregations").bind Json.members?).getD []

variable {i : SearchInput} {s : Search}

theorem aggregations_of_aggregationQuery {ms : List (String × Json)} {w : Window}
    (h : i.query = .ofJson (s.aggregationQuery (.obj ms) w)) :
    i.aggregations = Json.canonicalMembers ms := by
  unfold aggregations
  rw [h, Search.aggregationQuery, Value.get?_ofJson]
  rfl

/-- A graph search without groups computes its metric. -/
theorem aggregations_graphQuery (h : i.query = s.graphQuery) {f : FieldRef} {fs : List FieldRef}
    (ha : s.aggregation ≠ .count) (hf : s.metricFields = f :: fs) :
    i.aggregations =
      [(metricName, .obj [(nameOf s.aggregation, .obj [("field", .str f.label)])])] := by
  have hmetric : s.metric = .obj [(nameOf s.aggregation, .obj [("field", .str f.label)])] := by
    unfold Search.metric
    rw [hf]
    cases hs : s.aggregation with
    | count => exact absurd hs ha
    | avg | sum | min | max => rfl
  have hnamed : s.namedMetric = .obj [(metricName, s.metric)] := by
    refine if_neg ?_
    rw [hmetric]
    nofun
  rw [Search.graphQuery, hnamed] at h
  rw [aggregations_of_aggregationQuery h, hmetric]
  rfl

/-- A graph search with groups computes the groups. -/
theorem keys_groupQuery (h : i.query = s.groupQuery) :
    i.aggregations.map Prod.fst = [groupsName] := by
  rw [Search.groupQuery, Search.groups] at h
  rw [aggregations_of_aggregationQuery h]
  rfl

/-- An anomaly search computes the highest grade. -/
theorem keys_anomalyQuery {detector : String} {p : Period} (h : i.query = anomalyQuery detector p) :
    i.aggregations.map Prod.fst = [gradeName] := by
  unfold aggregations
  rw [h, anomalyQuery, Value.get?_ofJson]
  rfl

end SearchInput

namespace MonitorForm

variable {m : MonitorForm} {config : Config} {input : SearchInput}

theorem query_of_graph (h : m.searchInput config = .ok input) (hs : m.search.kind = .graph)
    (hk : m.kind = .queryLevel) : input.query = m.search.graphQuery := by
  unfold searchInput at h
  rw [hs, hk] at h
  exact congrArg SearchInput.query (Except.ok.inj h).symm

theorem query_of_groups (h : m.searchInput config = .ok input) (hs : m.search.kind = .graph)
    (hk : m.kind = .bucketLevel) : input.query = m.search.groupQuery := by
  unfold searchInput at h
  rw [hs, hk] at h
  exact congrArg SearchInput.query (Except.ok.inj h).symm

theorem query_of_anomaly (h : m.searchInput config = .ok input) (hs : m.search.kind = .anomaly) :
    input.query = anomalyQuery m.search.detector m.schedule.picker.period := by
  unfold searchInput at h
  rw [hs] at h
  exact congrArg SearchInput.query (Except.ok.inj h).symm

end MonitorForm

/-! ### Names that a trigger refers to -/

namespace TriggerCondition

/-- The script of a condition. -/
def script : TriggerCondition → Script
  | .query script => script
  | .bucket selector => selector.script

end TriggerCondition

namespace TriggerForm

/-- What the condition `c` compiled from a trigger form refers to, and what of it is among the
aggregations that the query of its monitor computes. -/
structure RefersTo (t : TriggerForm) (m : MonitorForm) (computed : List (String × Json))
    (c : TriggerCondition) : Prop where
  /-- A query trigger reads what the query computes. -/
  query : m.kind = .queryLevel →
    ∀ name ∈ c.script.aggregationNames, name ∈ computed.map Prod.fst
  /-- What a graph trigger reads is the metric of the first field. -/
  metric : m.kind = .queryLevel → m.search.kind = .graph → ∀ name ∈ c.script.aggregationNames,
    ∃ f fs, m.search.metricFields = f :: fs ∧ computed.lookup name =
      some (.obj [(nameOf m.search.aggregation, .obj [("field", .str f.label)])])
  /-- A bucket trigger reads what its metrics say. -/
  bucket : m.kind = .bucketLevel → c.script.aggregationNames =
    t.conditions.flatMap fun condition => Script.namesIn condition.metric.toList
  /-- A selector stands on the groups, which only a graph search computes. -/
  parent : ∀ selector, c = .bucket selector →
    (selector.parentPath ∈ computed.map Prod.fst ↔ m.search.kind = .graph)

variable {t : TriggerForm} {m : MonitorForm} {config : Config} {c : TriggerCondition}
  {input : SearchInput} {computed : List (String × Json)}

/-- A condition that reads nothing but what the query computes refers to nothing else. -/
theorem refersTo_of_names {script : Script} (hk : m.kind = .queryLevel)
    (hquery : ∀ name ∈ script.aggregationNames, name ∈ computed.map Prod.fst)
    (hmetric : m.search.kind = .graph → ∀ name ∈ script.aggregationNames,
      ∃ f fs, m.search.metricFields = f :: fs ∧ computed.lookup name =
        some (.obj [(nameOf m.search.aggregation, .obj [("field", .str f.label)])])) :
    t.RefersTo m computed (.query script) where
  query _ := hquery
  metric _ := hmetric
  bucket h := by
    rw [hk] at h
    cases h
  parent := nofun

/-- The threshold of a graph trigger is compared with the metric of the search. -/
theorem refersTo_of_graph (hm : m.validate config = .ok ())
    (hi : m.searchInput config = .ok input) (hc : t.condition m config = .ok c)
    (hs : m.search.kind = .graph) (hk : m.kind = .queryLevel) :
    t.RefersTo m input.aggregations c := by
  obtain rfl := query_of_condition hc hk
  have hnames : (t.queryScript m.search config).aggregationNames =
      if m.search.aggregation = .count then [] else [metricName, metricName] := by
    simp only [queryScript, hs]
    exact t.threshold.namesIn_graphSource m.search.aggregation
  by_cases ha : m.search.aggregation = .count
  · rw [if_pos ha] at hnames
    refine refersTo_of_names hk (fun name hname => ?_) fun _ name hname => ?_
    · rw [hnames] at hname
      cases hname
    · rw [hnames] at hname
      cases hname
  · rw [if_neg ha] at hnames
    obtain ⟨f, fs, hf⟩ := MonitorForm.metricFields_of_validate hm hs hk ha
    have hcomputed := SearchInput.aggregations_graphQuery (MonitorForm.query_of_graph hi hs hk) ha hf
    have hname : ∀ name ∈ (t.queryScript m.search config).aggregationNames, name = metricName := by
      rw [hnames]
      simp
    refine refersTo_of_names hk (fun name h => ?_) fun _ name h => ⟨f, fs, hf, ?_⟩
    · rw [hcomputed, hname name h]
      exact List.mem_singleton_self metricName
    · rw [hcomputed, hname name h, SortedMap.lookup_cons_eq, if_pos rfl]

/-- The thresholds of an anomaly trigger are compared with the highest grade. -/
theorem refersTo_of_anomaly (hi : m.searchInput config = .ok input)
    (hc : t.condition m config = .ok c) (hs : m.search.kind = .anomaly)
    (hk : m.kind = .queryLevel) : t.RefersTo m input.aggregations c := by
  obtain rfl := query_of_condition hc hk
  have hkeys := SearchInput.keys_anomalyQuery (MonitorForm.query_of_anomaly hi hs)
  have hnames : (t.queryScript m.search config).aggregationNames =
      [gradeName, gradeName, gradeName] := by
    simp only [queryScript, hs]
    exact t.anomaly.namesIn_source
  refine refersTo_of_names hk (fun name h => ?_) fun h => ?_
  · rw [hnames] at h
    rw [hkeys]
    simpa using h
  · rw [hs] at h
    cases h

/-- The conditions of a bucket trigger are compared with the metrics that they name. -/
theorem refersTo_of_bucketLevel (hi : m.searchInput config = .ok input)
    (hc : t.condition m config = .ok c) (hs : m.search.kind ≠ .query)
    (hk : m.kind = .bucketLevel) : t.RefersTo m input.aggregations c := by
  obtain ⟨selector, hselector, rfl⟩ := toSelector_of_condition hc hk hs
  obtain ⟨chain, hchain, _, -, rfl⟩ := toSelector_eq_ok_iff.1 hselector
  have hkeys : groupsName ∈ input.aggregations.map Prod.fst ↔ m.search.kind = .graph := by
    cases hq : m.search.kind with
    | query => exact absurd hq hs
    | anomaly =>
      rw [SearchInput.keys_anomalyQuery (MonitorForm.query_of_anomaly hi hq)]
      decide
    | graph =>
      rw [SearchInput.keys_groupQuery (MonitorForm.query_of_groups hi hq hk)]
      decide
  have hnames := Chain.namesIn_chainText config chain
  rw [Chain.clauses_of_ofConditions hchain, List.flatMap_map] at hnames
  refine ⟨fun h => ?_, fun h => ?_, fun _ => hnames, fun selector h => ?_⟩
  · rw [hk] at h
    cases h
  · rw [hk] at h
    cases h
  · obtain rfl := TriggerCondition.bucket.inj h
    exact hkeys

end TriggerForm

/-! ### Monitors -/

namespace MonitorForm

variable {m : MonitorForm} {ts : List TriggerForm} {config : Config} {d : Monitor}

/-- **What triggers refer to.**  The query of a monitor that was not written by hand computes all
aggregations that its query triggers read, and the groups that its bucket triggers stand on unless
it is the query of an anomaly; the script of a bucket trigger reads nothing by itself but what its
metrics read. -/
theorem refersTo_of_compile (h : m.compile ts config = .ok d) (hs : m.search.kind ≠ .query) :
    ∃ input, d.inputs = [input] ∧
      List.Forall₂ (fun t tr => t.RefersTo m input.aggregations tr.condition) ts d.triggers := by
  obtain ⟨hm, -, _, hd, trs, htrs, rfl⟩ := compile_eq_ok_iff.1 h
  obtain ⟨input, hinput, rfl⟩ := toMonitor_eq_ok_iff.1 hd
  refine ⟨input, rfl, htrs.imp fun t tr htr => ?_⟩
  obtain ⟨c, hc, rfl⟩ := TriggerForm.toTrigger_eq_ok_iff.1 htr
  cases hk : m.kind with
  | bucketLevel => exact TriggerForm.refersTo_of_bucketLevel hinput hc hs hk
  | queryLevel =>
    cases hq : m.search.kind with
    | query => exact absurd hq hs
    | anomaly => exact TriggerForm.refersTo_of_anomaly hinput hc hq hk
    | graph => exact TriggerForm.refersTo_of_graph hm hinput hc hq hk

/-- A monitor of one metric with one trigger. -/
theorem refersTo_of_compile_metric :
    let m : MonitorForm := { initial with
      name := "latency"
      indices := ["logs-*"]
      search := { Search.initial with
        timeField := "@timestamp"
        aggregation := .avg
        metricFields := [{ label := "latency", type := none }] } }
    let t : TriggerForm := { TriggerForm.initial with name := "slow" }
    ∃ d, m.compile [t] .initial = .ok d ∧ m.search.kind ≠ .query ∧
      ∃ input, d.inputs = [input] ∧
        List.Forall₂ (fun t tr => t.RefersTo m input.aggregations tr.condition) [t] d.triggers := by
  intro m t
  have hcompiles : (m.compile [t] .initial).map (fun d => d.triggers.length) = .ok 1 := by
    decide +kernel
  obtain ⟨d, hd, -⟩ := Compile.map_eq_ok.1 hcompiles
  have hs : m.search.kind ≠ .query := by decide
  exact ⟨d, hd, hs, refersTo_of_compile hd hs⟩

/-- A metric of a bucket trigger may read an aggregation by itself, which no query computes. -/
theorem compile_foreignMetric :
    let m : MonitorForm := { initial with
      name := "hosts"
      kind := .bucketLevel
      indices := ["logs-*"]
      search := { Search.initial with
        timeField := "@timestamp"
        metrics := [{ aggregation := .avg, field := "latency" }]
        groupBy := ["host"] } }
    let t : TriggerForm := { TriggerForm.initial with
      name := "slow"
      conditions := [{
        metric := "avg_latency > 0 || ctx.results[0].aggregations.total.value"
        comparison := .above
        threshold := .ofDecimal false ⟨1, 0⟩
        joiner := none }] }
    ∃ d, m.compile [t] .initial = .ok d ∧ m.search.kind = .graph ∧
      ¬∀ input ∈ d.inputs, ∀ tr ∈ d.triggers, ∀ name ∈ tr.condition.script.aggregationNames,
        name ∈ input.aggregations.map Prod.fst := by
  intro m t
  have hreads : (m.compile [t] .initial).map (fun d => decide
      (∀ input ∈ d.inputs, ∀ tr ∈ d.triggers, ∀ name ∈ tr.condition.script.aggregationNames,
        name ∈ input.aggregations.map Prod.fst)) = .ok false := by
    decide +kernel
  obtain ⟨d, hd, hnot⟩ := Compile.map_eq_ok.1 hreads
  exact ⟨d, hd, rfl, of_decide_eq_false hnot⟩

end MonitorForm

end Alerting
