import Alerting.Proofs.Search.Window

/-!
# Metrics of groups

The query of a search with groups computes metrics under names that are put together from a keyword
and a field.  No two metrics have the same name, so none takes the place of another.

* `Metric.name_injective` : a name says what metric it is of.
* `Search.lookup_groupMetrics`, `Search.mem_keys_groupMetrics` : the metrics that stand in a query.
* `Search.ComputesGroups` : what a query computes of each group, and what the groups are.
* `Search.groups_keep_metrics` : stored queries and previews compute all metrics.
-/

namespace Alerting

/-! ### Names -/

/-- The value that a list of named values has for a name, if names tell them apart. -/
theorem SortedMap.lookup_map_of_injective {α β : Type} {name : α → String} {value : α → β}
    (hn : Function.Injective name) {xs : List α} {a : α} (h : a ∈ xs) :
    (xs.map fun x => (name x, value x)).lookup (name a) = some (value a) := by
  induction xs with
  | nil => cases h
  | cons x xs ih =>
    rw [List.map_cons, lookup_cons_eq]
    by_cases hx : name a = name x
    · rw [if_pos hx, hn hx]
    · have hmem : a ∈ xs := (List.mem_cons.1 h).resolve_left fun hax => hx (congrArg name hax)
      rw [if_neg hx, ih hmem]

namespace Aggregation

/-- Two characters tell the keywords apart. -/
theorem eq_of_take_groupKeyword {a b : Aggregation}
    (h : a.groupKeyword.toList.take 2 = b.groupKeyword.toList.take 2) : a = b := by
  revert h
  cases a <;> cases b <;> decide

theorem two_le_length_groupKeyword (a : Aggregation) : 2 ≤ a.groupKeyword.toList.length := by
  cases a <;> decide

end Aggregation

/-- An underscore may stand in a keyword or in a field, but the keyword shows where it ends. -/
theorem Metric.name_injective : Function.Injective name := by
  intro m n h
  have hlist := congrArg String.toList h
  simp only [name, String.toList_append, List.append_assoc] at hlist
  -- The field may be empty or look like a keyword; the first two characters are never part of it.
  have haggregation : m.aggregation = n.aggregation := by
    have htake := congrArg (List.take 2) hlist
    rw [List.take_append_of_le_length m.aggregation.two_le_length_groupKeyword,
      List.take_append_of_le_length n.aggregation.two_le_length_groupKeyword] at htake
    exact Aggregation.eq_of_take_groupKeyword htake
  rw [haggregation] at hlist
  have hfield := List.append_cancel_left (List.append_cancel_left hlist)
  obtain ⟨aggregation, field⟩ := m
  obtain rfl : aggregation = n.aggregation := haggregation
  obtain rfl : field = n.field := String.toList_inj.1 hfield
  rfl

/-- What stands under the name of a metric: its keyword, of its own field. -/
def Metric.body (m : Metric) : Json :=
  .obj [(m.aggregation.groupKeyword, .obj [("field", .str m.field)])]

/-! ### Parts of queries -/

namespace Search

variable (s : Search)

/-- Where the metrics of each group stand in a query. -/
def groupMetricsPath : List Json.Step :=
  aggregationsPath ++ [.member groupsName, .member "aggregations"]

/-- Where the fields stand that a query groups by. -/
def groupSourcesPath : List Json.Step :=
  aggregationsPath ++ [.member groupsName, .member "composite", .member "sources"]

/-- What a query computes of each group, and what the groups are: each metric under its name and
nothing under other names, and one source of terms for each field to group by, in order. -/
structure ComputesGroups (s : Search) (q : Value) : Prop where
  metrics : ∃ ms, q.part? groupMetricsPath = some (.obj ms) ∧ (ms.map Prod.fst).Nodup ∧
    (∀ name, name ∈ ms.map Prod.fst ↔ name ∈ s.metrics.map Metric.name) ∧
    ∀ m ∈ s.metrics, ms.lookup m.name = some m.body
  sources : q.part? groupSourcesPath =
    some (.arr (s.groupBy.map fun f => .obj [(f, .obj [("terms", .obj [("field", .str f)])])]))

theorem mem_keys_groupMetrics {name : String} :
    name ∈ (Json.canonicalMembers s.groupMetrics).map Prod.fst ↔
      name ∈ s.metrics.map Metric.name := by
  rw [Json.mem_keys_canonicalMembers, groupMetrics, List.map_map]
  rfl

theorem lookup_groupMetrics {m : Metric} (h : m ∈ s.metrics) :
    (Json.canonicalMembers s.groupMetrics).lookup m.name = some m.body := by
  rw [Json.lookup_canonicalMembers, groupMetrics, ← List.map_reverse,
    SortedMap.lookup_map_of_injective Metric.name_injective (List.mem_reverse.2 h)]
  rfl

theorem canonicalItems_groupSources : Json.canonicalItems s.groupSources = s.groupSources := by
  unfold groupSources
  induction s.groupBy with
  | nil => rfl
  | cons f fs ih => exact congrArg (_ :: ·) ih

/-- All queries over groups compute the metrics, whatever their window is. -/
theorem computesGroups_aggregationQuery (w : Window) :
    s.ComputesGroups (.ofJson (s.aggregationQuery s.groups w)) where
  metrics := by
    have hpart : (Value.ofJson (s.aggregationQuery s.groups w)).part? groupMetricsPath =
        some (.obj (Json.canonicalMembers s.groupMetrics)) := rfl
    exact ⟨_, hpart, (Json.sorted_canonicalMembers _).imp String.ne_of_lt,
      fun _ => s.mem_keys_groupMetrics, fun _ => s.lookup_groupMetrics⟩
  sources := by
    have hpart : (Value.ofJson (s.aggregationQuery s.groups w)).part? groupSourcesPath =
        some (.arr (Json.canonicalItems s.groupSources)) := rfl
    rw [hpart, canonicalItems_groupSources]
    rfl

theorem exists_groupPreview_iff (now : Instant) (config : Config)
    (h : s.previewUnits config < 2 ^ 63) :
    (∃ q, s.groupPreview now config = .ok q) ↔ s.PreviewFits now config := by
  constructor
  · rintro ⟨q, hq⟩
    by_contra hfits
    rw [(previews_of_not_fits "UTC" h hfits).2] at hq
    cases hq
  · intro hfits
    obtain ⟨_, q, _, -, hq, -⟩ := previews_of_fits "UTC" h hfits
    exact ⟨q, hq⟩

/-- **No metric of a query over groups takes the place of another.**  Names tell metrics apart, and
the stored query of a search computes all metrics of each group.  So does every preview, also one
whose number of units wraps around; for a number below `2 ^ 63` there is a preview exactly if its
window fits. -/
theorem groups_keep_metrics (s : Search) :
    (∀ m n : Metric, m.name = n.name → m.aggregation = n.aggregation ∧ m.field = n.field) ∧
    s.ComputesGroups s.groupQuery ∧
    ∀ now config,
      (s.previewUnits config < 2 ^ 63 →
        ((∃ q, s.groupPreview now config = .ok q) ↔ s.PreviewFits now config)) ∧
      ∀ q, s.groupPreview now config = .ok q → s.ComputesGroups q := by
  refine ⟨fun m n h => ?_, s.computesGroups_aggregationQuery _, fun now config =>
    ⟨s.exists_groupPreview_iff now config, fun q hq => ?_⟩⟩
  · rw [Metric.name_injective h]
    exact ⟨rfl, rfl⟩
  · obtain ⟨start, -, rfl⟩ := groupPreview_eq_ok_iff.1 hq
    exact s.computesGroups_aggregationQuery _

/-- One of two metrics is listed twice, and the name of the other has three underscores. -/
theorem groups_keep_metrics_repeated :
    let s := { initial with
      metrics := [⟨.avg, "latency"⟩, ⟨.count, "trace_id"⟩, ⟨.avg, "latency"⟩]
      groupBy := ["host", "zone"] }
    let now : Instant := ⟨0⟩
    s.previewUnits .initial < 2 ^ 63 ∧ s.PreviewFits now .initial ∧
      ∃ q, s.groupPreview now .initial = .ok q ∧ s.ComputesGroups q ∧
        ∃ ms, q.part? groupMetricsPath = some (.obj ms) ∧
          ms.lookup "value_count_trace_id" =
            some (.obj [("value_count", .obj [("field", .str "trace_id")])]) := by
  intro s now
  have hunits : s.previewUnits .initial < 2 ^ 63 := by decide
  have hfits : s.PreviewFits now .initial := by decide
  obtain ⟨-, -, hpreview⟩ := groups_keep_metrics s
  obtain ⟨q, hq⟩ := ((hpreview now .initial).1 hunits).2 hfits
  have hcomputes := (hpreview now .initial).2 q hq
  obtain ⟨ms, hms, -, -, hlookup⟩ := hcomputes.metrics
  exact ⟨hunits, hfits, q, hq, hcomputes, ms, hms, hlookup ⟨.count, "trace_id"⟩ (by decide)⟩

end Search

end Alerting
