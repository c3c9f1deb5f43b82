import Alerting.Proofs.Monitor.References
import Alerting.Proofs.Search.Query

/-!
# What a preview shows

Stored queries and previews are built apart.  A preview is the stored query after an edit of the
bounds of its window, and without groups after a second one that puts the metric into the buckets of
a histogram.

* `Search.showsFrom_aggregationQuery` : the first edit, of any query of a search.
* `MonitorForm.preview_shows_stored` : the preview of every search beside its stored query.
-/

namespace Alerting

/-! ### Previews -/

/-- The query `shown` is the stored query of a search but for the bounds of its first filter: they
are those of the time from `start` to `now`. -/
structure Search.ShowsFrom (s : Search) (start now : Instant) (stored shown : Value) : Prop where
  bounds : stored.part? s.boundsPath = some s.storedWindow.bounds.canonical
  edit : stored.setAt? s.boundsPath (.ofJson (Window.absolute start now).bounds) = some shown

theorem Search.showsFrom_aggregationQuery (s : Search) (aggregations : Json)
    (start now : Instant) :
    s.ShowsFrom start now (.ofJson (s.aggregationQuery aggregations s.storedWindow))
      (.ofJson (s.aggregationQuery aggregations (.absolute start now))) where
  bounds := part?_bounds s aggregations s.storedWindow
  edit := Value.setAt?_ofJson (editAt?_bounds s aggregations _ _)

namespace MonitorForm

variable {m : MonitorForm} {config : Config} {now : Instant} {v : Value}

theorem preview_of_ne_graph (h : m.search.kind ≠ .graph) (now : Instant) :
    m.preview now config = (m.searchInput config).map SearchInput.query := by
  unfold preview searchInput
  cases hs : m.search.kind with
  | graph => exact absurd hs h
  | anomaly => rfl
  | query => cases readQuery m.query <;> rfl

/-- A search with groups is shown as it is stored, over another window. -/
theorem preview_groups (hs : m.search.kind = .graph) (hk : m.kind = .bucketLevel)
    (h : m.preview now config = .ok v) :
    ∃ input start, m.searchInput config = .ok input ∧
      m.search.ShowsFrom start now input.query v := by
  have hv : m.search.groupPreview now config = .ok v := by
    unfold preview at h
    rwa [hs, hk] at h
  obtain ⟨start, -, rfl⟩ := Search.groupPreview_eq_ok_iff.1 hv
  refine ⟨{ indices := m.indices, query := m.search.groupQuery }, start, ?_, ?_⟩
  · unfold searchInput
    rw [hs, hk]
  · exact m.search.showsFrom_aggregationQuery m.search.groups start now

/-- A search without groups is shown over another window, with its metric in each bucket of a
histogram. -/
theorem preview_histogram (hs : m.search.kind = .graph) (hk : m.kind = .queryLevel)
    (h : m.preview now config = .ok v) :
    ∃ input start shown histogram, m.searchInput config = .ok input ∧
      m.search.ShowsFrom start now input.query shown ∧
      shown.setAt? Search.aggregationsPath histogram = some v ∧
      ∃ filters size metric, shown.part? Search.filterPath = some filters ∧
        v.part? Search.filterPath = some filters ∧
        input.query.part? Search.sizePath = some size ∧ v.part? Search.sizePath = some size ∧
        input.query.part? Search.aggregationsPath = some metric ∧
        v.part? Search.bucketsPath = some metric := by
  let timeZone := m.schedule.picker.timezone.getD config.previewTimeZone
  have hv : m.search.graphPreview timeZone now config = .ok v := by
    unfold preview at h
    rwa [hs, hk] at h
  obtain ⟨start, -, rfl⟩ := Search.graphPreview_eq_ok_iff.1 hv
  have hinput : m.searchInput config =
      .ok { indices := m.indices, query := m.search.graphQuery } := by
    unfold searchInput
    rw [hs, hk]
  -- From the stored query to the preview: first the bounds, then the aggregations.
  let window := Window.absolute start now
  let histogram := m.search.histogram timeZone start now
  let shown := m.search.aggregationQuery m.search.namedMetric window
  have hbounds := m.search.editAt?_bounds m.search.namedMetric m.search.storedWindow window
  have haggregations := m.search.editAt?_aggregations m.search.namedMetric histogram window
  have hfilters : (m.search.aggregationQuery histogram window).canonical.part? Search.filterPath =
      shown.canonical.part? Search.filterPath :=
    Json.part?_editAt?_of_ne [] (by decide) haggregations
  have hsize : (m.search.aggregationQuery histogram window).canonical.part? Search.sizePath =
      m.search.graphQuery.part? Search.sizePath :=
    (Json.part?_editAt?_of_ne [] (by decide) haggregations).trans
      (Json.part?_editAt?_of_ne [] (by decide) hbounds)
  have hmetric := (Json.part?_editAt? haggregations).trans
    (m.search.part?_histogram timeZone start now)
  exact ⟨_, start, .ofJson shown, .ofJson histogram, hinput,
    m.search.showsFrom_aggregationQuery m.search.namedMetric start now,
    Value.setAt?_ofJson haggregations, _, _, _, rfl, hfilters, rfl, hsize, rfl, hmetric⟩

/-- **A preview shows what is stored, over another window.**  A query written by hand and one of an
anomaly are shown as they are stored, or refused alike; one with groups differs in the bounds of its
first filter and in nothing else; one without groups moreover has its metric in each bucket of a
histogram, and the same filters but for these bounds, and the same size. -/
theorem preview_shows_stored (m : MonitorForm) (now : Instant) (config : Config) :
    (m.search.kind ≠ .graph →
      m.preview now config = (m.searchInput config).map SearchInput.query) ∧
    (m.search.kind = .graph → m.kind = .bucketLevel → ∀ v, m.preview now config = .ok v →
      ∃ input start, m.searchInput config = .ok input ∧
        m.search.ShowsFrom start now input.query v) ∧
    (m.search.kind = .graph → m.kind = .queryLevel → ∀ v, m.preview now config = .ok v →
      ∃ input start shown histogram, m.searchInput config = .ok input ∧
        m.search.ShowsFrom start now input.query shown ∧
        shown.setAt? Search.aggregationsPath histogram = some v ∧
        ∃ filters size metric, shown.part? Search.filterPath = some filters ∧
          v.part? Search.filterPath = some filters ∧
          input.query.part? Search.sizePath = some size ∧ v.part? Search.sizePath = some size ∧
          input.query.part? Search.aggregationsPath = some metric ∧
          v.part? Search.bucketsPath = some metric) :=
  ⟨fun hs => preview_of_ne_graph hs now, fun hs hk _ h => preview_groups hs hk h,
    fun hs hk _ h => preview_histogram hs hk h⟩

/-- The average latency of the hosts that start with a text. -/
theorem preview_shows_stored_latency :
    let m := { MonitorForm.initial with
      indices := ["logs-*"]
      search := { Search.initial with
        timeField := "@timestamp"
        aggregation := .avg
        metricFields := [⟨"latency", some .number⟩]
        filter := .onKeyword "host" .startsWith "web." } }
    let now : Instant := ⟨1709294400 * Instant.second⟩
    ∃ v input, m.preview now .initial = .ok v ∧ m.searchInput .initial = .ok input ∧
      input.query ≠ v ∧
      v.part? Search.bucketsPath = input.query.part? Search.aggregationsPath := by
  intro m now
  obtain ⟨v, hv⟩ : ∃ v, m.preview now .initial = .ok v :=
    Compile.exists_ok_of_isOk (by decide +kernel)
  obtain ⟨-, -, hgraph⟩ := preview_shows_stored m now .initial
  obtain ⟨input, start, shown, histogram, hinput, hshows, hedit, filters, size, metric, -, -, -, -,
    hstored, hbuckets⟩ := hgraph rfl rfl v hv
  refine ⟨v, input, hv, hinput, ?_, hbuckets.trans hstored.symm⟩
  rintro rfl
  have hdiffer : m.preview now .initial ≠ (m.searchInput .initial).map SearchInput.query := by
    decide +kernel
  exact hdiffer (by rw [hv, hinput]; rfl)

end MonitorForm

end Alerting
