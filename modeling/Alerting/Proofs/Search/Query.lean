import Alerting.Proofs.Compile
import Alerting.Proofs.Json.Edit
import Alerting.Search.Query

/-!
# Parts of queries

The queries of a search have their parts at the same places, whatever its settings are: the bounds
of the time field, the aggregations, and below these the histogram of a preview.

* `Search.part?_bounds`, `Search.part?_histogram`, `Search.part?_extendedBounds` : what stands at
  these places.
* `Search.editAt?_bounds`, `Search.editAt?_aggregations` : what a query becomes with other parts.
* `Search.graphPreview_eq_ok_iff`, `Search.groupPreview_eq_ok_iff` : previews are queries over the
  time from their start on.
-/

namespace Alerting

theorem Json.canonical_int (n : Int) : (Json.int n).canonical = .int n := by
  unfold Json.int
  cases Json.Number.ofInt? n <;> rfl

theorem Window.canonical_bounds (start stop : Instant) :
    (absolute start stop).bounds.canonical =
      .obj [("format", .str "epoch_millis"), ("gte", .int start.millis),
        ("lte", .int stop.millis)] := by
  rw [← Json.canonical_int start.millis, ← Json.canonical_int stop.millis]
  rfl

namespace Search

/-! ### Places in queries -/

/-- Where the filters of a query stand. -/
def filterPath : List Json.Step := [.member "query", .member "bool", .member "filter"]

/-- Where the bounds of the first filter stand. -/
def boundsPath (s : Search) : List Json.Step :=
  filterPath ++ [.item 0, .member "range", .member s.timeField]

/-- Where the number of documents stands that a query returns. -/
def sizePath : List Json.Step := [.member "size"]

/-- Where the aggregations of a query stand. -/
def aggregationsPath : List Json.Step := [.member "aggregations"]

/-- Where the aggregations of each bucket of a histogram stand. -/
def bucketsPath : List Json.Step :=
  aggregationsPath ++ [.member histogramName, .member "aggregations"]

/-- Where the bounds stand to which a histogram is extended. -/
def extendedBoundsPath : List Json.Step :=
  aggregationsPath ++ [.member histogramName, .member "date_histogram", .member "extended_bounds"]

/-! ### Edits of queries -/

theorem canonical_aggregationQuery (s : Search) (aggregations : Json) (w : Window) :
    (s.aggregationQuery aggregations w).canonical =
      .obj [("aggregations", aggregations.canonical),
        ("query", .obj [("bool", .obj [("filter", .arr
          (.obj [("range", .obj [(s.timeField, w.bounds.canonical)])] ::
            Json.canonicalItems (s.filter.filter?.map Where.Filter.toJson).toList))])]),
        ("size", .nat 0)] := rfl

theorem part?_bounds (s : Search) (aggregations : Json) (w : Window) :
    (s.aggregationQuery aggregations w).canonical.part? s.boundsPath = some w.bounds.canonical := by
  rw [canonical_aggregationQuery]
  simp [boundsPath, filterPath, Json.part?, Json.child?, SortedMap.lookup_cons_eq]

/-- Other bounds make the query of another window. -/
theorem editAt?_bounds (s : Search) (aggregations : Json) (w w' : Window) :
    (s.aggregationQuery aggregations w).canonical.editAt?
        (Json.setChild? w'.bounds.canonical) s.boundsPath =
      some (s.aggregationQuery aggregations w').canonical := by
  have hfield : Json.setChild? w'.bounds.canonical (.member s.timeField)
      (.obj [(s.timeField, w.bounds.canonical)]) =
        some (.obj [(s.timeField, w'.bounds.canonical)]) := by
    simp [Json.setChild?, SortedMap.insertEntry, SortedMap.insertWith]
  rw [canonical_aggregationQuery, canonical_aggregationQuery]
  -- Down the path, each part is put back into what it was taken from.
  iterate 5 refine Json.editAt?_cons_eq_some_iff.2 ⟨_, rfl, _, ?_, rfl⟩
  exact hfield

/-- Other aggregations make the query of these aggregations. -/
theorem editAt?_aggregations (s : Search) (aggregations aggregations' : Json) (w : Window) :
    (s.aggregationQuery aggregations w).canonical.editAt?
        (Json.setChild? aggregations'.canonical) aggregationsPath =
      some (s.aggregationQuery aggregations' w).canonical := rfl

/-- The buckets of the histogram hold the metric. -/
theorem part?_histogram (s : Search) (timeZone : String) (start now : Instant) :
    (s.histogram timeZone start now).canonical.part?
        [.member histogramName, .member "aggregations"] = some s.namedMetric.canonical := rfl

theorem part?_extendedBounds (s : Search) (timeZone : String) (start now : Instant) (w : Window) :
    (s.aggregationQuery (s.histogram timeZone start now) w).canonical.part? extendedBoundsPath =
      some (.obj [("max", .int now.millis), ("min", .int start.millis)]) := by
  rw [← Json.canonical_int now.millis, ← Json.canonical_int start.millis]
  rfl

/-! ### Previews -/

section Previews

variable {s : Search} {timeZone : String} {now : Instant} {config : Config} {v : Value}

theorem groupPreview_eq_ok_iff :
    s.groupPreview now config = .ok v ↔ ∃ start, s.previewStart now config = .ok start ∧
      .ofJson (s.aggregationQuery s.groups (.absolute start now)) = v := by
  simp only [groupPreview, Compile.bind_eq_ok, Compile.pure_eq_ok]

theorem graphPreview_eq_ok_iff :
    s.graphPreview timeZone now config = .ok v ↔ ∃ start, s.previewStart now config = .ok start ∧
      .ofJson (s.aggregationQuery (s.histogram timeZone start now) (.absolute start now)) = v := by
  simp only [graphPreview, Compile.bind_eq_ok, Compile.pure_eq_ok]

end Previews

end Search

end Alerting
