import Alerting.Proofs.Search.Query
import Mathlib.Tactic.Positivity

/-!
# The window of a preview

A preview goes back by a number of units from an instant.  The number is a product of words, which
is exact below `2 ^ 63`, a duration has a longest value, and the calendar a first instant.  Within
these limits the start of the window is exact, and a query with a histogram says it twice.

* `Instant.inCalendar_of_parse?` : the instants that are read.
* `Search.toInt_previewUnits64` : a product of words that does not wrap around.
* `Search.previewStart_eq` : when there is a window, and where it starts.
* `Search.covers_aggregationQuery`, `Search.extends_histogram` : what queries say of it.
* `Search.preview_window_exact` : the windows of both previews.
-/

namespace Alerting

theorem Json.fits64_of_bounds {n : Int} (hlow : -2 ^ 63 ≤ n) (hhigh : n < 2 ^ 63) :
    Json.fits64 n = true := by
  cases n with
  | ofNat k =>
    have hk : k < 2 ^ 64 := by
      rw [Int.ofNat_eq_natCast] at hhigh
      omega
    exact decide_eq_true hk
  | negSucc k =>
    have hk : k < 2 ^ 63 := by omega
    exact decide_eq_true hk

/-! ### Instants of the calendar -/

namespace Instant

/-- An instant of the calendar, or of a leap second at the end of it. -/
structure InCalendar (t : Instant) : Prop where
  first_le : first.nanos ≤ t.nanos
  lt_last : t.nanos < afterLast.nanos + second

/-- An instant that is read is one of the calendar. -/
theorem inCalendar_of_parse? {s : String} {t : Instant} (h : parse? s = some t) :
    t.InCalendar := by
  have hsecond : 0 < second := by decide
  simp only [parse?, Option.bind_eq_bind, Option.bind_eq_some_iff] at h
  obtain ⟨_, -, _, -, _, -, _, -, h⟩ := h
  split at h
  · rename_i hlimits
    obtain ⟨-, hfirst, hlast⟩ := hlimits
    simp only [Option.pure_def, Option.some.injEq] at h
    subst h
    split
    · -- A leap second counts as the second after the one whose limits are checked.
      refine ⟨hfirst.trans (Int.le_add_of_nonneg_right hsecond.le), ?_⟩
      exact Int.add_lt_add_right hlast second
    · exact ⟨hfirst, lt_add_of_lt_of_pos hlast hsecond⟩
  · cases h

example : parse? "-262143-01-01T00:00:00Z" = some first := by decide +kernel

/-- The instant a number of milliseconds earlier, in the calendar or not. -/
def minusMillis (t : Instant) (n : Int) : Instant := ⟨t.nanos - n * millisecond⟩

theorem millis_minusMillis (t : Instant) (n : Int) : (t.minusMillis n).millis = t.millis - n := by
  show (t.nanos - n * 1000000) / 1000000 = t.nanos / 1000000 - n
  omega

/-- Going back, only the start of the calendar is a limit. -/
theorem minusSeconds?_of_nonneg (t : Instant) {n : Int} (h : 0 ≤ n) :
    t.minusSeconds? n =
      if first.nanos ≤ (t.minusMillis (1000 * n)).nanos then some (t.minusMillis (1000 * n))
      else none := by
  have hnanos : 1000 * n * millisecond = n * second := by
    rw [mul_comm 1000, mul_assoc]
    rfl
  simp only [minusSeconds?, minusMillis, hnanos, h, true_or, and_true]

theorem millis_mono {t u : Instant} (h : t.nanos ≤ u.nanos) : t.millis ≤ u.millis :=
  Int.ediv_le_ediv (by decide) h

/-- The milliseconds of the calendar are numbers of documents. -/
theorem fits64_millis {t : Instant} (h : t.InCalendar) : Json.fits64 t.millis = true := by
  have hlow : -2 ^ 63 ≤ first.millis := by decide
  have hhigh : millis ⟨afterLast.nanos + second⟩ < 2 ^ 63 := by decide
  have hlast : t.nanos ≤ (⟨afterLast.nanos + second⟩ : Instant).nanos := h.lt_last.le
  exact Json.fits64_of_bounds (hlow.trans (millis_mono h.first_le))
    ((millis_mono hlast).trans_lt hhigh)

end Instant

/-! ### The length of a window -/

/-- The number of milliseconds. -/
def BucketUnit.millis (u : BucketUnit) : Int := 1000 * u.seconds

theorem BucketUnit.seconds_nonneg (u : BucketUnit) : 0 ≤ u.seconds := by cases u <;> decide

theorem BucketUnit.duration?_of_nonneg (u : BucketUnit) {n : Int} (h : 0 ≤ n) :
    u.duration? n = if n * u.seconds ≤ longest then some (n * u.seconds) else none := by
  have hnonneg : 0 ≤ n * u.seconds := mul_nonneg h u.seconds_nonneg
  have hlongest : -longest ≤ 0 := by decide
  simp only [duration?, hlongest.trans hnonneg, true_and]

namespace Search

variable (s : Search) (now : Instant) (config : Config)

/-- How many units the preview is to go back, whether or not words of 64 bits have room for it. -/
def previewUnits : Int := s.bucketSize.toNat * config.previewBucketCount.toNat

/-- How many milliseconds the preview goes back. -/
def previewSpan : Int := s.previewUnits config * s.bucketUnit.millis

/-- The preview is not too long, and starts in the calendar. -/
structure PreviewFits : Prop where
  duration : s.previewSpan config / 1000 ≤ (2 ^ 63 - 1) / 1000
  calendar : Instant.first.nanos ≤ (now.minusMillis (s.previewSpan config)).nanos

instance : Decidable (s.PreviewFits now config) :=
  decidable_of_iff
    (s.previewSpan config / 1000 ≤ (2 ^ 63 - 1) / 1000 ∧
      Instant.first.nanos ≤ (now.minusMillis (s.previewSpan config)).nanos)
    ⟨fun h => ⟨h.1, h.2⟩, fun h => ⟨h.duration, h.calendar⟩⟩

variable {s now config}

theorem previewUnits_nonneg : 0 ≤ s.previewUnits config := by
  unfold previewUnits
  positivity

/-- The product of words does not wrap around. -/
theorem toInt_previewUnits64 (h : s.previewUnits config < 2 ^ 63) :
    (s.previewUnits64 config).toInt = s.previewUnits config := by
  have hsize := s.bucketSize.toNat_lt
  have hcount := config.previewBucketCount.toNat_lt
  have hnonneg : 0 ≤ s.previewUnits config := previewUnits_nonneg
  unfold previewUnits at h hnonneg ⊢
  unfold previewUnits64
  rw [Int64.toInt_mul, Int64.toInt_ofNat_of_lt (by omega), Int64.toInt_ofNat_of_lt (by omega)]
  exact Int.bmod_eq_of_le (by omega) (by omega)

theorem previewSeconds_nonneg : 0 ≤ s.previewUnits config * s.bucketUnit.seconds :=
  mul_nonneg previewUnits_nonneg s.bucketUnit.seconds_nonneg

theorem previewSpan_eq :
    s.previewSpan config = 1000 * (s.previewUnits config * s.bucketUnit.seconds) :=
  mul_left_comm ..

theorem previewSpan_nonneg : 0 ≤ s.previewSpan config := by
  rw [previewSpan_eq]
  exact mul_nonneg (by decide) previewSeconds_nonneg

/-- A preview that fits starts in the calendar if it ends there. -/
theorem PreviewFits.inCalendar (h : s.PreviewFits now config) (hnow : now.InCalendar) :
    (now.minusMillis (s.previewSpan config)).InCalendar where
  first_le := h.calendar
  lt_last := by
    have hback : 0 ≤ s.previewSpan config * Instant.millisecond :=
      mul_nonneg previewSpan_nonneg (by decide)
    exact (Int.sub_le_self _ hback).trans_lt hnow.lt_last

/-- Where a preview starts whose product of words does not wrap around. -/
theorem previewStart_eq (h : s.previewUnits config < 2 ^ 63) :
    s.previewStart now config =
      if s.PreviewFits now config then .ok (now.minusMillis (s.previewSpan config))
      else refuse .windowOutOfRange := by
  have hlongest : BucketUnit.longest = (2 ^ 63 - 1) / 1000 := by decide
  have hcut : s.previewSpan config / 1000 = s.previewUnits config * s.bucketUnit.seconds := by
    rw [previewSpan_eq]
    exact Int.mul_ediv_cancel_left _ (by decide)
  -- A duration counts whole seconds, and the span is a number of them.
  unfold previewStart
  rw [toInt_previewUnits64 h, BucketUnit.duration?_of_nonneg _ previewUnits_nonneg, hlongest,
    ← hcut]
  by_cases hduration : s.previewSpan config / 1000 ≤ (2 ^ 63 - 1) / 1000
  · rw [if_pos hduration, Option.bind_some, hcut,
      Instant.minusSeconds?_of_nonneg _ previewSeconds_nonneg, ← previewSpan_eq]
    by_cases hcalendar : Instant.first.nanos ≤ (now.minusMillis (s.previewSpan config)).nanos
    · rw [if_pos hcalendar, if_pos ⟨hduration, hcalendar⟩]
    · rw [if_neg hcalendar, if_neg fun h => hcalendar h.calendar]
  · rw [if_neg hduration, if_neg fun h => hduration h.duration, Option.bind_none]

example : ¬{ initial with bucketSize := 20000000, bucketUnit := .days }.PreviewFits ⟨0⟩
    .initial := by
  decide

-- From `2 ^ 63` on the product may be negative, and then the window starts after it ends.
example :
    { initial with bucketSize := 4294967295, bucketUnit := .minutes }.previewStart ⟨0⟩
      { Config.initial with previewBucketCount := 4294967295 } =
        .ok ⟨515396075460 * Instant.second⟩ := by
  decide

/-! ### Windows in queries -/

/-- The time field of a query is bounded by two instants, in milliseconds. -/
structure Covers (s : Search) (query : Value) (start stop : Int) : Prop where
  gte : query.part? (s.boundsPath ++ [.member "gte"]) = some (.int start)
  lte : query.part? (s.boundsPath ++ [.member "lte"]) = some (.int stop)

/-- The histogram of a query extends from an instant to another, in milliseconds. -/
structure Extends (query : Value) (start stop : Int) : Prop where
  min : query.part? (extendedBoundsPath ++ [.member "min"]) = some (.int start)
  max : query.part? (extendedBoundsPath ++ [.member "max"]) = some (.int stop)

theorem covers_aggregationQuery (s : Search) (aggregations : Json) (start stop : Instant) :
    s.Covers (.ofJson (s.aggregationQuery aggregations (.absolute start stop)))
      start.millis stop.millis where
  gte := by
    rw [Value.part?, Value.json_ofJson, Json.part?_append, part?_bounds, Window.canonical_bounds]
    rfl
  lte := by
    rw [Value.part?, Value.json_ofJson, Json.part?_append, part?_bounds, Window.canonical_bounds]
    rfl

theorem extends_histogram (s : Search) (timeZone : String) (start now : Instant) (w : Window) :
    Extends (.ofJson (s.aggregationQuery (s.histogram timeZone start now) w))
      start.millis now.millis where
  min := by
    rw [Value.part?, Value.json_ofJson, Json.part?_append, part?_extendedBounds]
    rfl
  max := by
    rw [Value.part?, Value.json_ofJson, Json.part?_append, part?_extendedBounds]
    rfl

/-- Previews that fit are made, and cover the span up to now. -/
theorem previews_of_fits (timeZone : String) (hunits : s.previewUnits config < 2 ^ 63)
    (h : s.PreviewFits now config) :
    ∃ graph groups histogram, s.graphPreview timeZone now config = .ok graph ∧
      s.groupPreview now config = .ok groups ∧
      s.previewHistogram timeZone now config = .ok histogram ∧
      graph.part? aggregationsPath = some histogram.json ∧
      s.Covers graph (now.millis - s.previewSpan config) now.millis ∧
      s.Covers groups (now.millis - s.previewSpan config) now.millis ∧
      Extends graph (now.millis - s.previewSpan config) now.millis := by
  have hstart : s.previewStart now config = .ok (now.minusMillis (s.previewSpan config)) := by
    rw [previewStart_eq hunits, if_pos h]
  let start := now.minusMillis (s.previewSpan config)
  have hhistogram : s.previewHistogram timeZone now config =
      .ok (.ofJson (s.histogram timeZone start now)) := by
    unfold previewHistogram
    rw [hstart]
    rfl
  rw [← now.millis_minusMillis]
  exact ⟨_, _, _, graphPreview_eq_ok_iff.2 ⟨start, hstart, rfl⟩,
    groupPreview_eq_ok_iff.2 ⟨start, hstart, rfl⟩, hhistogram, rfl,
    s.covers_aggregationQuery (s.histogram timeZone start now) start now,
    s.covers_aggregationQuery s.groups start now, s.extends_histogram timeZone start now _⟩

/-- Previews that do not fit are refused alike. -/
theorem previews_of_not_fits (timeZone : String) (hunits : s.previewUnits config < 2 ^ 63)
    (h : ¬s.PreviewFits now config) :
    s.graphPreview timeZone now config = refuse .windowOutOfRange ∧
      s.groupPreview now config = refuse .windowOutOfRange := by
  have hstart : s.previewStart now config = refuse .windowOutOfRange := by
    rw [previewStart_eq hunits, if_neg h]
  constructor
  · unfold graphPreview
    rw [hstart]
    rfl
  · unfold groupPreview
    rw [hstart]
    rfl

/-- **The window of a preview is exact, and the same wherever it is said.**  For a number of units
below `2 ^ 63` their product of words is exact.  Both previews of a search are made if the span fits
the longest duration and starts in the calendar; then their filters, and the histogram with it,
cover the milliseconds from the span before now up to now, rounded down, which are numbers of a
document.  Otherwise both are refused for the bucket size. -/
theorem preview_window_exact (s : Search) (timeZone : String) (now : Instant) (config : Config)
    (h : s.previewUnits config < 2 ^ 63) :
    (s.previewUnits64 config).toInt = s.previewUnits config ∧
    (s.PreviewFits now config →
      (∃ graph groups histogram, s.graphPreview timeZone now config = .ok graph ∧
        s.groupPreview now config = .ok groups ∧
        s.previewHistogram timeZone now config = .ok histogram ∧
        graph.part? aggregationsPath = some histogram.json ∧
        s.Covers graph (now.millis - s.previewSpan config) now.millis ∧
        s.Covers groups (now.millis - s.previewSpan config) now.millis ∧
        Extends graph (now.millis - s.previewSpan config) now.millis) ∧
      (now.InCalendar → Json.fits64 (now.millis - s.previewSpan config) = true ∧
        Json.fits64 now.millis = true)) ∧
    (¬s.PreviewFits now config → ∃ v : Violation, v.field = "bucketValue" ∧
      s.graphPreview timeZone now config = refuse v ∧ s.groupPreview now config = refuse v) := by
  refine ⟨toInt_previewUnits64 h, fun hfits => ?_, fun hfits => ?_⟩
  · have hpreviews := previews_of_fits timeZone h hfits
    refine ⟨hpreviews, fun hnow => ?_⟩
    have hstart := Instant.fits64_millis (hfits.inCalendar hnow)
    rw [Instant.millis_minusMillis] at hstart
    exact ⟨hstart, Instant.fits64_millis hnow⟩
  · have hrefused := previews_of_not_fits timeZone h hfits
    exact ⟨.windowOutOfRange, rfl, hrefused⟩

/-- Five buckets of a quarter of an hour, up to half a millisecond before 1970. -/
theorem preview_window_exact_before1970 :
    let s := { initial with timeField := "@timestamp", bucketSize := 15, bucketUnit := .minutes }
    let now : Instant := ⟨-500000⟩
    (s.previewUnits64 .initial).toInt = 75 ∧
      (∃ graph groups histogram, s.graphPreview "UTC" now .initial = .ok graph ∧
        s.groupPreview now .initial = .ok groups ∧
        s.previewHistogram "UTC" now .initial = .ok histogram ∧
        graph.part? aggregationsPath = some histogram.json ∧
        s.Covers graph (-4500001) (-1) ∧ s.Covers groups (-4500001) (-1) ∧
        Extends graph (-4500001) (-1)) ∧
      Json.fits64 (-4500001) = true ∧ Json.fits64 (-1) = true := by
  intro s now
  have hfits : s.PreviewFits now .initial := by decide
  have hnow : now.InCalendar := ⟨by decide, by decide⟩
  have hstart : now.millis - s.previewSpan .initial = -4500001 := by decide
  have hstop : now.millis = -1 := by decide
  have h := preview_window_exact s "UTC" now .initial (by decide)
  rw [hstart, hstop] at h
  obtain ⟨hunits, hmade, -⟩ := h
  obtain ⟨hpreviews, hnumbers⟩ := hmade hfits
  exact ⟨hunits, hpreviews, hnumbers hnow⟩

end Search

end Alerting
