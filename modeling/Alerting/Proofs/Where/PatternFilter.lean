import Alerting.Proofs.Where.Pattern

/-!
# Clauses read back from bucket filters

The filter of a clause has one field with one pattern.  A filter of a document may have more, of
which the first pattern of the first field is read.

* `Where.PatternFilter.clause?_eq_some_iff` : the clause that a filter is read as.
* `Where.Clause.clause?_eq_self_iff` : the clauses that their own filters are read as.
* `Where.PatternFilter.patternFilter?_clause?` : what a filter says after it was read.
* `Where.Clause.clause?_patternFilter?` : clauses on plain texts are among those that are read back.
-/

namespace Alerting

namespace Where

variable {c : Clause} {f : PatternFilter} {label : String}

/-! ### Reading filters -/

namespace Clause

/-- The clause that compares a keyword field with a text. -/
def onKeyword (label : String) (op : Operator) (text : String) : Clause :=
  { fields := [{ label := label, type := some .keyword }]
    operator := op
    value := .str text
    rangeStart := none
    rangeEnd := none }

/-- The clause on a keyword field that an operator and a value make. -/
def ofReading (label : String) (reading : Operator × Value) : Clause :=
  { fields := [{ label := label, type := some .keyword }]
    operator := reading.1
    value := reading.2
    rangeStart := none
    rangeEnd := none }

/-- What a pattern of the field `label` is read as: a clause on this field as a keyword field, which
has this pattern and gets its value back from it. -/
structure IsReadOf (c : Clause) (label : String) (mode : Mode) (pattern : Value) : Prop where
  fields : c.fields = [{ label := label, type := some .keyword }]
  rangeStart : c.rangeStart = none
  rangeEnd : c.rangeEnd = none
  pattern : c.pattern? = some (mode, pattern)
  value : c.operator.Recovers c.value

theorem ofReading_eq_iff {mode : Mode} {pattern : Value} :
    ofReading label (readValue mode pattern) = c ↔ c.IsReadOf label mode pattern := by
  constructor
  · intro h
    have hread : readValue mode pattern = (c.operator, c.value) := by rw [← h]; rfl
    obtain ⟨hpattern, hvalue⟩ := readValue_eq_iff.1 hread
    exact ⟨by rw [← h]; rfl, by rw [← h]; rfl, by rw [← h]; rfl, hpattern, hvalue⟩
  · intro h
    rw [readValue_eq_iff.2 ⟨h.pattern, h.value⟩]
    obtain ⟨fields, op, v, start, stop⟩ := c
    obtain ⟨rfl, rfl, rfl, -, -⟩ := h
    rfl

theorem patternFilter?_eq_some_iff :
    c.patternFilter? = .ok (some f) ↔ ∃ field mode pattern, c.field? = some field ∧
      c.pattern? = some (mode, pattern) ∧
        f = .singleton field.label (.singleton mode.keyword pattern) := by
  unfold patternFilter?
  cases c.field? with
  | none => simp
  | some field =>
    cases c.pattern? with
    | none => simp [refuse]
    | some r =>
      obtain ⟨mode, pattern⟩ := r
      simp [eq_comm]

/-- What a pattern is read as has the filter with this pattern. -/
theorem IsReadOf.patternFilter? {mode : Mode} {pattern : Value}
    (h : c.IsReadOf label mode pattern) :
    c.patternFilter? = .ok (some (.singleton label (.singleton mode.keyword pattern))) := by
  have hfield : c.field? = some { label := label, type := some .keyword } := by
    rw [field?, h.fields]
    rfl
  exact patternFilter?_eq_some_iff.2 ⟨_, mode, pattern, hfield, h.pattern, rfl⟩

end Clause

namespace PatternFilter

variable {keyword : String} {modes : SortedMap Value} {pattern : Value}
  {fields : List (String × SortedMap Value)} {others : List (String × Value)}

theorem clause?_of_entries (hf : f.entries = (label, modes) :: fields)
    (hm : modes.entries = (keyword, pattern) :: others) :
    f.clause? =
      (Mode.ofKeyword? keyword).map fun mode => .ofReading label (readValue mode pattern) := by
  unfold clause? readValue
  rw [hf]
  simp only [List.head?_cons, Option.bind_eq_bind, Option.bind_some, hm]
  cases Mode.ofKeyword? keyword with
  | none => rfl
  | some mode => cases pattern.str? <;> rfl

/-- The first pattern of the first field is what counts of a filter. -/
theorem clause?_eq_some_iff (hf : f.entries = (label, modes) :: fields)
    (hm : modes.entries = (keyword, pattern) :: others) :
    f.clause? = some c ↔ ∃ mode : Mode, keyword = mode.keyword ∧ c.IsReadOf label mode pattern := by
  simp only [clause?_of_entries hf hm, Option.map_eq_some_iff, Mode.ofKeyword?_eq_some_iff,
    Clause.ofReading_eq_iff]

end PatternFilter

/-! ### There and back -/

namespace Clause

/-- A clause that its own filter is read as. -/
structure IsReversible (c : Clause) : Prop where
  field : ∃ label, c.fields = [{ label := label, type := some .keyword }]
  rangeStart : c.rangeStart = none
  rangeEnd : c.rangeEnd = none
  value : c.operator.Recovers c.value

/-- **The clauses that are read back from their filters.** -/
theorem clause?_eq_self_iff (h : c.patternFilter? = .ok (some f)) :
    f.clause? = some c ↔ c.IsReversible := by
  obtain ⟨field, mode, pattern, hfield, hpattern, rfl⟩ := patternFilter?_eq_some_iff.1 h
  rw [PatternFilter.clause?_eq_some_iff rfl rfl]
  constructor
  · rintro ⟨_, -, hread⟩
    exact ⟨⟨_, hread.fields⟩, hread.rangeStart, hread.rangeEnd, hread.value⟩
  · rintro ⟨⟨label, hfields⟩, hstart, hend, hvalue⟩
    have hlabel : field.label = label := by
      rw [field?, hfields] at hfield
      exact congrArg FieldRef.label (Option.some.inj hfield).symm
    exact ⟨mode, rfl, hlabel ▸ hfields, hstart, hend, hpattern, hvalue⟩

/-- The pattern `.*` is read as that of all texts, but as the text `.*` where it is dropped. -/
theorem clause?_eq_self_iff_anyText :
    let dropped := onKeyword "host" .isNot ".*"
    let kept := onKeyword "host" .is ".*"
    let filter (mode : Mode) : PatternFilter :=
      .singleton "host" (.singleton mode.keyword (.str ".*"))
    dropped.patternFilter? = .ok (some (filter .drop)) ∧ (filter .drop).clause? = some dropped ∧
      kept.patternFilter? = .ok (some (filter .keep)) ∧ (filter .keep).clause? ≠ some kept := by
  intro dropped kept filter
  have hdropped : dropped.patternFilter? = .ok (some (filter .drop)) := rfl
  have hkept : kept.patternFilter? = .ok (some (filter .keep)) := rfl
  refine ⟨hdropped, (clause?_eq_self_iff hdropped).2 ?_, hkept, fun h => ?_⟩
  · -- Between two patterns for any text stand at least four characters.
    refine ⟨⟨_, rfl⟩, rfl, rfl, fun inner hinner => ?_⟩
    have hlength := congrArg String.length hinner
    rw [String.length_append, String.length_append] at hlength
    have htwo : anyText.length = 2 := rfl
    have htext : ".*".length = 2 := rfl
    omega
  · exact ((clause?_eq_self_iff hkept).1 h).value.1 List.prefix_rfl

end Clause

namespace PatternFilter

/-- No clause is read of a filter without a field, of one whose first field has no pattern, and of
one whose first pattern has another mode. -/
theorem clause?_eq_none_iff {f : PatternFilter} :
    f.clause? = none ↔
      f.entries = [] ∨ ∃ label modes fields, f.entries = (label, modes) :: fields ∧
        (modes.entries = [] ∨ ∃ keyword pattern others,
          modes.entries = (keyword, pattern) :: others ∧
            keyword ≠ "include" ∧ keyword ≠ "exclude") := by
  cases hf : f.entries with
  | nil => simp [clause?, hf]
  | cons field fields =>
    obtain ⟨label, modes⟩ := field
    cases hm : modes.entries with
    | nil => simp [clause?, hf, hm]
    | cons mode others =>
      obtain ⟨keyword, pattern⟩ := mode
      simp [clause?_of_entries hf hm, Mode.ofKeyword?_eq_none_iff, hm]

theorem singleton_eq_iff (hf : f.entries = (label, modes) :: fields)
    (hm : modes.entries = (keyword, pattern) :: others) :
    SortedMap.singleton label (SortedMap.singleton keyword pattern) = f ↔
      fields = [] ∧ others = [] := by
  obtain ⟨_, _⟩ := f
  obtain ⟨_, _⟩ := modes
  subst hf hm
  simp [SortedMap.singleton, eq_comm, and_comm]

/-- **What is left of a filter that was read.**  The filter of the clause holds the first pattern
of the first field as it was, and nothing else, so nothing is lost of a filter with one pattern. -/
theorem patternFilter?_clause? (f : PatternFilter) :
    (f.clause? = none ↔
      f.entries = [] ∨ ∃ label modes fields, f.entries = (label, modes) :: fields ∧
        (modes.entries = [] ∨ ∃ keyword pattern others,
          modes.entries = (keyword, pattern) :: others ∧
            keyword ≠ "include" ∧ keyword ≠ "exclude")) ∧
    ∀ c, f.clause? = some c →
      ∃ label modes fields keyword pattern others, f.entries = (label, modes) :: fields ∧
        modes.entries = (keyword, pattern) :: others ∧
          c.patternFilter? = .ok (some (.singleton label (.singleton keyword pattern))) ∧
            (SortedMap.singleton label (SortedMap.singleton keyword pattern) = f ↔
              fields = [] ∧ others = []) := by
  refine ⟨clause?_eq_none_iff, fun c hc => ?_⟩
  cases hf : f.entries with
  | nil => simp [clause?, hf] at hc
  | cons field fields =>
    obtain ⟨label, modes⟩ := field
    cases hm : modes.entries with
    | nil => simp [clause?, hf, hm] at hc
    | cons mode others =>
      obtain ⟨keyword, pattern⟩ := mode
      obtain ⟨mode, rfl, hread⟩ := (clause?_eq_some_iff hf hm).1 hc
      exact ⟨label, modes, fields, _, pattern, others, rfl, hm, hread.patternFilter?,
        singleton_eq_iff hf hm⟩

/-- Of a filter with three patterns one is left, which stands for a text that is dropped. -/
theorem patternFilter?_clause?_three :
    let modes : SortedMap Value :=
      ⟨[("exclude", .str ".*"), ("include", .str ".*a.*")], by decide +kernel⟩
    let f : PatternFilter :=
      ⟨[("host", modes), ("zone", .singleton "include" (.str "eu.*"))], by decide +kernel⟩
    let c := Clause.onKeyword "host" .isNot ".*"
    f.clause? = some c ∧
      c.patternFilter? = .ok (some (.singleton "host" (.singleton "exclude" (.str ".*")))) ∧
        SortedMap.singleton "host" (SortedMap.singleton "exclude" (.str ".*")) ≠ f := by
  intro modes f c
  have hc : f.clause? = some c := by decide +kernel
  obtain ⟨label, _, fields, keyword, pattern, others, hf, hm, hfilter, hone⟩ :=
    (patternFilter?_clause? f).2 c hc
  cases hf
  cases hm
  exact ⟨hc, hfilter, fun h => nomatch (hone.1 h).1⟩

end PatternFilter

/-! ### Plain texts -/

/-- A text that is told apart from the patterns around it: it is not empty, and neither starts nor
ends with the pattern for any text. -/
structure IsPlainText (s : String) : Prop where
  nonempty : s ≠ ""
  start : ¬anyText.toList <+: s.toList
  stop : ¬anyText.toList <:+ s.toList

/-- The operators that have patterns. -/
def patternOperators : List Operator :=
  [.is, .isNot, .contains, .doesNotContain, .startsWith, .endsWith]

/-- Every operator gets a plain text back. -/
theorem IsPlainText.recoversText {s : String} {op : Operator} (h : IsPlainText s)
    (hop : op ∈ patternOperators) : op.RecoversText s := by
  simp only [patternOperators, List.mem_cons, List.not_mem_nil, or_false] at hop
  rcases hop with rfl | rfl | rfl | rfl | rfl | rfl
  · exact ⟨h.start, h.stop⟩
  · exact fun inner hs => h.stop (endsWith_anyText_iff.2 ⟨_, hs⟩)
  · trivial
  · trivial
  · exact h.start
  · exact ⟨h.nonempty, h.stop⟩

namespace Clause

theorem isSome_pattern?_iff : c.pattern?.isSome = true ↔ c.operator ∈ patternOperators := by
  unfold pattern?
  cases c.operator <;> simp [patternOperators]

/-- A clause that its bucket filter is read as: none, or one on a keyword field whose text is told
apart from the patterns around it. -/
inductive IsRecoverable : Clause → Prop
  | initial : IsRecoverable .initial
  | onKeyword (label : String) {op : Operator} {text : String} :
    op ∈ patternOperators → IsPlainText text → IsRecoverable (.onKeyword label op text)

/-- **The clause of a bucket filter is read back.** -/
theorem clause?_patternFilter? {filter : Option PatternFilter} (h : c.IsRecoverable)
    (hfilter : c.patternFilter? = .ok filter) :
    (filter.bind PatternFilter.clause?).getD .initial = c := by
  cases h with
  | initial =>
    cases hfilter
    rfl
  | @onKeyword label op text hop htext =>
    have hr := htext.recoversText hop
    have hsome : (onKeyword label op text).pattern?.isSome = true := isSome_pattern?_iff.2 hop
    obtain ⟨⟨mode, pattern⟩, hpattern⟩ := Option.isSome_iff_exists.1 hsome
    have hfilter' := patternFilter?_eq_some_iff.2 ⟨_, _, _, rfl, hpattern, rfl⟩
    rw [hfilter'] at hfilter
    obtain rfl := Except.ok.inj hfilter
    have hclause : PatternFilter.clause? (.singleton label (.singleton mode.keyword pattern)) =
        some (onKeyword label op text) :=
      (PatternFilter.clause?_eq_some_iff rfl rfl).2 ⟨mode, rfl, rfl, rfl, rfl, hpattern, hr⟩
    rw [Option.bind_some, hclause, Option.getD_some]

end Clause

end Where

end Alerting
