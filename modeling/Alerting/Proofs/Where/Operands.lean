import Alerting.Proofs.Binary64.Text
import Alerting.Proofs.Validation
import Alerting.Where.Filter

/-!
# Filters of valid clauses

Compiling a where clause checks nothing.  A clause that validation accepts has what its operator
needs, and its filter then has it too: no operand is null or blank, and the bounds of a range are
numbers in order.

* `Json.isBlankText_compact` : no document is written as a blank text.
* `Where.Clause.HasOperands` : a filter, but for a negation around it, that names the field and has
  the operands of the operator.
* `Where.Clause.hasOperands_of_validate` : valid clauses compile to such filters, and exactly the
  negated operators to a negation of one.
-/

namespace Alerting

/-! ### Texts of documents -/

theorem mem_signed {negative : Bool} {cs : List Char} {c : Char} (h : c ∈ cs) :
    c ∈ signed negative cs := by
  cases negative with
  | true => exact List.mem_cons_of_mem _ h
  | false => exact h

/-- A point stands in a positional numeral, an exponent in any other, and no blank is a digit. -/
theorem Json.Number.exists_mem_text (n : Number) : ∃ c ∈ n.text, Text.isBlank c = false := by
  cases n with
  | int n fits =>
    obtain ⟨c, hc⟩ := List.exists_mem_of_ne_nil _ (Nat.toDigits_ne_nil (b := 10) (n := n.natAbs))
    obtain ⟨hmin, hmax⟩ := Char.isDigit_iff_toNat.1 (Numeral.isDigit_of_mem_toDigits hc)
    exact ⟨c, mem_signed hc,
      Text.isBlank_eq_false ⟨Nat.le_trans (by decide) hmin, Nat.le_trans hmax (by decide)⟩⟩
  | float x =>
    have hpoint : '.' ∈ (Decimal.shortest .even x).fractionText := by
      unfold Decimal.fractionText
      split <;> simp
    have hletter : 'e' ∈ (Decimal.shortest .even x).scientificText := by
      simp [Decimal.scientificText]
    show ∃ c ∈ x.jsonText, Text.isBlank c = false
    unfold Finite64.jsonText
    dsimp only
    split
    · exact ⟨'.', mem_signed hpoint, by decide⟩
    · exact ⟨'e', mem_signed hletter, by decide⟩

theorem Json.isBlankText_compact (j : Json) : Text.isBlankText j.compact = false := by
  have hmem : ∃ c ∈ j.compactText, Text.isBlank c = false := by
    match j with
    | .null => exact ⟨'n', List.mem_cons_self, by decide⟩
    | .bool true => exact ⟨'t', List.mem_cons_self, by decide⟩
    | .bool false => exact ⟨'f', List.mem_cons_self, by decide⟩
    | .num n => exact n.exists_mem_text
    | .str _ => exact ⟨'"', List.mem_cons_self, by decide⟩
    | .arr [] | .arr (_ :: _) => exact ⟨'[', List.mem_cons_self, by decide⟩
    | .obj [] | .obj (_ :: _) => exact ⟨'{', List.mem_cons_self, by decide⟩
  simpa [Text.isBlankText, compact] using hmem

/-! ### Numbers in order -/

theorem Binary64.exists_finite {x : Binary64} (hnumber : x ≠ .nan)
    (hbounded : ∀ negative, x ≠ .infinite negative) : ∃ y, x = .finite y := by
  cases x with
  | nan => exact absurd rfl hnumber
  | infinite negative => exact absurd rfl (hbounded negative)
  | finite y => exact ⟨y, rfl⟩

theorem Binary64.place_le_of_not_less {x y : Finite64}
    (h : (Binary64.finite y).less (.finite x) = false) : x.place ≤ y.place := by
  simpa [less, place?] using h

namespace Where

/-! ### What operators need -/

/-- The operators whose filter is a negation. -/
def negatedOperators : List Operator := [.isNot, .isNull, .doesNotContain, .notInRange]

/-- The negation of a filter in the query language. -/
def negation (core : Json) : Json := .obj [("bool", .obj [("must_not", core)])]

/-- An operand that says something: it is neither null nor a string of blanks. -/
def IsOperand (j : Json) : Prop := j ≠ .null ∧ ∀ s, j = .str s → Text.isBlankText s = false

namespace Clause

/-- A filter, but for a negation around it, for the operator of a clause: it names the field, and
nothing of what the operator needs is missing. -/
inductive HasOperands (c : Clause) (f : FieldRef) : Json → Prop
  | term (operator : c.operator ∈ [.is, .isNot]) (type : f.type ≠ some .text)
      (value : IsOperand c.value.json) :
    HasOperands c f (.obj [("term", .obj [(f.label, c.value.json)])])
  | phrase (operator : c.operator ∈ [.is, .isNot]) (type : f.type = some .text)
      (value : IsOperand c.value.json) :
    HasOperands c f (.obj [("match_phrase", .obj [(f.label, c.value.json)])])
  | present (operator : c.operator ∈ [.isNull, .isNotNull]) :
    HasOperands c f (.obj [("exists", .obj [("field", .str f.label)])])
  | comparison (bound : String)
      (operator : (c.operator, bound) ∈ [(.isGreater, "gt"), (.isGreaterEqual, "gte"),
        (.isLess, "lt"), (.isLessEqual, "lte")])
      (value : IsOperand c.value.json) :
    HasOperands c f (.obj [("range", .obj [(f.label, .obj [(bound, c.value.json)])])])
  | range {start stop : Finite64} (operator : c.operator ∈ [.inRange, .notInRange])
      (lower : c.rangeStart = some (.finite start)) (upper : c.rangeEnd = some (.finite stop))
      (ordered : start.place ≤ stop.place) :
    HasOperands c f (.obj [("range", .obj [(f.label,
      .obj [("gte", .num (.float start)), ("lte", .num (.float stop))])])])
  | leading (operator : c.operator = .startsWith) (text : Text.isBlankText c.valueText = false) :
    HasOperands c f (.obj [("prefix", .obj [(f.label, .str c.valueText)])])
  | trailing (operator : c.operator = .endsWith) (text : Text.isBlankText c.valueText = false) :
    HasOperands c f (.obj [("wildcard", .obj [(f.label, .str ("*" ++ c.valueText))])])
  | contained (operator : c.operator ∈ [.contains, .doesNotContain]) (type : f.type ≠ some .text)
      (text : Text.isBlankText c.valueText = false) :
    HasOperands c f (.obj [("wildcard", .obj [(f.label, .str ("*" ++ c.valueText ++ "*"))])])
  | containedWords (operator : c.operator ∈ [.contains, .doesNotContain])
      (type : f.type = some .text) (text : Text.isBlankText c.valueText = false) :
    HasOperands c f (.obj [("query_string",
      .obj [("query", .str ("*" ++ c.valueText ++ "*")), ("default_field", .str f.label)])])

variable {c : Clause} {f : FieldRef} {config : Config} {core : Json}

theorem HasOperands.ne_negation (h : c.HasOperands f core) (inner : Json) :
    core ≠ negation inner := by
  cases h <;> simp [negation]

theorem HasOperands.exists_member (h : c.HasOperands f core) :
    ∃ key body, core = .obj [(key, body)] := by
  cases h <;> exact ⟨_, _, rfl⟩

/-! ### Operands of valid clauses -/

theorem isOperand_of_checkOperand (h : c.checkOperand = .ok ()) (hr : c.operator.isRange = false)
    (hn : c.operator.isNullCheck = false) : IsOperand c.value.json := by
  have hvoid := isVoid_of_checkOperand h hr hn
  unfold Value.isVoid at hvoid
  unfold IsOperand
  cases hj : c.value.json <;> simp_all

/-- A value that is no string is written as a document, and so not as a blank text. -/
theorem isBlankText_valueText (h : IsOperand c.value.json) :
    Text.isBlankText c.valueText = false := by
  unfold valueText
  split
  · rename_i s hs
    exact h.2 s hs
  · rename_i hnull
    exact absurd hnull h.1
  · exact Json.isBlankText_compact _

theorem hasOperands_equalFilter (hop : c.operator ∈ [.is, .isNot])
    (hvalue : IsOperand c.value.json) : c.HasOperands f (c.equalFilter f).toJson := by
  unfold equalFilter
  split
  · rename_i htext
    exact .phrase hop htext hvalue
  · rename_i htext
    exact .term hop htext hvalue

theorem hasOperands_containsFilter (hop : c.operator ∈ [.contains, .doesNotContain])
    (hvalue : IsOperand c.value.json) : c.HasOperands f (c.containsFilter f).toJson := by
  have htext := isBlankText_valueText hvalue
  unfold containsFilter
  dsimp only
  split
  · rename_i htype
    exact .containedWords hop htype htext
  · rename_i htype
    exact .contained hop htype htext

theorem hasOperands_rangeFilter (hop : c.operator ∈ [.inRange, .notInRange])
    (h : c.checkOperand = .ok ()) (hstart : ∀ negative, c.rangeStart ≠ some (.infinite negative))
    (hstop : ∀ negative, c.rangeEnd ≠ some (.infinite negative)) :
    c.HasOperands f (c.rangeFilter f).toJson := by
  have hr : c.operator.isRange = true := by
    rcases List.mem_pair.1 hop with ho | ho <;> rw [ho] <;> rfl
  obtain ⟨start, stop, hlower, hupper, hstartNan, hstopNan, hordered⟩ :=
    bounds_of_checkOperand h hr
  obtain ⟨x, rfl⟩ := Binary64.exists_finite hstartNan fun n hn => hstart n (hn ▸ hlower)
  obtain ⟨y, rfl⟩ := Binary64.exists_finite hstopNan fun n hn => hstop n (hn ▸ hupper)
  unfold rangeFilter
  rw [hlower, hupper]
  exact .range hop hlower hupper (Binary64.place_le_of_not_less hordered)

/-- A filter has the operands of its operator, and so has what is negated. -/
theorem exists_hasOperands (h : c.checkOperand = .ok ())
    (hstart : ∀ negative, c.rangeStart ≠ some (.infinite negative))
    (hstop : ∀ negative, c.rangeEnd ≠ some (.infinite negative)) :
    ∃ core, c.HasOperands f core ∧ (c.filterOn f).toJson =
      if c.operator ∈ negatedOperators then negation core else core := by
  have hvalue : ∀ op, c.operator = op → op.isRange = false → op.isNullCheck = false →
      IsOperand c.value.json := by
    rintro op rfl
    exact isOperand_of_checkOperand h
  unfold filterOn
  cases ho : c.operator with
  | is | isNot =>
    exact ⟨_, hasOperands_equalFilter (by simp [ho]) (hvalue _ ho rfl rfl), rfl⟩
  | isNull | isNotNull => exact ⟨_, .present (by simp [ho]), rfl⟩
  | isGreater =>
    exact ⟨_, .comparison "gt" (by simp [ho]) (hvalue _ ho rfl rfl), rfl⟩
  | isGreaterEqual =>
    exact ⟨_, .comparison "gte" (by simp [ho]) (hvalue _ ho rfl rfl), rfl⟩
  | isLess =>
    exact ⟨_, .comparison "lt" (by simp [ho]) (hvalue _ ho rfl rfl), rfl⟩
  | isLessEqual =>
    exact ⟨_, .comparison "lte" (by simp [ho]) (hvalue _ ho rfl rfl), rfl⟩
  | inRange | notInRange =>
    exact ⟨_, hasOperands_rangeFilter (by simp [ho]) h hstart hstop, rfl⟩
  | startsWith =>
    exact ⟨_, .leading ho (isBlankText_valueText (hvalue _ ho rfl rfl)), rfl⟩
  | endsWith =>
    exact ⟨_, .trailing ho (isBlankText_valueText (hvalue _ ho rfl rfl)), rfl⟩
  | contains | doesNotContain =>
    exact ⟨_, hasOperands_containsFilter (by simp [ho]) (hvalue _ ho rfl rfl), rfl⟩

/-- **Valid clauses compile to filters with their operands.**  A clause with a field has a filter, of
one member, which is the negation of one just for the negated operators.  Infinite bounds are the
only operands that validation lets pass and documents have no number for. -/
theorem hasOperands_of_validate (h : c.validate config = .ok ()) (hf : c.field? = some f)
    (hstart : ∀ negative, c.rangeStart ≠ some (.infinite negative))
    (hstop : ∀ negative, c.rangeEnd ≠ some (.infinite negative)) :
    ∃ filter core, c.filter? = some filter ∧ c.HasOperands f core ∧
      filter.toJson = (if c.operator ∈ negatedOperators then negation core else core) ∧
      (∃ key body, filter.toJson = .obj [(key, body)]) ∧
      ((∃ inner, filter.toJson = negation inner) ↔ c.operator ∈ negatedOperators) := by
  obtain ⟨core, hcore, hjson⟩ :=
    exists_hasOperands (f := f) (checkOperand_of_validate h hf) hstart hstop
  have hfilter : c.filter? = some (c.filterOn f) := by rw [filter?, hf, Option.map_some]
  refine ⟨_, core, hfilter, hcore, hjson, ?_⟩
  rw [hjson]
  split
  · rename_i hneg
    exact ⟨⟨_, _, rfl⟩, fun _ => hneg, fun _ => ⟨core, rfl⟩⟩
  · rename_i hpos
    exact ⟨hcore.exists_member, fun ⟨inner, hinner⟩ => absurd hinner (hcore.ne_negation inner),
      fun hneg => absurd hneg hpos⟩

/-- A range that excludes a single point, on a field of no known type, and with a value that is of
no use to it. -/
theorem hasOperands_of_validate_point :
    let f : FieldRef := { label := "bytes", type := none }
    let x : Finite64 := ⟨true, 4607182418800017408, by decide⟩
    let c : Clause := {
      fields := [f]
      operator := .notInRange
      value := .str " "
      rangeStart := some (.finite x)
      rangeEnd := some (.finite x) }
    c.validate .initial = .ok () ∧ c.field? = some f ∧
      (∀ negative, c.rangeStart ≠ some (.infinite negative)) ∧
      (∀ negative, c.rangeEnd ≠ some (.infinite negative)) ∧
      ∃ filter core, c.filter? = some filter ∧ c.HasOperands f core ∧
        filter.toJson = negation core := by
  intro f x c
  have hvalid : c.validate .initial = .ok () := by decide +kernel
  obtain ⟨filter, core, hfilter, hcore, hjson, -⟩ :=
    hasOperands_of_validate hvalid (rfl : c.field? = some f) nofun nofun
  exact ⟨hvalid, rfl, nofun, nofun, filter, core, hfilter, hcore, hjson⟩

end Clause

end Where

end Alerting
