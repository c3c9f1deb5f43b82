import Alerting.Proofs.Text
import Alerting.Where.PatternFilter

/-!
# Patterns and what is read of them

Six operators share one syntax of patterns, in which `.*` is not escaped.  A text that is compared
with may itself start or end with `.*`, and a pattern is then read as that of another operator.

* `Where.Operator.RecoversText` : the texts that an operator gets back from its pattern.
* `Where.exists_recoversText` : every pattern is that of such an operator and text.
* `Where.readPattern_eq_iff` : a text pattern is read as the operator and text that have it and that
  recover.
* `Where.readValue_eq_iff` : the same for patterns that may be any value.
-/

namespace Alerting

namespace Where

/-! ### Texts around any text -/

theorem afterAnyText?_eq_some_iff {p s : String} : afterAnyText? p = some s ↔ p = anyText ++ s :=
  Text.ofList_isPrefixOf?_iff

theorem beforeAnyText?_eq_some_iff {p s : String} :
    beforeAnyText? p = some s ↔ p = s ++ anyText :=
  Text.ofList_isSuffixOf?_iff

theorem startsWith_anyText_iff {s : String} :
    anyText.toList <+: s.toList ↔ ∃ r, s = anyText ++ r := by
  constructor
  · rintro ⟨r, hr⟩
    exact ⟨.ofList r, by rw [← String.toList_inj, String.toList_append, String.toList_ofList, hr]⟩
  · rintro ⟨r, rfl⟩
    rw [String.toList_append]
    exact List.prefix_append _ _

theorem endsWith_anyText_iff {s : String} :
    anyText.toList <:+ s.toList ↔ ∃ r, s = r ++ anyText := by
  constructor
  · rintro ⟨r, hr⟩
    exact ⟨.ofList r, by rw [← String.toList_inj, String.toList_append, String.toList_ofList, hr]⟩
  · rintro ⟨r, rfl⟩
    rw [String.toList_append]
    exact List.suffix_append _ _

theorem afterAnyText?_eq_none_iff {s : String} :
    afterAnyText? s = none ↔ ¬anyText.toList <+: s.toList := by
  simp only [Option.eq_none_iff_forall_ne_some, ne_eq, afterAnyText?_eq_some_iff,
    startsWith_anyText_iff, not_exists]

theorem beforeAnyText?_eq_none_iff {s : String} :
    beforeAnyText? s = none ↔ ¬anyText.toList <:+ s.toList := by
  simp only [Option.eq_none_iff_forall_ne_some, ne_eq, beforeAnyText?_eq_some_iff,
    endsWith_anyText_iff, not_exists]

/-- What stands between two patterns for any text. -/
theorem betweenAnyText_eq_some_iff {p inner : String} :
    (afterAnyText? p).bind beforeAnyText? = some inner ↔ p = anyText ++ inner ++ anyText := by
  simp only [Option.bind_eq_some_iff, afterAnyText?_eq_some_iff, beforeAnyText?_eq_some_iff,
    String.append_assoc]
  exact ⟨fun ⟨_, hp, hr⟩ => hr ▸ hp, fun hp => ⟨_, hp, rfl⟩⟩

theorem betweenAnyText_eq_none_iff {p : String} :
    (afterAnyText? p).bind beforeAnyText? = none ↔ ∀ inner, p ≠ anyText ++ inner ++ anyText := by
  simp only [Option.eq_none_iff_forall_ne_some, ne_eq, betweenAnyText_eq_some_iff]

/-- The start of a pattern is no part of an end of it, unless there is nothing after the start. -/
theorem beforeAnyText?_append {s : String} (hempty : s ≠ "")
    (hstop : ¬anyText.toList <:+ s.toList) : beforeAnyText? (anyText ++ s) = none := by
  refine beforeAnyText?_eq_none_iff.2 fun h => hstop ?_
  rw [String.toList_append] at h
  match hs : s.toList, mt String.toList_eq_nil_iff.1 hempty with
  | [x], _ =>
    -- The last but one character of `.*x` is not that of an end.
    obtain ⟨r, hr⟩ := h
    have hlast := congrArg List.reverse hr
    simp [hs, anyText] at hlast
  | x :: y :: cs, _ =>
    rw [← hs]
    refine List.suffix_of_suffix_length_le h (List.suffix_append _ _) ?_
    rw [hs]
    exact Nat.le_add_left 2 _

/-! ### Patterns of texts -/

namespace Operator

/-- The mode and pattern of an operator and a text. -/
def textPattern? : Operator → String → Option (Mode × String)
  | .is, s => some (.keep, s)
  | .isNot, s => some (.drop, s)
  | .contains, s => some (.keep, anyText ++ s ++ anyText)
  | .doesNotContain, s => some (.drop, anyText ++ s ++ anyText)
  | .startsWith, s => some (.keep, s ++ anyText)
  | .endsWith, s => some (.keep, anyText ++ s)
  | _, _ => none

/-- The texts that an operator gets back from its pattern.  Only the parts between two `.*` are read
in both modes, so there is less to tell apart where values are dropped. -/
def RecoversText : Operator → String → Prop
  | .is, s => ¬anyText.toList <+: s.toList ∧ ¬anyText.toList <:+ s.toList
  | .isNot, s => ∀ inner, s ≠ anyText ++ inner ++ anyText
  | .contains, _ | .doesNotContain, _ => True
  | .startsWith, s => ¬anyText.toList <+: s.toList
  | .endsWith, s => s ≠ "" ∧ ¬anyText.toList <:+ s.toList
  | _, _ => False

end Operator

variable {mode : Mode} {p s : String} {op : Operator}

theorem readPattern_of_recoversText (hp : op.textPattern? s = some (mode, p))
    (h : op.RecoversText s) : readPattern mode p = (op, s) := by
  unfold readPattern
  cases op with
  | is =>
    obtain ⟨rfl, rfl⟩ := Prod.mk.inj (Option.some.inj hp)
    rw [afterAnyText?_eq_none_iff.2 h.1, beforeAnyText?_eq_none_iff.2 h.2]
    rfl
  | isNot =>
    obtain ⟨rfl, rfl⟩ := Prod.mk.inj (Option.some.inj hp)
    rw [betweenAnyText_eq_none_iff.2 h]
    rfl
  | contains | doesNotContain =>
    obtain ⟨rfl, rfl⟩ := Prod.mk.inj (Option.some.inj hp)
    rw [betweenAnyText_eq_some_iff.2 rfl]
    rfl
  | startsWith =>
    obtain ⟨rfl, rfl⟩ := Prod.mk.inj (Option.some.inj hp)
    have hbetween : (afterAnyText? (s ++ anyText)).bind beforeAnyText? = none := by
      refine betweenAnyText_eq_none_iff.2 fun inner hinner => h ?_
      exact startsWith_anyText_iff.2 ⟨inner, (String.append_left_inj _).1 hinner⟩
    rw [hbetween, beforeAnyText?_eq_some_iff.2 rfl]
  | endsWith =>
    obtain ⟨rfl, rfl⟩ := Prod.mk.inj (Option.some.inj hp)
    have hafter : afterAnyText? (anyText ++ s) = some s := afterAnyText?_eq_some_iff.2 rfl
    rw [hafter, Option.bind_some, beforeAnyText?_eq_none_iff.2 h.2, beforeAnyText?_append h.1 h.2]
  | _ => exact h.elim

/-- Every pattern is that of an operator that gets the text back from it. -/
theorem exists_recoversText (mode : Mode) (p : String) :
    ∃ op s, Operator.textPattern? op s = some (mode, p) ∧ op.RecoversText s := by
  by_cases hbetween : ∃ inner, p = anyText ++ inner ++ anyText
  · obtain ⟨inner, rfl⟩ := hbetween
    cases mode with
    | keep => exact ⟨.contains, inner, rfl, trivial⟩
    | drop => exact ⟨.doesNotContain, inner, rfl, trivial⟩
  · have hinner : ∀ inner, p ≠ anyText ++ inner ++ anyText := not_exists.1 hbetween
    cases mode with
    | drop => exact ⟨.isNot, p, rfl, hinner⟩
    | keep =>
      by_cases hstop : anyText.toList <:+ p.toList
      · obtain ⟨s, rfl⟩ := endsWith_anyText_iff.1 hstop
        refine ⟨.startsWith, s, rfl, fun hstart => ?_⟩
        obtain ⟨r, rfl⟩ := startsWith_anyText_iff.1 hstart
        exact hinner r rfl
      · by_cases hstart : anyText.toList <+: p.toList
        · obtain ⟨s, rfl⟩ := startsWith_anyText_iff.1 hstart
          rw [String.toList_append] at hstop
          refine ⟨.endsWith, s, rfl, fun hempty => hstop ?_, fun hs => hstop ?_⟩
          · rw [hempty]
            exact List.suffix_append [] _
          · exact hs.trans (List.suffix_append _ _)
        · exact ⟨.is, p, rfl, hstart, hstop⟩

/-- A text pattern is read as the operator and text that have it and that recover. -/
theorem readPattern_eq_iff :
    readPattern mode p = (op, s) ↔ op.textPattern? s = some (mode, p) ∧ op.RecoversText s := by
  constructor
  · intro h
    obtain ⟨op', s', hp, hr⟩ := exists_recoversText mode p
    obtain ⟨rfl, rfl⟩ := Prod.mk.inj (h.symm.trans (readPattern_of_recoversText hp hr))
    exact ⟨hp, hr⟩
  · rintro ⟨hp, hr⟩
    exact readPattern_of_recoversText hp hr

/-! ### Patterns of values -/

/-- The values that an operator gets back from its pattern.  A value that is no text is compared
with as it is. -/
def Operator.Recovers (op : Operator) (v : Value) : Prop :=
  match v.str? with
  | some s => op.RecoversText s
  | none => op = .is ∨ op = .isNot

/-- The operator and value of a pattern. -/
def readValue (mode : Mode) (pattern : Value) : Operator × Value :=
  match pattern.str? with
  | some p => ((readPattern mode p).1, .str (readPattern mode p).2)
  | none => (mode.equality, pattern)

theorem Clause.pattern?_of_str {c : Clause} (h : c.value = .str s) :
    c.pattern? = (c.operator.textPattern? s).map fun (mode, p) => (mode, .str p) := by
  have htext : c.valueText = s := by
    rw [Clause.valueText, h]
    rfl
  unfold Clause.pattern?
  rw [h, htext]
  cases c.operator <;> rfl

/-- A pattern is read as the operator and value that have it and that recover. -/
theorem readValue_eq_iff {c : Clause} {pattern : Value} :
    readValue mode pattern = (c.operator, c.value) ↔
      c.pattern? = some (mode, pattern) ∧ c.operator.Recovers c.value := by
  unfold readValue Operator.Recovers
  constructor
  · intro h
    cases hp : pattern.str? with
    | some p =>
      rw [hp] at h
      obtain ⟨hop, hvalue⟩ := Prod.mk.inj h
      have hread : readPattern mode p = (c.operator, (readPattern mode p).2) := Prod.ext hop rfl
      obtain ⟨hpattern, hr⟩ := readPattern_eq_iff.1 hread
      rw [Clause.pattern?_of_str hvalue.symm, hpattern, Value.str?_eq_some_iff.1 hp,
        Value.str?_eq_some_iff.2 hvalue.symm]
      exact ⟨rfl, hr⟩
    | none =>
      rw [hp] at h
      obtain ⟨hop, rfl⟩ := Prod.mk.inj h
      rw [hp]
      unfold Clause.pattern?
      rw [← hop]
      cases mode with
      | keep => exact ⟨rfl, .inl rfl⟩
      | drop => exact ⟨rfl, .inr rfl⟩
  · rintro ⟨hpattern, hr⟩
    cases hv : c.value.str? with
    | some s =>
      rw [hv] at hr
      rw [Clause.pattern?_of_str (Value.str?_eq_some_iff.1 hv), Option.map_eq_some_iff] at hpattern
      obtain ⟨⟨m, p⟩, htext, hp⟩ := hpattern
      obtain ⟨rfl, rfl⟩ := Prod.mk.inj hp
      rw [Value.str?_eq_some_iff.2 rfl, Value.str?_eq_some_iff.1 hv]
      simp only [readPattern_eq_iff.2 ⟨htext, hr⟩]
    | none =>
      rw [hv] at hr
      unfold Clause.pattern? at hpattern
      rcases hr with hop | hop
      all_goals
        rw [hop] at hpattern
        obtain ⟨rfl, rfl⟩ := Prod.mk.inj (Option.some.inj hpattern)
        rw [hv, hop]
        rfl

end Where

end Alerting
