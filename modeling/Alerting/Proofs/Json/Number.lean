import Alerting.Json.Parser
import Alerting.Json.Printer
import Alerting.Proofs.Binary64.Text

/-!
# Numbers in JSON text

A number *reads back* when its text is read as that number.  Every integer does
(`Json.Number.readsBack_int`).  A floating-point number need not: the reader computes it in steps
that round, so what is read may be a neighbour of the number that was written.

What is read of a number does not depend on what follows it, as long as a delimiter comes first
(`Json.readNumber_append`).
-/

namespace Alerting

namespace Json

/-- The text of a number is read as that number. -/
def Number.ReadsBack (n : Number) : Prop := readNumber n.text = some (n, [])

instance (n : Number) : Decidable n.ReadsBack := inferInstanceAs (Decidable (_ = _))

/-- What may follow a number: the end of the text, a comma or a new line. -/
def Delimited (rest : List Char) : Prop := ∀ c ∈ rest.head?, c = ',' ∨ c = '\n'

theorem delimited_cons {c : Char} {rest : List Char} (h : c = ',' ∨ c = '\n') :
    Delimited (c :: rest) := by
  intro d hd
  rw [List.head?_cons, Option.mem_some_iff] at hd
  exact hd ▸ h

/-! ### Integers -/

/-- Only zero has a numeral that starts with a zero. -/
theorem head?_toDigits_ne_zero {k : Nat} (hk : 0 < k) :
    (Nat.toDigits 10 k).head? ≠ some '0' := by
  induction k using Nat.strongRecOn with
  | _ k ih =>
    by_cases hlt : k < 10
    · have hdigit : ∀ k < 10, 0 < k → [Nat.digitChar k].head? ≠ some '0' := by decide
      rw [Nat.toDigits_of_lt_base hlt]
      exact hdigit k hlt hk
    · rw [Nat.toDigits_of_base_le (by decide) (by omega), List.head?_append,
        Option.or_of_isSome (List.isSome_head?.2 Nat.toDigits_ne_nil)]
      exact ih (k / 10) (by omega) (by omega)

theorem readWhole_toDigits (k : Nat) :
    readWhole (Nat.toDigits 10 k) = some (Nat.toDigits 10 k, []) := by
  rw [readWhole, Numeral.takeDigits_of_all fun c => Numeral.isDigit_of_mem_toDigits]
  split
  · rename_i h
    exact absurd (congrArg Prod.fst h) Nat.toDigits_ne_nil
  · rename_i x ds r h
    have hds : Nat.toDigits 10 k = '0' :: x :: ds := congrArg Prod.fst h
    rcases Nat.eq_zero_or_pos k with rfl | hk
    · simp [Nat.toDigits_zero] at hds
    · exact absurd (by rw [hds]; rfl) (head?_toDigits_ne_zero hk)
  · rfl

theorem readNumberText_toDigits (k : Nat) :
    readNumberText (Nat.toDigits 10 k) = some (⟨Nat.toDigits 10 k, none, none⟩, []) := by
  rw [readNumberText, readWhole_toDigits]
  rfl

theorem readUnsigned_toDigits {negative : Bool} {k : Nat} {n : Number}
    (hn : Number.ofInt? (if negative then -k else k) = some n)
    (hk : negative = true → k ≠ 0) :
    readUnsigned negative (Nat.toDigits 10 k) = some (n, []) := by
  have hzero : (negative && decide (k = 0)) = false := by
    cases negative with
    | false => rfl
    | true => simpa using hk rfl
  simp only [readUnsigned, readNumberText_toDigits, NumberText.number?, NumberText.integer?,
    Numeral.value_toDigits, hzero, Option.bind_eq_bind, Option.bind_some, Option.isSome_none,
    Bool.or_false, Bool.false_eq_true, ↓reduceIte, hn, Option.pure_def]

/-- A text that starts with a digit has no sign. -/
theorem readNumber_of_digit {cs : List Char} (h : ∀ c ∈ cs.head?, c.isDigit = true) :
    readNumber cs = readUnsigned false cs := by
  rw [readNumber.eq_2]
  rintro r rfl
  exact absurd (h '-' rfl) (by decide)

theorem Number.readsBack_int {n : Int} (fits : fits64 n = true) :
    (Number.int n fits).ReadsBack := by
  have hof : Number.ofInt? n = some (.int n fits) := by simp only [Number.ofInt?, fits, ↓reduceDIte]
  rw [ReadsBack, text, signed]
  by_cases hneg : n < 0
  · simp only [hneg, decide_true, ↓reduceIte, readNumber]
    refine readUnsigned_toDigits ?_ fun _ => by omega
    rw [if_pos rfl, ← hof]
    congr 1
    omega
  · simp only [hneg, decide_false, Bool.false_eq_true, ↓reduceIte]
    rw [readNumber_of_digit fun c hc => Numeral.isDigit_of_mem_toDigits (List.mem_of_mem_head? hc)]
    refine readUnsigned_toDigits ?_ (by simp)
    rw [if_neg (by simp), ← hof]
    congr 1
    omega

/-- A number starts with a minus or a digit. -/
theorem head_of_readNumber {cs r : List Char} {n : Number} (h : readNumber cs = some (n, r)) :
    ∃ c cs', cs = c :: cs' ∧ (c = '-' ∨ c.isDigit = true) := by
  cases cs with
  | nil => cases h
  | cons c cs =>
    refine ⟨c, cs, rfl, ?_⟩
    by_contra hc
    rw [not_or] at hc
    have hdigits : Numeral.takeDigits (c :: cs) = ([], c :: cs) := by
      simp [Numeral.takeDigits, List.span_eq_takeWhile_dropWhile, hc.2]
    rw [readNumber.eq_2 _ (by simpa using hc.1)] at h
    simp [readUnsigned, readNumberText, readWhole, hdigits] at h

/-! ### What follows a number -/

theorem takeDigits_append {cs rest : List Char} (hr : Delimited rest) :
    Numeral.takeDigits (cs ++ rest) =
      ((Numeral.takeDigits cs).1, (Numeral.takeDigits cs).2 ++ rest) := by
  simp only [Numeral.takeDigits, List.span_eq_takeWhile_dropWhile]
  induction cs with
  | nil =>
    cases rest with
    | nil => rfl
    | cons c rest =>
      have hc : c.isDigit = false := by rcases hr c rfl with rfl | rfl <;> decide
      simp [hc]
  | cons c cs ih =>
    simp only [Prod.mk.injEq] at ih
    by_cases hc : c.isDigit
    · simp [hc, ih.1, ih.2]
    · simp [hc]

variable {rest : List Char} (hr : Delimited rest)
include hr

theorem readWhole_append {cs ds r : List Char} (h : readWhole cs = some (ds, r)) :
    readWhole (cs ++ rest) = some (ds, r ++ rest) := by
  simp only [readWhole] at h
  rw [readWhole, takeDigits_append hr]
  cases hp : Numeral.takeDigits cs with
  | mk es q =>
    rw [hp] at h
    split at h <;> simp_all

theorem takeFraction_append (cs : List Char) :
    Numeral.takeFraction (cs ++ rest) =
      (Numeral.takeFraction cs).map fun p => (p.1, p.2 ++ rest) := by
  cases cs with
  | nil =>
    -- The number ends here, and what may follow it starts no fraction.
    cases rest with
    | nil => rfl
    | cons c rest => rcases hr c rfl with rfl | rfl <;> rfl
  | cons c cs =>
    by_cases hc : c = '.'
    · subst hc
      rw [List.cons_append, Numeral.takeFraction, takeDigits_append hr]
      rfl
    · rw [List.cons_append, Numeral.takeFraction, Numeral.takeFraction]
      · rfl
      · simpa using hc
      · simpa using hc

theorem readFraction_append {cs r : List Char} {ds : Option (List Char)}
    (h : readFraction cs = some (ds, r)) : readFraction (cs ++ rest) = some (ds, r ++ rest) := by
  simp only [readFraction] at h
  rw [readFraction, takeFraction_append hr]
  cases hp : Numeral.takeFraction cs with
  | none =>
    rw [hp] at h
    simp_all
  | some p =>
    obtain ⟨es, q⟩ := p
    rw [hp] at h
    cases es <;> simp_all

theorem startsExponent_append (cs : List Char) :
    startsExponent (cs ++ rest) = startsExponent cs := by
  cases cs with
  | nil =>
    cases rest with
    | nil => rfl
    | cons c rest => rcases hr c rfl with rfl | rfl <;> rfl
  | cons c cs =>
    rw [List.cons_append]
    unfold startsExponent
    split <;> simp_all

theorem takeSign_append (cs : List Char) :
    Numeral.takeSign (cs ++ rest) =
      ((Numeral.takeSign cs).1, (Numeral.takeSign cs).2 ++ rest) := by
  cases cs with
  | nil =>
    cases rest with
    | nil => rfl
    | cons c rest => rcases hr c rfl with rfl | rfl <;> rfl
  | cons c cs =>
    rw [List.cons_append]
    unfold Numeral.takeSign
    split <;> simp_all

theorem takeExponent_append {cs r : List Char} {e : Int}
    (h : Numeral.takeExponent cs = some (e, r)) :
    Numeral.takeExponent (cs ++ rest) = some (e, r ++ rest) := by
  cases cs with
  | nil =>
    cases h
    cases rest with
    | nil => rfl
    | cons c rest => rcases hr c rfl with rfl | rfl <;> rfl
  | cons c cs =>
    rw [List.cons_append]
    simp only [Numeral.takeExponent] at h ⊢
    split at h
    · rename_i hc
      rw [if_pos hc, takeSign_append hr, takeDigits_append hr]
      cases hp : Numeral.takeDigits (Numeral.takeSign cs).2 with
      | mk es q =>
        rw [hp] at h
        cases es <;> simp_all
    · rename_i hc
      rw [if_neg hc]
      cases h
      rfl

theorem readNumberText_append {cs r : List Char} {t : NumberText}
    (h : readNumberText cs = some (t, r)) : readNumberText (cs ++ rest) = some (t, r ++ rest) := by
  simp only [readNumberText, Option.bind_eq_bind, Option.bind_eq_some_iff, Prod.exists,
    Option.pure_def, Option.some.injEq, Prod.mk.injEq] at h ⊢
  obtain ⟨ws, q, hw, fs, q', hf, e, q'', he, rfl, rfl⟩ := h
  exact ⟨ws, _, readWhole_append hr hw, fs, _, readFraction_append hr hf, e, _,
    takeExponent_append hr he, by rw [startsExponent_append hr], rfl⟩

theorem readUnsigned_append {negative : Bool} {cs r : List Char} {n : Number}
    (h : readUnsigned negative cs = some (n, r)) :
    readUnsigned negative (cs ++ rest) = some (n, r ++ rest) := by
  simp only [readUnsigned, Option.bind_eq_bind, Option.bind_eq_some_iff, Prod.exists,
    Option.pure_def, Option.some.injEq, Prod.mk.injEq] at h ⊢
  obtain ⟨t, q, ht, n, hn, rfl, rfl⟩ := h
  exact ⟨t, _, readNumberText_append hr ht, n, hn, rfl, rfl⟩

theorem readNumber_append {cs r : List Char} {n : Number} (h : readNumber cs = some (n, r)) :
    readNumber (cs ++ rest) = some (n, r ++ rest) := by
  cases cs with
  | nil => cases h
  | cons c cs =>
    rw [List.cons_append]
    by_cases hc : c = '-'
    · subst hc
      exact readUnsigned_append hr h
    · rw [readNumber.eq_2 _ (by simpa using hc)] at h ⊢
      exact readUnsigned_append hr h

end Json

end Alerting
