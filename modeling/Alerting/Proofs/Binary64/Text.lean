import Alerting.Binary64.Text
import Alerting.Proofs.Binary64.Decimal
import Alerting.Proofs.Text
import Mathlib.Data.List.TakeDrop
import Mathlib.Data.List.TakeWhile

/-!
# Numerals in scripts read back

* `Binary64.ofText?_scriptText` : the numeral of a finite number is read as that number.
* `Binary64.isWord_scriptText` : every numeral is one word, without parentheses.
-/

namespace Alerting

/-! ### Digits -/

namespace Numeral

theorem value_toDigits (k : Nat) : value (Nat.toDigits 10 k) = k :=
  Nat.ofDigitChars_ten_toDigits

theorem isDigit_of_mem_toDigits {k : Nat} {c : Char} (h : c ∈ Nat.toDigits 10 k) :
    c.isDigit = true :=
  Nat.isDigit_of_mem_toDigits (by decide) (by decide) h

theorem value_append_zeros (ds : List Char) (k : Nat) :
    value (ds ++ List.replicate k '0') = value ds * Nat.pow 10 k := by
  show Nat.ofDigitChars 10 _ 0 = Nat.ofDigitChars 10 _ 0 * _
  rw [Nat.ofDigitChars_append, Nat.ofDigitChars_replicate_zero, Nat.mul_comm]
  rfl

theorem value_zeros_append (k : Nat) (ds : List Char) :
    value (List.replicate k '0' ++ ds) = value ds := by
  show Nat.ofDigitChars 10 _ 0 = Nat.ofDigitChars 10 _ 0
  rw [Nat.ofDigitChars_append, Nat.ofDigitChars_replicate_zero, Nat.mul_zero]

/-- Digits are taken up to the first character that is none. -/
theorem takeDigits_digits {ds r : List Char} (h : ∀ c ∈ ds, c.isDigit = true)
    (hr : ∀ c ∈ r.head?, c.isDigit = false) : takeDigits (ds ++ r) = (ds, r) := by
  have hrest : takeDigits r = ([], r) := by
    cases r with
    | nil => rfl
    | cons c r => simp [takeDigits, List.span_eq_takeWhile_dropWhile, hr c rfl]
  simp only [takeDigits, List.span_eq_takeWhile_dropWhile, Prod.mk.injEq] at hrest ⊢
  rw [List.takeWhile_append_of_pos h, List.dropWhile_append_of_pos h, hrest.1, hrest.2]
  exact ⟨List.append_nil ds, rfl⟩

theorem takeDigits_of_all {ds : List Char} (h : ∀ c ∈ ds, c.isDigit = true) :
    takeDigits ds = (ds, []) := by
  simpa using takeDigits_digits (r := []) h nofun

end Numeral

/-! ### Positional numerals -/

namespace Decimal

theorem isDigit_of_mem_digitText {d : Decimal} {c : Char} (h : c ∈ d.digitText) :
    c.isDigit = true := Numeral.isDigit_of_mem_toDigits h

theorem isDigit_of_mem_zeros {k : Nat} {c : Char} (h : c ∈ List.replicate k '0') :
    c.isDigit = true := by
  rw [List.eq_of_mem_replicate h]
  rfl

/-- There are only digits around the point, and at least one before it. -/
theorem positional_digits (d : Decimal) :
    d.positional.1 ≠ [] ∧ (∀ c ∈ d.positional.1, c.isDigit = true) ∧
      ∀ c ∈ d.positional.2, c.isDigit = true := by
  have hds : d.digitText ≠ [] := Nat.toDigits_ne_nil
  unfold positional
  dsimp only
  split
  · refine ⟨by simp [hds], fun c hc => ?_, nofun⟩
    rcases List.mem_append.1 hc with hc | hc
    · exact isDigit_of_mem_digitText hc
    · exact isDigit_of_mem_zeros hc
  · split
    · rename_i hplaces
      rw [List.splitAt_eq]
      refine ⟨fun hnil => ?_, fun c hc => ?_, fun c hc => ?_⟩
      · rcases List.take_eq_nil_iff.1 hnil with h | h
        · omega
        · exact hds h
      · exact isDigit_of_mem_digitText (List.mem_of_mem_take hc)
      · exact isDigit_of_mem_digitText (List.mem_of_mem_drop hc)
    · refine ⟨by simp, by simp, fun c hc => ?_⟩
      rcases List.mem_append.1 hc with hc | hc
      · exact isDigit_of_mem_zeros hc
      · exact isDigit_of_mem_digitText hc

theorem nearestRank_whole {n e : Nat} (hn : n ≠ 0) (he : e ≤ 400) :
    nearestRank ⟨n, e⟩ = Finite64.nearestRank (n * Nat.pow 10 e) 1 := by
  unfold nearestRank
  dsimp only
  rw [if_neg hn, if_neg (by omega), if_neg (by omega), if_pos (by omega), Int.toNat_natCast]

/-- Zeros at the end of a whole number stand for the power of ten. -/
theorem nearestRank_mul_pow {n e : Nat} (h : nearestRank ⟨n, e⟩ < finiteRanks) :
    nearestRank ⟨n * Nat.pow 10 e, (0 : Nat)⟩ = nearestRank ⟨n, e⟩ := by
  by_cases hn : n = 0
  · simp [nearestRank, hn]
  · have he : e ≤ 400 := by
      by_contra hlarge
      have hnone : nearestRank ⟨n, e⟩ = finiteRanks := by
        unfold nearestRank
        dsimp only
        rw [if_neg hn, if_pos (by omega)]
      omega
    have hpow : n * Nat.pow 10 e ≠ 0 := Nat.mul_ne_zero hn (Nat.pos_iff_ne_zero.1 (ten_pow_pos e))
    rw [nearestRank_whole hn he, nearestRank_whole hpow (Nat.zero_le _),
      show Nat.pow 10 0 = 1 from rfl, Nat.mul_one]

/-- The digits around the point stand for the decimal. -/
theorem nearestRank_positional {d : Decimal} (h : d.nearestRank < finiteRanks) :
    (Numeral.decimal d.positional.1 d.positional.2 0).nearestRank = d.nearestRank := by
  obtain ⟨n, e⟩ := d
  have hvalue : Numeral.value (digitText ⟨n, e⟩) = n := Numeral.value_toDigits n
  unfold positional Numeral.decimal
  dsimp only
  split
  · rename_i he
    obtain ⟨k, rfl⟩ := Int.eq_ofNat_of_zero_le he
    rw [List.append_nil, Int.toNat_natCast, Numeral.value_append_zeros, hvalue]
    exact nearestRank_mul_pow h
  · rename_i he
    split
    · rename_i hplaces
      rw [List.splitAt_eq]
      dsimp only
      rw [List.take_append_drop, hvalue, List.length_drop]
      congr 2
      omega
    · rename_i hplaces
      have hzeros (k : Nat) (ds : List Char) :
          ['0'] ++ (List.replicate k '0' ++ ds) = List.replicate (k + 1) '0' ++ ds := rfl
      rw [hzeros, Numeral.value_zeros_append, hvalue, List.length_append, List.length_replicate]
      congr 2
      omega

/-! ### Reading plain numerals -/

/-- A plain numeral starts with a digit. -/
theorem exists_plainText (d : Decimal) : ∃ c cs, d.plainText = c :: cs ∧ c.isDigit = true := by
  obtain ⟨hne, hwhole, -⟩ := d.positional_digits
  obtain ⟨c, ws, hws⟩ := List.exists_cons_of_ne_nil hne
  have hc : c.isDigit = true := hwhole c (by rw [hws]; exact List.mem_cons_self)
  unfold plainText
  split
  · rename_i whole hp
    refine ⟨c, ws, ?_, hc⟩
    rw [← hws, hp]
  · rename_i whole fraction _ hp
    refine ⟨c, ws ++ '.' :: fraction, ?_, hc⟩
    rw [← List.cons_append, ← hws, hp]

theorem takeDigits_plainText (d : Decimal) :
    ∃ r, Numeral.takeDigits d.plainText = (d.positional.1, r) ∧
      (Numeral.takeFraction r).getD ([], r) = (d.positional.2, []) := by
  obtain ⟨-, hwhole, hfraction⟩ := d.positional_digits
  unfold plainText
  split
  · rename_i whole hp
    rw [hp] at hwhole ⊢
    exact ⟨[], Numeral.takeDigits_of_all hwhole, rfl⟩
  · rename_i whole fraction _ hp
    rw [hp] at hwhole hfraction ⊢
    refine ⟨'.' :: fraction, Numeral.takeDigits_digits hwhole (by simp), ?_⟩
    rw [Numeral.takeFraction, Numeral.takeDigits_of_all hfraction]
    rfl

theorem toLower_of_isDigit {c : Char} (h : c.isDigit = true) : c.toLower = c := by
  simp only [Char.isDigit, Bool.and_eq_true, decide_eq_true_eq] at h
  refine dif_neg fun hupper => ?_
  exact absurd (UInt32.le_trans hupper.1 h.2) (by decide)

/-- A plain numeral is none of the words that are read in any case. -/
theorem lower_plainText_ne (d : Decimal) {w : List Char} (h : ∀ c ∈ w.head?, c.isDigit = false) :
    d.plainText.map Char.toLower ≠ w := by
  obtain ⟨c, cs, hcs, hc⟩ := d.exists_plainText
  rintro rfl
  rw [hcs, List.map_cons, toLower_of_isDigit hc] at h
  exact absurd (h c rfl) (by rw [hc]; decide)

end Decimal

namespace Binary64

theorem ofUnsignedText?_plainText (negative : Bool) (d : Decimal) :
    ofUnsignedText? negative d.plainText =
      some (.ofDecimal negative (Numeral.decimal d.positional.1 d.positional.2 0)) := by
  obtain ⟨r, hwhole, hfraction⟩ := d.takeDigits_plainText
  have hne : d.positional.1.isEmpty = false := by simpa using d.positional_digits.1
  unfold ofUnsignedText?
  rw [if_neg (d.lower_plainText_ne (by simp)),
    if_neg (not_or.2 ⟨d.lower_plainText_ne (by simp), d.lower_plainText_ne (by simp)⟩)]
  simp only [hwhole, hfraction, hne, Bool.false_and, Bool.false_eq_true, ↓reduceIte,
    Numeral.takeExponent]

/-- A minus before a numeral is its sign. -/
theorem ofText?_signed {negative : Bool} {cs : List Char}
    (h : ∀ c ∈ cs.head?, c.isDigit = true) :
    ofText? (signed negative cs) = ofUnsignedText? negative cs := by
  cases negative with
  | true => rfl
  | false =>
    show ofText? cs = ofUnsignedText? false cs
    unfold ofText?
    split
    · exact absurd (h _ rfl) (by decide)
    · exact absurd (h _ rfl) (by decide)
    · rfl

theorem ofDecimal_eq_finite {negative : Bool} {d : Decimal} {x : Finite64}
    (h : d.nearest? negative = some x) : ofDecimal negative d = .finite x := by
  simp only [ofDecimal, h]

/-- The numeral of a finite number is read as that number. -/
theorem ofText?_scriptText (x : Finite64) :
    ofText? (scriptText (.finite x)) = some (.finite x) := by
  have hrank : (Decimal.shortest .up x).nearestRank = x.rank :=
    Decimal.nearestRank_shortestOfRank .up x.rank
  have hpositional := Decimal.nearestRank_positional (d := .shortest .up x) (hrank ▸ x.rank_lt)
  obtain ⟨c, cs, hcs, hc⟩ := (Decimal.shortest .up x).exists_plainText
  show ofText? (signed x.negative (Decimal.shortest .up x).plainText) = _
  rw [ofText?_signed (by simpa [hcs] using hc), ofUnsignedText?_plainText]
  refine congrArg some (ofDecimal_eq_finite ?_)
  unfold Decimal.nearest?
  rw [hpositional]
  exact Decimal.nearest?_shortest .up x

/-! ### Characters of numerals -/

theorem toNat_of_mem_plainText {d : Decimal} {c : Char} (h : c ∈ d.plainText) :
    '.'.toNat ≤ c.toNat ∧ c.toNat ≤ '9'.toNat := by
  have hdigit : ∀ {c : Char}, c.isDigit = true → '.'.toNat ≤ c.toNat ∧ c.toNat ≤ '9'.toNat := by
    intro c hc
    obtain ⟨hmin, hmax⟩ := Char.isDigit_iff_toNat.1 hc
    exact ⟨Nat.le_trans (by decide) hmin, hmax⟩
  obtain ⟨-, hwhole, hfraction⟩ := d.positional_digits
  unfold Decimal.plainText at h
  split at h
  · rename_i whole hp
    rw [hp] at hwhole
    exact hdigit (hwhole c h)
  · rename_i whole fraction _ hp
    rw [hp] at hwhole hfraction
    rcases List.mem_append.1 h with h | h
    · exact hdigit (hwhole c h)
    · rcases List.mem_cons.1 h with rfl | h
      · decide
      · exact hdigit (hfraction c h)

/-- The characters of numerals stand between the minus and the last letter. -/
theorem toNat_of_mem_scriptText {x : Binary64} {c : Char} (h : c ∈ x.scriptText) :
    '-'.toNat ≤ c.toNat ∧ c.toNat ≤ 'z'.toNat := by
  have hsigned : ∀ {negative cs}, (∀ c ∈ cs, '-'.toNat ≤ c.toNat ∧ c.toNat ≤ 'z'.toNat) →
      ∀ c ∈ signed negative cs, '-'.toNat ≤ c.toNat ∧ c.toNat ≤ 'z'.toNat := by
    intro negative cs hcs
    cases negative with
    | true => exact List.forall_mem_cons.2 ⟨by decide, hcs⟩
    | false => exact hcs
  have hletters {cs : List Char}
      (hcs : (cs.all fun c => '-'.toNat ≤ c.toNat ∧ c.toNat ≤ 'z'.toNat) = true) :
      ∀ c ∈ cs, '-'.toNat ≤ c.toNat ∧ c.toNat ≤ 'z'.toNat :=
    fun c hc => of_decide_eq_true (List.all_eq_true.1 hcs c hc)
  cases x with
  | nan => exact hletters (by decide) c h
  | infinite negative => exact hsigned (hletters (by decide)) c h
  | finite x =>
    refine hsigned (fun c hc => ?_) c h
    obtain ⟨hmin, hmax⟩ := toNat_of_mem_plainText hc
    exact ⟨Nat.le_trans (by decide) hmin, Nat.le_trans hmax (by decide)⟩

/-- No numeral holds the letter c, which the words for the infinities and for no number lack. -/
theorem notMem_scriptText (x : Binary64) : 'c' ∉ x.scriptText := by
  have hsigned : ∀ {negative cs}, 'c' ∉ cs → 'c' ∉ signed negative cs := by
    intro negative cs hcs
    cases negative <;> simp [signed, hcs]
  cases x with
  | nan => exact (by decide)
  | infinite negative => exact hsigned (by decide)
  | finite x => exact hsigned fun h => absurd (toNat_of_mem_plainText h).2 (by decide)

theorem scriptText_ne_nil (x : Binary64) : x.scriptText ≠ [] := by
  have hsigned : ∀ {negative cs}, cs ≠ [] → signed negative cs ≠ [] := by
    intro negative cs hcs
    cases negative <;> simp [signed, hcs]
  cases x with
  | nan => exact List.cons_ne_nil _ _
  | infinite negative => exact hsigned (List.cons_ne_nil _ _)
  | finite x =>
    obtain ⟨c, cs, hcs, -⟩ := (Decimal.shortest .up x).exists_plainText
    exact hsigned (by rw [hcs]; exact List.cons_ne_nil _ _)

theorem isWord_scriptText (x : Binary64) : Text.IsWord x.scriptText := by
  refine ⟨scriptText_ne_nil x, fun c hc => Text.isBlank_eq_false ?_⟩
  obtain ⟨hmin, hmax⟩ := toNat_of_mem_scriptText hc
  exact ⟨Nat.le_trans (by decide) hmin, Nat.le_trans hmax (by decide)⟩

end Binary64

end Alerting
