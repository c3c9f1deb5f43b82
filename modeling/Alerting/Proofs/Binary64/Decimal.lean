import Alerting.Binary64.Decimal
import Mathlib.Tactic.Ring

/-!
# Shortest decimals read back

* `Finite64.nearestRank_of_units` : a quotient that is exactly the magnitude of a rank has that
  rank.
* `Decimal.nearestRank_shortestOfRank` : so the shortest decimal of a rank has it, also where only
  the exact decimal is short enough.
* `Decimal.nearest?_shortest` : the shortest decimal of a number is read as the number.
-/

namespace Alerting

/-! ### Powers -/

theorem two_pow_pos (e : Nat) : 0 < Nat.pow 2 e := Nat.pow_pos (by decide)

theorem ten_pow_pos (e : Nat) : 0 < Nat.pow 10 e := Nat.pow_pos (by decide)

theorem ne_zero_of_two_pow_le {n e : Nat} (h : Nat.pow 2 e ≤ n) : n ≠ 0 :=
  Nat.pos_iff_ne_zero.1 (Nat.lt_of_lt_of_le (two_pow_pos e) h)

theorem le_log2_of_two_pow_le {n e : Nat} (h : Nat.pow 2 e ≤ n) : e ≤ Nat.log2 n :=
  (Nat.le_log2 (ne_zero_of_two_pow_le h)).2 h

theorem mul_five_pow_mul_two_pow (n e : Nat) :
    n * Nat.pow 5 e * Nat.pow 2 e = n * Nat.pow 10 e := by
  rw [Nat.mul_assoc, show Nat.pow 10 e = Nat.pow 5 e * Nat.pow 2 e from Nat.mul_pow 5 2 e]

theorem two_pow_le_five_pow (e : Nat) : Nat.pow 2 (2 * e) ≤ Nat.pow 5 e := by
  rw [show Nat.pow 2 (2 * e) = Nat.pow 4 e from Nat.pow_mul 2 2 e]
  exact Nat.pow_le_pow_left (by decide) e

namespace Finite64

theorem roundHalfEven_mul (q : Nat) {den : Nat} (h : 0 < den) : roundHalfEven (q * den) den = q := by
  simp [roundHalfEven, Nat.mul_mod_left, Nat.mul_div_cancel q h, h]

/-! ### Units of a rank -/

theorem unitsOfRank_of_lt {r : Nat} (h : r < Nat.pow 2 52) : unitsOfRank r = r := if_pos h

theorem unitsOfRank_of_le {r : Nat} (h : Nat.pow 2 52 ≤ r) :
    unitsOfRank r = (Nat.pow 2 52 + r % Nat.pow 2 52) * Nat.pow 2 (r / Nat.pow 2 52 - 1) :=
  if_neg (Nat.not_lt.2 h)

/-- Only the rank of zero has no units. -/
theorem unitsOfRank_pos {r : Nat} (h : 0 < r) : 0 < unitsOfRank r := by
  rcases Nat.lt_or_ge r (Nat.pow 2 52) with hlt | hle
  · rwa [unitsOfRank_of_lt hlt]
  · rw [unitsOfRank_of_le hle]
    exact Nat.mul_pos (Nat.add_pos_left (two_pow_pos 52) _) (two_pow_pos _)

/-- The leading bit of a magnitude tells its binade. -/
theorem log2_unitsOfRank {r : Nat} (h : Nat.pow 2 52 ≤ r) :
    Nat.log2 (unitsOfRank r) = 52 + (r / Nat.pow 2 52 - 1) := by
  have hm : r % Nat.pow 2 52 < Nat.pow 2 52 := Nat.mod_lt _ (two_pow_pos 52)
  have hpos := unitsOfRank_pos (Nat.lt_of_lt_of_le (two_pow_pos 52) h)
  rw [unitsOfRank_of_le h] at hpos ⊢
  generalize r / Nat.pow 2 52 - 1 = k at hpos ⊢
  generalize r % Nat.pow 2 52 = m at hm hpos ⊢
  simp only [Nat.pow_eq] at hm hpos ⊢
  refine (Nat.log2_eq_iff (Nat.pos_iff_ne_zero.1 hpos)).2 ⟨?_, ?_⟩
  · rw [Nat.pow_add]
    exact Nat.mul_le_mul_right _ (Nat.le_add_right _ _)
  · rw [show 52 + k + 1 = 53 + k by omega, Nat.pow_add]
    exact Nat.mul_lt_mul_of_pos_right (by omega) (Nat.pow_pos (by decide))

/-! ### Exact quotients -/

theorem nearestRank_of_units {num den r : Nat} (hden : 0 < den)
    (h : num * Nat.pow 2 1074 = unitsOfRank r * den) : nearestRank num den = r := by
  have hquotient : unitsOfRank r * den / den = unitsOfRank r := Nat.mul_div_cancel _ hden
  unfold nearestRank
  simp only [h, hquotient]
  rcases Nat.lt_or_ge r (Nat.pow 2 52) with hlt | hle
  · -- Below the first binade the units are the rank, and none of them is lost.
    have he : Nat.log2 r - 52 = 0 := by
      rcases Nat.eq_zero_or_pos r with rfl | hr
      · rfl
      · have := (Nat.log2_lt (Nat.pos_iff_ne_zero.1 hr)).2 hlt
        omega
    rw [unitsOfRank_of_lt hlt, he, Nat.zero_mul, Nat.zero_add, show Nat.pow 2 0 = 1 from rfl,
      Nat.mul_one]
    exact roundHalfEven_mul r hden
  · have he : Nat.log2 (unitsOfRank r) - 52 = r / Nat.pow 2 52 - 1 := by
      rw [log2_unitsOfRank hle]
      omega
    have hbinade : 0 < r / Nat.pow 2 52 := Nat.div_pos hle (two_pow_pos 52)
    have hr := Nat.div_add_mod r (Nat.pow 2 52)
    rw [he, unitsOfRank_of_le hle]
    generalize r / Nat.pow 2 52 = k at hbinade hr ⊢
    generalize r % Nat.pow 2 52 = m at hr ⊢
    generalize Nat.pow 2 52 = b at hr ⊢
    rw [show (b + m) * Nat.pow 2 (k - 1) * den = (b + m) * (den * Nat.pow 2 (k - 1)) by ring,
      roundHalfEven_mul _ (Nat.mul_pos hden (two_pow_pos _)), ← hr]
    obtain ⟨k, rfl⟩ : ∃ i, k = i + 1 := ⟨k - 1, by omega⟩
    rw [Nat.add_sub_cancel]
    ring

end Finite64

namespace Decimal

theorem exact_eq (units : Nat) : exact units = ⟨units * Nat.pow 5 1074, -(1074 : Nat)⟩ := rfl

/-- A number of halves to the power of `e`, with all its places, is not far below half a unit. -/
theorem nearestRank_halves {d : Decimal} {n e : Nat} (hn : 0 < n) (he : 0 < e) (hle : e ≤ 1081)
    (hd : d = ⟨n * Nat.pow 5 e, -e⟩) :
    d.nearestRank = Finite64.nearestRank (n * Nat.pow 5 e) (Nat.pow 10 e) := by
  have hdigits : Nat.pow 2 (2 * e) ≤ n * Nat.pow 5 e :=
    Nat.le_trans (two_pow_le_five_pow e) (Nat.le_mul_of_pos_left _ hn)
  have hlog := le_log2_of_two_pow_le hdigits
  have htoNat : (- -(e : Int)).toNat = e := by omega
  unfold nearestRank
  simp only [hd, htoNat]
  rw [if_neg (ne_zero_of_two_pow_le hdigits), if_neg (by omega), if_neg (by omega),
    if_neg (by omega)]

/-- The decimal of all places of a rank has it. -/
theorem nearestRank_places {d : Decimal} {r e : Nat} (hr : 0 < r) (he : e = 1074)
    (hd : d = ⟨Finite64.unitsOfRank r * Nat.pow 5 e, -e⟩) : d.nearestRank = r := by
  rw [nearestRank_halves (Finite64.unitsOfRank_pos hr) (by omega) (by omega) hd]
  refine Finite64.nearestRank_of_units (ten_pow_pos e) ?_
  rw [← he, mul_five_pow_mul_two_pow]

theorem nearestRank_exact {r : Nat} (h : 0 < r) :
    (exact (Finite64.unitsOfRank r)).nearestRank = r := by
  refine nearestRank_places h ?_ (exact_eq _)
  rfl

/-- Every candidate is checked, and the exact decimal is none that needs to be. -/
theorem nearestRank_shortestOfRank (tie : Tie) (r : Nat) :
    (shortestOfRank tie r).nearestRank = r := by
  unfold shortestOfRank
  split
  · rename_i hr
    rw [hr]
    rfl
  · rename_i hr
    cases hfound : (List.range 17).findSome? fun i =>
        (neighbours tie (Finite64.unitsOfRank r) (i + 1)).find? fun d => d.nearestRank == r with
    | none =>
      simp only [hfound, Option.getD_none]
      exact nearestRank_exact (Nat.pos_of_ne_zero hr)
    | some d =>
      obtain ⟨i, -, hd⟩ := List.exists_of_findSome?_eq_some hfound
      have hrank := List.find?_some hd
      simp only [hfound, Option.getD_some]
      exact eq_of_beq hrank

theorem nearest?_shortest (tie : Tie) (x : Finite64) :
    (shortest tie x).nearest? x.negative = some x := by
  unfold nearest? shortest Finite64.ofRank?
  rw [nearestRank_shortestOfRank, dif_pos x.rank_lt]

end Decimal

end Alerting
