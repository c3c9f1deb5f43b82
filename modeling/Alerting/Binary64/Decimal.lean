import Alerting.Binary64.Basic

/-!
# Decimals of 64-bit numbers

`Decimal.nearest?` reads a decimal as the nearest 64-bit number.  `Decimal.shortest` goes the other
way: the fewest digits that read back as the number, and of those the decimal nearest to it; which
neighbour is taken when both are equally near is a parameter.

The search tries one to seventeen digits and checks every candidate by reading it; the exact decimal
stands last, so that whatever comes out reads back.

`Decimal.scaled?` computes the number of a decimal from its digits in steps, each of which rounds:
the digits become a number, and that is multiplied or divided by the number of a power of ten.  Ten
has the powers up to `10 ^ 308`; below `10 ^ (-308)` a second division follows.  While the digits
are at most `2 ^ 53` and the power at most `10 ^ 22`, both are exact and the answer is the nearest
number.  Elsewhere it may be a unit or two away from it, and a decimal just below the overflow may
overflow.
-/

namespace Alerting

/-- The nonnegative decimal `digits * 10 ^ exponent`. -/
structure Decimal where
  /-- All digits, as one whole number. -/
  digits : Nat
  /-- The power of ten that the last digit counts. -/
  exponent : Int
  deriving DecidableEq

namespace Decimal

/-- The nearest rank.  Exponents beyond every finite number are decided without writing the power of
ten out. -/
def nearestRank (d : Decimal) : Nat :=
  if d.digits = 0 then 0
  -- Far beyond the last number, and far below half a unit.
  else if 400 < d.exponent then finiteRanks
  else if Nat.log2 d.digits + 1 + 3 * d.exponent < -1080 then 0
  else if 0 ≤ d.exponent then Finite64.nearestRank (d.digits * Nat.pow 10 d.exponent.toNat) 1
  else Finite64.nearestRank d.digits (Nat.pow 10 (-d.exponent).toNat)

/-- The nearest 64-bit number with a sign, unless the decimal is beyond them. -/
def nearest? (negative : Bool) (d : Decimal) : Option Finite64 :=
  Finite64.ofRank? negative d.nearestRank

/-- The same decimal without zeros at the end of its digits. -/
def trimmed (d : Decimal) : Decimal :=
  if h : d.digits ≠ 0 ∧ d.digits % 10 = 0 then trimmed ⟨d.digits / 10, d.exponent + 1⟩ else d
termination_by d.digits
decreasing_by exact Nat.div_lt_self (Nat.pos_of_ne_zero h.1) (by decide)

/-- Which of two equally near decimals is taken. -/
inductive Tie where
  /-- The larger one. -/
  | up
  /-- The one with an even last digit. -/
  | even
  deriving DecidableEq

/-- The number of decimal digits. -/
def digitCount (n : Nat) : Nat := (Nat.toDigits 10 n).length

/-- The exponent of the leading digit of a positive number of units. -/
def leadingExponent (units : Nat) : Int :=
  digitCount (units * Nat.pow 10 330 / Nat.pow 2 1074) - 331

/-- The two decimals of at most `n` digits around a positive number of units, the nearer one
first. -/
def neighbours (tie : Tie) (units n : Nat) : List Decimal :=
  let e := leadingExponent units + 1 - n
  let num := if 0 ≤ e then units else units * Nat.pow 10 (-e).toNat
  let den := if 0 ≤ e then Nat.pow 2 1074 * Nat.pow 10 e.toNat else Nat.pow 2 1074
  let below := num / den
  let lower : Decimal := trimmed ⟨below, e⟩
  let upper : Decimal := trimmed ⟨below + 1, e⟩
  let twice := 2 * (num % den)
  if twice < den then [lower, upper]
  else if den < twice then [upper, lower]
  else match tie with
    | .up => [upper, lower]
    | .even => if below % 2 = 0 then [lower, upper] else [upper, lower]

/-- The exact decimal of a number of units: a unit is `5 ^ 1074` in the last of 1074 places. -/
def exact (units : Nat) : Decimal := ⟨units * Nat.pow 5 1074, -1074⟩

/-- The shortest decimal that reads back as a rank. -/
def shortestOfRank (tie : Tie) (r : Nat) : Decimal :=
  if r = 0 then ⟨0, 0⟩
  else
    let units := Finite64.unitsOfRank r
    ((List.range 17).findSome? fun i =>
      (neighbours tie units (i + 1)).find? fun d => d.nearestRank == r).getD (exact units)

/-- The shortest decimal that reads back as the magnitude of a number. -/
def shortest (tie : Tie) (x : Finite64) : Decimal := shortestOfRank tie x.rank

end Decimal

/-- The number nearest to a decimal with a sign, or an infinity beyond them. -/
def Binary64.ofDecimal (negative : Bool) (d : Decimal) : Binary64 :=
  match d.nearest? negative with
  | some x => .finite x
  | none => .infinite negative

/-! ### Numbers computed in steps -/

namespace Finite64

/-- The rank of the rounded product of the numbers at two ranks. -/
def mulRank (r s : Nat) : Nat := nearestRank (unitsOfRank r * unitsOfRank s) (Nat.pow 2 2148)

/-- The rank of the rounded quotient of the numbers at two ranks, the second one not zero. -/
def divRank (r s : Nat) : Nat := nearestRank (unitsOfRank r) (unitsOfRank s)

/-- The greatest power of ten below the overflow. -/
def maxPower : Nat := 308

/-- The rank of a power of ten. -/
def powerRank (k : Nat) : Nat := nearestRank (Nat.pow 10 k) 1

end Finite64

namespace Decimal

open Finite64

/-- The rank computed in steps; an overflow gives a rank beyond the last. -/
def scaledRank (d : Decimal) : Nat :=
  let r := Finite64.nearestRank d.digits 1
  let power := d.exponent.natAbs
  if d.digits = 0 then 0
  else if 0 ≤ d.exponent then
    if power ≤ maxPower then mulRank r (powerRank power) else finiteRanks
  else if power ≤ maxPower then divRank r (powerRank power)
  else if power ≤ 2 * maxPower then
    divRank (divRank r (powerRank maxPower)) (powerRank (power - maxPower))
  else 0

/-- The 64-bit number computed in steps, with a sign, unless it overflows. -/
def scaled? (negative : Bool) (d : Decimal) : Option Finite64 :=
  Finite64.ofRank? negative d.scaledRank

end Decimal

end Alerting
