/-!
# Binary floating-point numbers of 64 bits

A finite number is a sign and a *rank*: its place among the nonnegative finite numbers in
increasing order.  Every one of these is a whole number of units of `2 ^ (-1074)`; below rank
`2 ^ 53` the unit is also the distance to the next number, and above it the distance doubles every
`2 ^ 52` ranks (`Finite64.unitsOfRank`).

`Finite64.nearestRank` rounds a quotient of natural numbers to the nearest rank, a tie to the even
one, so that no arithmetic of the machine is involved.  Order follows sign and rank; the two zeros
are equal in order and different as data.
-/

namespace Alerting

/-- The number of nonnegative finite numbers of 64 bits. -/
def finiteRanks : Nat := 2047 * Nat.pow 2 52

/-- A finite number of 64 bits. -/
structure Finite64 where
  /-- Whether the sign is minus; zero has both signs. -/
  negative : Bool
  /-- The place of the magnitude among the nonnegative finite numbers. -/
  rank : Nat
  /-- There are `finiteRanks` of them. -/
  rank_lt : rank < finiteRanks
  deriving DecidableEq

/-- A number of 64 bits. -/
inductive Binary64 where
  /-- Not a number. -/
  | nan
  /-- One of the infinities. -/
  | infinite (negative : Bool)
  /-- A finite number. -/
  | finite (x : Finite64)
  deriving DecidableEq

namespace Finite64

/-- The magnitude at a rank, in units of `2 ^ (-1074)`. -/
def unitsOfRank (r : Nat) : Nat :=
  let binade := Nat.pow 2 52
  if r < binade then r else (binade + r % binade) * Nat.pow 2 (r / binade - 1)

/-- `num / den` to the nearest whole number, a tie to the even one. -/
def roundHalfEven (num den : Nat) : Nat :=
  let q := num / den
  let twice := 2 * (num % den)
  if twice < den then q
  else if den < twice then q + 1
  else if q % 2 = 0 then q else q + 1

/-- The rank nearest to `num / den`, a tie to the even one; an overflow gives a rank beyond the
last. -/
def nearestRank (num den : Nat) : Nat :=
  let scaled := num * Nat.pow 2 1074
  -- Quotients of fewer than 53 bits keep their last unit: the difference stops at zero.
  let e := Nat.log2 (scaled / den) - 52
  e * Nat.pow 2 52 + roundHalfEven scaled (den * Nat.pow 2 e)

/-- The finite number of a sign and a rank, if there is one. -/
def ofRank? (negative : Bool) (r : Nat) : Option Finite64 :=
  if h : r < finiteRanks then some ⟨negative, r, h⟩ else none

/-- The number nearest to `num / den`, unless it overflows. -/
def nearest? (negative : Bool) (num den : Nat) : Option Finite64 :=
  ofRank? negative (nearestRank num den)

/-- The number nearest to an integer, unless it overflows. -/
def ofInt? (n : Int) : Option Finite64 := nearest? (n < 0) n.natAbs 1

/-- The place among all finite numbers, zero in the middle. -/
def place (x : Finite64) : Int := if x.negative then -x.rank else x.rank

end Finite64

namespace Binary64

/-- The place in the order; one that is not a number has none. -/
def place? : Binary64 → Option Int
  | .nan => none
  | .infinite negative => some (if negative then -finiteRanks else finiteRanks)
  | .finite x => some x.place

/-- Whether both are numbers and the first is less. -/
def less (x y : Binary64) : Bool :=
  match x.place?, y.place? with
  | some a, some b => a < b
  | _, _ => false

/-- Whether it is a finite number. -/
def isFinite : Binary64 → Bool
  | .finite _ => true
  | _ => false

end Binary64

end Alerting
