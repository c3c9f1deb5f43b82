import Alerting.Binary64.Decimal

/-!
# Numerals

The two written forms of a 64-bit number, both with the fewest digits to which it is the nearest:

* `Binary64.scriptText` is positional whatever the size and has no fraction unless it needs one;
* `Finite64.jsonText` is positional with at least one fraction digit when the exponent of its
  leading digit is at least -5 and below 16, and scientific otherwise.

`Binary64.ofText?` reads the numerals that scripts may hold, to the nearest number.  In JSON text
only the leading digits count (`Numeral.leadingDecimal`).
-/

namespace Alerting

namespace Numeral

/-- The number that decimal digits stand for. -/
def value (ds : List Char) : Nat := ds.foldl (fun n c => 10 * n + (c.toNat - '0'.toNat)) 0

/-- The decimal of whole digits, fraction digits and an exponent. -/
def decimal (whole fraction : List Char) (exponent : Int) : Decimal :=
  ⟨value (whole ++ fraction), exponent - fraction.length⟩

/-- Appends digits to a number up to the first for which 64 bits have no room: the longer number,
and how many digits it took. -/
def append64 (n : Nat) : List Char → Nat × Nat
  | [] => (n, 0)
  | c :: cs =>
    let longer := 10 * n + (c.toNat - '0'.toNat)
    if longer < Nat.pow 2 64 then
      let (longest, taken) := append64 longer cs
      (longest, taken + 1)
    else (n, 0)

/-- The decimal of the leading digits, as many as 64 bits hold of the whole ones and then of the
fraction.  A whole digit left out counts as a zero, a fraction digit left out not at all. -/
def leadingDecimal (whole fraction : List Char) (exponent : Int) : Decimal :=
  let (n, wholes) := append64 0 whole
  let (n, places) := append64 n fraction
  ⟨n, exponent + (whole.length - wholes) - places⟩

/-- The digits that a text starts with, and the rest. -/
def takeDigits (cs : List Char) : List Char × List Char := cs.span Char.isDigit

/-- A fraction, if the text starts with a point: its digits and the rest. -/
def takeFraction : List Char → Option (List Char × List Char)
  | '.' :: cs => some (takeDigits cs)
  | _ => none

/-- A sign, if the text starts with one: whether it is a minus, and the rest. -/
def takeSign : List Char → Bool × List Char
  | '-' :: cs => (true, cs)
  | '+' :: cs => (false, cs)
  | cs => (false, cs)

/-- An exponent with a sign and at least one digit after the letter; absent it is zero, and a letter
without digits is an error. -/
def takeExponent : List Char → Option (Int × List Char)
  | c :: cs =>
    if c = 'e' ∨ c = 'E' then
      let (negative, ds) := takeSign cs
      match takeDigits ds with
      | ([], _) => none
      | (ds, r) => some (if negative then -(value ds) else value ds, r)
    else some (0, c :: cs)
  | [] => some (0, [])

end Numeral

namespace Decimal

/-- The digits. -/
def digitText (d : Decimal) : List Char := Nat.toDigits 10 d.digits

/-- The exponent of the leading digit. -/
def leading (d : Decimal) : Int := d.exponent + d.digitText.length - 1

/-- The digits before and after the decimal point. -/
def positional (d : Decimal) : List Char × List Char :=
  let ds := d.digitText
  if 0 ≤ d.exponent then (ds ++ List.replicate d.exponent.toNat '0', [])
  else
    let places := (-d.exponent).toNat
    if places < ds.length then ds.splitAt (ds.length - places)
    else (['0'], List.replicate (places - ds.length) '0' ++ ds)

/-- Positional, with a point only before digits. -/
def plainText (d : Decimal) : List Char :=
  match d.positional with
  | (whole, []) => whole
  | (whole, fraction) => whole ++ '.' :: fraction

/-- Positional, with at least one digit after the point. -/
def fractionText (d : Decimal) : List Char :=
  match d.positional with
  | (whole, []) => whole ++ ['.', '0']
  | (whole, fraction) => whole ++ '.' :: fraction

/-- One digit before the point and a signed exponent. -/
def scientificText (d : Decimal) : List Char :=
  let mantissa := match d.digitText with
    | [] => []
    | [c] => [c]
    | c :: cs => c :: '.' :: cs
  mantissa ++ 'e' :: (if d.leading < 0 then '-' else '+') :: Nat.toDigits 10 d.leading.natAbs

end Decimal

/-- Puts a minus before a numeral. -/
def signed (negative : Bool) (text : List Char) : List Char :=
  if negative then '-' :: text else text

namespace Finite64

/-- The numeral in scripts; of two equally short and near numerals the larger. -/
def scriptText (x : Finite64) : List Char :=
  signed x.negative (Decimal.shortest .up x).plainText

/-- The numeral in JSON text; of two equally short and near numerals the even one. -/
def jsonText (x : Finite64) : List Char :=
  let d := Decimal.shortest .even x
  signed x.negative (if -5 ≤ d.leading ∧ d.leading < 16 then d.fractionText else d.scientificText)

end Finite64

namespace Binary64

/-- The numeral in scripts. -/
def scriptText : Binary64 → List Char
  | .nan => ['N', 'a', 'N']
  | .infinite negative => signed negative ['i', 'n', 'f']
  | .finite x => x.scriptText

/-- Reads a number without its sign.  Digits may be missing on one side of the point; the words for
the infinities and for no number are read in any case. -/
def ofUnsignedText? (negative : Bool) (cs : List Char) : Option Binary64 :=
  let lower := cs.map Char.toLower
  if lower = ['n', 'a', 'n'] then some .nan
  else if lower = ['i', 'n', 'f'] ∨ lower = ['i', 'n', 'f', 'i', 'n', 'i', 't', 'y'] then
    some (.infinite negative)
  else
    let (whole, r) := Numeral.takeDigits cs
    let (fraction, r) := (Numeral.takeFraction r).getD ([], r)
    if whole.isEmpty && fraction.isEmpty then none
    else match Numeral.takeExponent r with
      | some (exponent, []) =>
        some (.ofDecimal negative (Numeral.decimal whole fraction exponent))
      | _ => none

/-- Reads a number with an optional sign. -/
def ofText? : List Char → Option Binary64
  | '-' :: cs => ofUnsignedText? true cs
  | '+' :: cs => ofUnsignedText? false cs
  | cs => ofUnsignedText? false cs

end Binary64

end Alerting
