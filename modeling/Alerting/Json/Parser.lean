import Alerting.Binary64.Decimal
import Alerting.Json.Basic

/-!
# Reading JSON text

A strict reader: blanks are space, tab, line feed and carriage return, numbers have no superfluous
zeros, strings hold no raw control characters and no half of a surrogate pair, and nothing follows
the document.  Containers may be nested 127 deep.

A number that is no integer of 64 bits is computed in steps that round (`Decimal.scaled?`), so it
may come out as a neighbour of the nearest one.

The reader goes down one unit of fuel with every call.  Each character needs at most two calls, so
the fuel that `Json.parse?` gives is never used up.
-/

namespace Alerting

namespace Json

/-- The blanks between the tokens of a document. -/
def isSpace (c : Char) : Bool := c == ' ' || c == '\t' || c == '\n' || c == '\r'

/-- A text without the blanks at its start. -/
def skipSpace (cs : List Char) : List Char := cs.dropWhile isSpace

/-! ### Strings -/

/-- The value of a hexadecimal digit. -/
def hexDigit? (c : Char) : Option Nat :=
  let n := c.toNat
  if 48 ≤ n && n ≤ 57 then some (n - 48)
  else if 97 ≤ n && n ≤ 102 then some (n - 87)
  else if 65 ≤ n && n ≤ 70 then some (n - 55)
  else none

/-- The number of four hexadecimal digits. -/
def hex4? (a b c d : Char) : Option Nat := do
  return 4096 * (← hexDigit? a) + 256 * (← hexDigit? b) + 16 * (← hexDigit? c) + (← hexDigit? d)

/-- The character of an escape of one letter. -/
def shortEscape? : Char → Option Char
  | '"' => some '"'
  | '\\' => some '\\'
  | '/' => some '/'
  | 'b' => some '\x08'
  | 'f' => some '\x0c'
  | 'n' => some '\n'
  | 'r' => some '\r'
  | 't' => some '\t'
  | _ => none

/-- The character of a code unit that is no half of a surrogate pair. -/
def unitChar? (n : Nat) : Option Char :=
  if 0xD800 ≤ n && n < 0xE000 then none else some (Char.ofNat n)

/-- The character of the two halves of a surrogate pair. -/
def pairChar? (high low : Nat) : Option Char :=
  if 0xD800 ≤ high && high < 0xDC00 && 0xDC00 ≤ low && low < 0xE000 then
    some (Char.ofNat (0x10000 + 1024 * (high - 0xD800) + (low - 0xDC00)))
  else none

/-- Reads a string after its opening quote: its characters, and the text after the closing quote. -/
def readString : List Char → Option (List Char × List Char)
  | [] => none
  | '"' :: r => some ([], r)
  | '\\' :: 'u' :: a :: b :: c :: d :: r =>
    match hex4? a b c d with
    | none => none
    | some n =>
      match unitChar? n with
      | some x => (readString r).map fun (s, r) => (x :: s, r)
      | none =>
        -- Half of a surrogate pair: the other half has to follow.
        match r with
        | '\\' :: 'u' :: e :: f :: g :: h :: r =>
          match (hex4? e f g h).bind (pairChar? n) with
          | some x => (readString r).map fun (s, r) => (x :: s, r)
          | none => none
        | _ => none
  | '\\' :: c :: r =>
    match shortEscape? c with
    | some x => (readString r).map fun (s, r) => (x :: s, r)
    | none => none
  | c :: r =>
    if c = '\\' ∨ c.toNat < 0x20 then none
    else (readString r).map fun (s, r) => (c :: s, r)

/-! ### Numbers -/

/-- The digits before the point: a zero alone, or digits that start with another one. -/
def readWhole (cs : List Char) : Option (List Char × List Char) :=
  match Numeral.takeDigits cs with
  | ([], _) => none
  | ('0' :: _ :: _, _) => none
  | p => some p

/-- The digits after a point, of which there must be some; without a point there are none. -/
def readFraction (cs : List Char) : Option (Option (List Char) × List Char) :=
  match Numeral.takeFraction cs with
  | none => some (none, cs)
  | some ([], _) => none
  | some (ds, r) => some (some ds, r)

/-- Whether a text goes on with an exponent. -/
def startsExponent : List Char → Bool
  | 'e' :: _ | 'E' :: _ => true
  | _ => false

/-- A number as it is written, after its sign. -/
structure NumberText where
  /-- The digits before the point. -/
  whole : List Char
  /-- The digits after the point, if there is one. -/
  fraction : Option (List Char)
  /-- The exponent, if there is one. -/
  exponent : Option Int
  deriving DecidableEq

/-- Reads how a number is written, after its sign. -/
def readNumberText (cs : List Char) : Option (NumberText × List Char) := do
  let (whole, r) ← readWhole cs
  let (fraction, r) ← readFraction r
  let hasExponent := startsExponent r
  let (exponent, r) ← Numeral.takeExponent r
  return (⟨whole, fraction, if hasExponent then some exponent else none⟩, r)

namespace NumberText

/-- The integer that is written, if it is written as one; a negative zero is not. -/
def integer? (negative : Bool) (t : NumberText) : Option Int :=
  let n := Numeral.value t.whole
  if t.fraction.isSome || t.exponent.isSome || (negative && n = 0) then none
  else some (if negative then -n else n)

/-- The floating-point number: the leading digits that 64 bits hold, scaled in steps. -/
def float? (negative : Bool) (t : NumberText) : Option Finite64 :=
  (Numeral.leadingDecimal t.whole (t.fraction.getD []) (t.exponent.getD 0)).scaled? negative

/-- The number: an integer if it is written as one and fits 64 bits, and otherwise a floating-point
number that does not overflow. -/
def number? (negative : Bool) (t : NumberText) : Option Number :=
  match (t.integer? negative).bind Number.ofInt? with
  | some n => some n
  | none => (t.float? negative).map .float

end NumberText

/-- Reads a number after its sign. -/
def readUnsigned (negative : Bool) (cs : List Char) : Option (Number × List Char) := do
  let (t, r) ← readNumberText cs
  return (← t.number? negative, r)

/-- Reads a number. -/
def readNumber : List Char → Option (Number × List Char)
  | '-' :: cs => readUnsigned true cs
  | cs => readUnsigned false cs

/-! ### Documents -/

/-- Reads a name and the colon after it, up to the document that it names. -/
def readName : List Char → Option (String × List Char)
  | '"' :: r => do
    let (k, r) ← readString r
    match skipSpace r with
    | ':' :: r => return (String.ofList k, skipSpace r)
    | _ => none
  | _ => none

mutual
/-- Reads a document that starts here; `depth` more containers may be opened. -/
def readValue (depth : Nat) : Nat → List Char → Option (Json × List Char)
  | 0, _ => none
  | fuel + 1, cs =>
    match cs with
    | 'n' :: 'u' :: 'l' :: 'l' :: r => some (.null, r)
    | 't' :: 'r' :: 'u' :: 'e' :: r => some (.bool true, r)
    | 'f' :: 'a' :: 'l' :: 's' :: 'e' :: r => some (.bool false, r)
    | '"' :: r => (readString r).map fun (s, r) => (.str (String.ofList s), r)
    | '[' :: r =>
      match depth with
      | 0 => none
      | depth + 1 =>
        match skipSpace r with
        | ']' :: r => some (.arr [], r)
        | r => (readItems depth fuel r).map fun (xs, r) => (.arr xs, r)
    | '{' :: r =>
      match depth with
      | 0 => none
      | depth + 1 =>
        match skipSpace r with
        | '}' :: r => some (.obj [], r)
        | r => (readMembers depth fuel r).map fun (ms, r) => (.obj ms, r)
    | cs => (readNumber cs).map fun (n, r) => (.num n, r)

/-- Reads the items of an array up to its end. -/
def readItems (depth : Nat) : Nat → List Char → Option (List Json × List Char)
  | 0, _ => none
  | fuel + 1, cs => do
    let (x, r) ← readValue depth fuel cs
    match skipSpace r with
    | ']' :: r => return ([x], r)
    | ',' :: r =>
      let (xs, r) ← readItems depth fuel (skipSpace r)
      return (x :: xs, r)
    | _ => none

/-- Reads the members of an object up to its end. -/
def readMembers (depth : Nat) : Nat → List Char → Option (List (String × Json) × List Char)
  | 0, _ => none
  | fuel + 1, cs => do
    let (k, r) ← readName cs
    let (v, r) ← readValue depth fuel r
    match skipSpace r with
    | '}' :: r => return ([(k, v)], r)
    | ',' :: r =>
      let (ms, r) ← readMembers depth fuel (skipSpace r)
      return ((k, v) :: ms, r)
    | _ => none
end

/-- The greatest depth of nested containers. -/
def maxDepth : Nat := 127

/-- Reads a text that holds one document and nothing else, with a given way to read it. -/
def parseWhole? (read : List Char → Option (Json × List Char)) (cs : List Char) : Option Json :=
  match read (skipSpace cs) with
  | some (j, r) => if (skipSpace r).isEmpty then some j else none
  | none => none

/-- Reads a text that holds one document. -/
def parse? (s : String) : Option Json :=
  parseWhole? (readValue maxDepth (2 * s.length + 1)) s.toList

end Json

end Alerting
