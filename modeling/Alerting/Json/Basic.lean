import Alerting.Binary64.Text

/-!
# JSON trees

A JSON document as it is written: objects keep the order of their members and may repeat a name.
A number is an integer of up to 64 bits or a finite floating-point number, and the two kinds stay
apart, so `1` and `1.0` are different documents.
-/

namespace Alerting

namespace Json

/-- Whether an integer fits 64 bits, with a sign if it is negative. -/
def fits64 : Int → Bool
  | .ofNat k => k < Nat.pow 2 64
  | .negSucc k => k < Nat.pow 2 63

/-- A number of a JSON document. -/
inductive Number where
  /-- An integer that fits 64 bits, with a sign if it is negative. -/
  | int (n : Int) (fits : fits64 n = true)
  /-- A floating-point number. -/
  | float (x : Finite64)
  deriving DecidableEq

end Json

/-- A JSON document. -/
inductive Json where
  /-- The literal `null`. -/
  | null
  /-- A truth value. -/
  | bool (b : Bool)
  /-- A number. -/
  | num (n : Json.Number)
  /-- A string. -/
  | str (s : String)
  /-- An array. -/
  | arr (items : List Json)
  /-- An object: its members in the order written. -/
  | obj (members : List (String × Json))

namespace Json

namespace Number

/-- The number as a 64-bit floating-point number. -/
def toFinite64? : Number → Option Finite64
  | .int n _ => Finite64.ofInt? n
  | .float x => some x

/-- The integer, if it fits 64 bits. -/
def ofInt? (n : Int) : Option Number :=
  if h : fits64 n = true then some (.int n h) else none

/-- A natural number of 64 bits. -/
def ofUInt64 (n : UInt64) : Number :=
  .int (.ofNat n.toNat) (decide_eq_true n.toNat_lt)

end Number

/-- A natural number of 64 bits as a document. -/
def nat (n : UInt64) : Json := .num (.ofUInt64 n)

/-- An integer as a document; one beyond 64 bits has no number. -/
def int (n : Int) : Json :=
  match Number.ofInt? n with
  | some n => .num n
  | none => .null

/-- A floating-point number as a document; one that is not finite has no number. -/
def float : Binary64 → Json
  | .finite x => .num (.float x)
  | _ => .null

/-- The first member of a name, in an object. -/
def get? (name : String) : Json → Option Json
  | .obj ms => ms.lookup name
  | _ => none

/-- The members of an object. -/
def members? : Json → Option (List (String × Json))
  | .obj ms => some ms
  | _ => none

mutual
/-- Whether two documents are equal. -/
def decEq : (a b : Json) → Decidable (a = b)
  | .null, b => match b with
    | .null => isTrue rfl
    | .bool _ | .num _ | .str _ | .arr _ | .obj _ => isFalse nofun
  | .bool x, b => match b with
    | .bool y => decidable_of_iff (x = y) (by simp)
    | .null | .num _ | .str _ | .arr _ | .obj _ => isFalse nofun
  | .num x, b => match b with
    | .num y => decidable_of_iff (x = y) (by simp)
    | .null | .bool _ | .str _ | .arr _ | .obj _ => isFalse nofun
  | .str x, b => match b with
    | .str y => decidable_of_iff (x = y) (by simp)
    | .null | .bool _ | .num _ | .arr _ | .obj _ => isFalse nofun
  | .arr xs, b => match b with
    | .arr ys => match decEqItems xs ys with
      | isTrue h => isTrue (by rw [h])
      | isFalse h => isFalse (by simpa using h)
    | .null | .bool _ | .num _ | .str _ | .obj _ => isFalse nofun
  | .obj ms, b => match b with
    | .obj ns => match decEqMembers ms ns with
      | isTrue h => isTrue (by rw [h])
      | isFalse h => isFalse (by simpa using h)
    | .null | .bool _ | .num _ | .str _ | .arr _ => isFalse nofun

/-- Whether two lists of documents are equal. -/
def decEqItems : (xs ys : List Json) → Decidable (xs = ys)
  | [], [] => isTrue rfl
  | [], _ :: _ | _ :: _, [] => isFalse nofun
  | x :: xs, y :: ys =>
    match decEq x y, decEqItems xs ys with
    | isTrue h, isTrue hs => isTrue (by rw [h, hs])
    | isFalse h, _ => isFalse (by simp [h])
    | _, isFalse hs => isFalse (by simp [hs])

/-- Whether two lists of members are equal. -/
def decEqMembers : (ms ns : List (String × Json)) → Decidable (ms = ns)
  | [], [] => isTrue rfl
  | [], _ :: _ | _ :: _, [] => isFalse nofun
  | (k, x) :: ms, (l, y) :: ns =>
    match decEq x y, decEqMembers ms ns with
    | isTrue h, isTrue hs =>
      if hk : k = l then isTrue (by rw [h, hs, hk]) else isFalse (by simp [hk])
    | isFalse h, _ => isFalse (by simp [h])
    | _, isFalse hs => isFalse (by simp [hs])
end

instance : DecidableEq Json := decEq

end Json

end Alerting
