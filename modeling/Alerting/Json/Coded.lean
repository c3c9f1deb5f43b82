import Alerting.Json.Value

/-!
# Types with a JSON form

`Coded` gives a type its document form: `encode` writes a value and `decode?` reads one, with no
conversions between kinds of values (no text for numbers, no numbers for truth values).

A record is written as an object.  It is read from an object, in any order and with unknown members
skipped, or from an array of its members in their order; `Members` holds what was found, and says
what the absence of a member means.

A value with a name may be written as an object with that name.  What else may stand beside the name
than null depends on the place of the value in its document, so reading has a `Rigour`.
-/

namespace Alerting

/-- How strictly a document is read. -/
inductive Rigour where
  /-- Beside the name of a value stands null. -/
  | strict
  /-- Beside the name of a value stands null or an empty object. -/
  | lenient
  deriving DecidableEq

/-- Whether a document adds nothing to the name that it stands beside. -/
def Rigour.isNothing : Rigour → Json → Bool
  | _, .null => true
  | .lenient, .obj [] => true
  | _, _ => false

/-- A type with a document form. -/
class Coded (α : Type) where
  /-- Writes a value. -/
  encode : α → Json
  /-- Reads a document that is the form of a value. -/
  decode? : Rigour → Json → Option α

/-- Writes a value. -/
def encode {α : Type} [Coded α] (a : α) : Json := Coded.encode a

/-- Reads a document, with a given rigour, that is the form of a value of a type. -/
def decodeWith? (α : Type) [Coded α] (rigour : Rigour) (j : Json) : Option α :=
  Coded.decode? rigour j

/-- Reads a document that is the form of a value of a type. -/
def decode? (α : Type) [Coded α] (j : Json) : Option α := decodeWith? α .strict j

/-! ### Plain values -/

instance : Coded Bool where
  encode := .bool
  decode?
    | _, .bool b => some b
    | _, _ => none

instance : Coded String where
  encode := .str
  decode?
    | _, .str s => some s
    | _, _ => none

instance : Coded Value where
  encode v := v.json
  decode? _ j := some (.ofJson j)

/-- Reads a natural number below a bound. -/
def decodeNat? (bound : Nat) : Json → Option Nat
  | .num (.int (.ofNat k) _) => if k < bound then some k else none
  | _ => none

instance : Coded UInt8 where
  encode n := .nat n.toUInt64
  decode? _ j := (decodeNat? UInt8.size j).map UInt8.ofNat

instance : Coded UInt32 where
  encode n := .nat n.toUInt64
  decode? _ j := (decodeNat? UInt32.size j).map UInt32.ofNat

instance : Coded UInt64 where
  encode := .nat
  decode? _ j := (decodeNat? UInt64.size j).map UInt64.ofNat

instance : Coded Binary64 where
  encode := .float
  decode?
    | _, .num n => n.toFinite64?.map .finite
    | _, _ => none

/-! ### Containers -/

instance {α : Type} [Coded α] : Coded (List α) where
  encode xs := .arr (xs.map encode)
  decode?
    | rigour, .arr xs => xs.mapM (decodeWith? α rigour)
    | _, _ => none

/-- Reads the documents of all members. -/
def decodeMembers? (α : Type) [Coded α] (rigour : Rigour) :
    List (String × Json) → Option (List (String × α))
  | [] => some []
  | (k, v) :: ms => do
    let v ← decodeWith? α rigour v
    return (k, v) :: (← decodeMembers? α rigour ms)

instance {α : Type} [Coded α] : Coded (SortedMap α) where
  encode m := .obj (m.entries.map fun (k, v) => (k, encode v))
  decode?
    | rigour, .obj ms => (decodeMembers? α rigour ms).map .ofList
    | _, _ => none

/-- An optional value is null when it is absent. -/
instance {α : Type} [Coded α] : Coded (Option α) where
  encode
    | some a => encode a
    | none => .null
  decode?
    | _, .null => some none
    | rigour, j => (decodeWith? α rigour j).map some

/-! ### Named values -/

/-- A type of finitely many values, each with a name. -/
class Named (α : Type) where
  /-- All values. -/
  all : List α
  /-- The name of a value. -/
  name : α → String

/-- The name of a value. -/
def nameOf {α : Type} [Named α] (a : α) : String := Named.name a

/-- The value of a name. -/
def ofName? (α : Type) [Named α] (s : String) : Option α :=
  (Named.all : List α).find? fun a => nameOf a == s

/-- A named value is written as its name, and is also read from an object whose only member has that
name and adds nothing to it. -/
instance (priority := low) {α : Type} [Named α] : Coded α where
  encode a := .str (nameOf a)
  decode?
    | _, .str s => ofName? α s
    | rigour, .obj [(s, j)] => if rigour.isNothing j then ofName? α s else none
    | _, _ => none

/-! ### Records -/

/-- The members found for a record. -/
structure Members where
  /-- The members with known names. -/
  known : List (String × Json)
  /-- Whether they came as an array, where only a member at the end can be absent. -/
  positional : Bool
  /-- How strictly they are read. -/
  rigour : Rigour

namespace Members

/-- The members of an object that have one of the given names, none of them twice. -/
def ofObject? (rigour : Rigour) (names : List String) : Json → Option Members
  | .obj ms =>
    let known := ms.filter fun m => names.contains m.1
    if (known.map Prod.fst).Nodup then some ⟨known, false, rigour⟩ else none
  | _ => none

/-- The members of a record with the given names: of an object, or the items of an array in the
order of the names. -/
def ofRecord? (rigour : Rigour) (names : List String) : Json → Option Members
  | .arr xs => if xs.length ≤ names.length then some ⟨names.zip xs, true, rigour⟩ else none
  | j => ofObject? rigour names j

/-- The same members, read leniently.  So are the fields of a record that stand among the members of
another one. -/
def lenient (m : Members) : Members := { m with rigour := .lenient }

variable {α : Type} [Coded α]

/-- The document of a name. -/
def get? (m : Members) (name : String) : Option Json := m.known.lookup name

/-- A member that must be there. -/
def required (m : Members) (name : String) : Option α := do
  decodeWith? α m.rigour (← m.get? name)

/-- A member that stands for another value when it is absent. -/
def withDefault (m : Members) (name : String) (a : α) : Option α :=
  match m.get? name with
  | some j => decodeWith? α m.rigour j
  | none => some a

/-- A member that need not be there. -/
def optional (m : Members) (name : String) : Option (Option α) := m.withDefault name none

/-- A member that need not be there, except in an array. -/
def optionalByName (m : Members) (name : String) : Option (Option α) :=
  if m.positional then m.required name else m.optional name

end Members

/-- A member that is written when it is there. -/
def optionalMember {α : Type} [Coded α] (name : String) : Option α → List (String × Json)
  | some a => [(name, encode a)]
  | none => []

end Alerting
