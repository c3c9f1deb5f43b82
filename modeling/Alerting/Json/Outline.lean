import Alerting.Json.Parser

/-!
# Outlines of JSON text

A record skips the members that it does not know.  An `Outline` says which members a reader knows,
and `Json.parseOutline?` reads only these.  What it skips has to be well-formed and no more: a
number may have any size, a string may hold half of a surrogate pair, and containers may be nested
to any depth.

`skip` keeps the containers that are open in a list, so no limit of depth is needed.
-/

namespace Alerting

namespace Json

/-- What a reader takes of a document. -/
inductive Outline where
  /-- All of it. -/
  | whole
  /-- The members of a record with these names, in the order of the record, and of each what its own
  outline says. -/
  | record (members : List (String × Outline))

/-- The outline of a record whose members are taken as a whole. -/
def Outline.ofNames (names : List String) : Outline :=
  .record (names.map fun name => (name, .whole))

/-! ### Skipping -/

/-- Skips a string after its opening quote. -/
def skipString : List Char → Option (List Char)
  | [] => none
  | '"' :: r => some r
  | '\\' :: 'u' :: a :: b :: c :: d :: r => if (hex4? a b c d).isSome then skipString r else none
  | '\\' :: c :: r => if (shortEscape? c).isSome then skipString r else none
  | c :: r => if c = '\\' ∨ c.toNat < 0x20 then none else skipString r

/-- Skips a number. -/
def skipNumber : List Char → Option (List Char)
  | '-' :: cs => (readNumberText cs).map Prod.snd
  | cs => (readNumberText cs).map Prod.snd

/-- Skips a value that is no container. -/
def skipScalar : List Char → Option (List Char)
  | 'n' :: 'u' :: 'l' :: 'l' :: r => some r
  | 't' :: 'r' :: 'u' :: 'e' :: r => some r
  | 'f' :: 'a' :: 'l' :: 's' :: 'e' :: r => some r
  | '"' :: r => skipString r
  | cs => skipNumber cs

/-- What a text goes on with. -/
inductive Awaited where
  /-- A value. -/
  | value
  /-- The name of a member. -/
  | name
  /-- A comma, or the end of a container. -/
  | delimiter

/-- A container that is open. -/
inductive Container where
  | array
  | object

namespace Container

/-- The container that a character opens. -/
def ofOpening? : Char → Option Container
  | '[' => some .array
  | '{' => some .object
  | _ => none

/-- The character that ends a container. -/
def closing : Container → Char
  | .array => ']'
  | .object => '}'

/-- What each item of a container starts with. -/
def inside : Container → Awaited
  | .array => .value
  | .object => .name

end Container

/-- Skips the rest of a value inside open containers, the innermost first.  Every call goes down one
unit of fuel, and all but the last one take a character. -/
def skip : Nat → Awaited → List Container → List Char → Option (List Char)
  | 0, _, _, _ => none
  | fuel + 1, .value, outer, cs =>
    match cs.head?.bind Container.ofOpening? with
    | some c =>
      match skipSpace cs.tail with
      | [] => none
      | x :: r =>
        if x = c.closing then skip fuel .delimiter outer r
        else skip fuel c.inside (c :: outer) (x :: r)
    | none =>
      match skipScalar cs with
      | some r => skip fuel .delimiter outer r
      | none => none
  | fuel + 1, .name, outer, '"' :: r =>
    match (skipString r).map skipSpace with
    | some (':' :: r) => skip fuel .value outer (skipSpace r)
    | _ => none
  | _ + 1, .name, _, _ => none
  | _ + 1, .delimiter, [], cs => some cs
  | fuel + 1, .delimiter, c :: outer, cs =>
    match skipSpace cs with
    | [] => none
    | x :: r =>
      if x = c.closing then skip fuel .delimiter outer r
      else if x = ',' then skip fuel c.inside (c :: outer) (skipSpace r)
      else none

/-- Skips a value. -/
def skipValue (cs : List Char) : Option (List Char) := skip (cs.length + 1) .value [] cs

/-! ### Reading -/

mutual
/-- Reads what an outline takes of the document that starts here. -/
def readOutline (depth : Nat) (outline : Outline) : Nat → List Char → Option (Json × List Char)
  | 0, _ => none
  | fuel + 1, cs =>
    match outline, depth, cs with
    | .record members, depth + 1, '[' :: r =>
      match skipSpace r with
      | ']' :: r => some (.arr [], r)
      | r => (readKnownItems depth (members.map Prod.snd) fuel r).map fun (xs, r) => (.arr xs, r)
    | .record members, depth + 1, '{' :: r =>
      match skipSpace r with
      | '}' :: r => some (.obj [], r)
      | r => (readKnownMembers depth members fuel r).map fun (ms, r) => (.obj ms, r)
    | _, depth, cs => readValue depth (fuel + 1) cs

/-- Reads the items of an array up to its end, each by its outline; there is none for further
items. -/
def readKnownItems (depth : Nat) (outlines : List Outline) :
    Nat → List Char → Option (List Json × List Char)
  | 0, _ => none
  | fuel + 1, cs => do
    let (x, r) ← readOutline depth (outlines.headD .whole) fuel cs
    match skipSpace r with
    | ']' :: r => return ([x], r)
    | ',' :: r =>
      let (xs, r) ← readKnownItems depth outlines.tail fuel (skipSpace r)
      return (x :: xs, r)
    | _ => none

/-- Reads the members of an object up to its end, each by its outline, and skips the others. -/
def readKnownMembers (depth : Nat) (outlines : List (String × Outline)) :
    Nat → List Char → Option (List (String × Json) × List Char)
  | 0, _ => none
  | fuel + 1, cs => do
    let (k, r) ← readName cs
    let (known, r) ← match outlines.lookup k with
      | some outline => (readOutline depth outline fuel r).map fun (v, r) => ([(k, v)], r)
      | none => (skipValue r).map fun r => ([], r)
    match skipSpace r with
    | '}' :: r => return (known, r)
    | ',' :: r =>
      let (ms, r) ← readKnownMembers depth outlines fuel (skipSpace r)
      return (known ++ ms, r)
    | _ => none
end

/-- Reads what an outline takes of a text that holds one document. -/
def parseOutline? (outline : Outline) (s : String) : Option Json :=
  parseWhole? (readOutline maxDepth outline (2 * s.length + 1)) s.toList

end Json

end Alerting
