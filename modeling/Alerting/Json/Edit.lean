import Alerting.Json.Value

/-!
# Parts of values

A path leads from a value to a part of it, through members of objects and items of arrays.  A part
is replaced or added by `Value.setAt?`; all of a path but its last step has to exist already.
-/

namespace Alerting

namespace Json

/-- A step from a document to a part of it. -/
inductive Step where
  /-- To the member of a name. -/
  | member (name : String)
  /-- To the item at a place. -/
  | item (index : Nat)
  deriving DecidableEq

/-- The part at a step. -/
def child? : Step → Json → Option Json
  | .member name, .obj ms => ms.lookup name
  | .item i, .arr xs => xs[i]?
  | _, _ => none

/-- The part at the end of a path. -/
def part? : List Step → Json → Option Json
  | [], j => some j
  | s :: path, j => (j.child? s).bind (part? path)

/-- Puts a part at a step: a new or replaced member, a replaced item, or an item after the last. -/
def setChild? (v : Json) : Step → Json → Option Json
  | .member name, .obj ms => some (.obj (SortedMap.insertEntry name v ms))
  | .item i, .arr xs =>
    if i < xs.length then some (.arr (xs.set i v))
    else if i = xs.length then some (.arr (xs ++ [v]))
    else none
  | _, _ => none

/-- Changes the document that holds the end of a path.  The empty path has no such document. -/
def editAt? (edit : Step → Json → Option Json) : List Step → Json → Option Json
  | [], _ => none
  | [s], j => edit s j
  | s :: path, j => do
    let part ← editAt? edit path (← j.child? s)
    setChild? part s j

end Json

namespace Value

/-- The document at the end of a path. -/
def part? (v : Value) (path : List Json.Step) : Option Json := v.json.part? path

/-- Puts a value at the end of a path. -/
def setAt? (v : Value) (path : List Json.Step) (part : Value) : Option Value :=
  (v.json.editAt? (Json.setChild? part.json) path).map .ofJson

end Value

end Alerting
