import Alerting.Trigger.Selector

/-!
# Triggers

A trigger fires when the results of its monitor meet a condition: a script over the whole result, or
a selector over its buckets.
-/

namespace Alerting

/-- The stored condition of a trigger. -/
inductive TriggerCondition where
  /-- A script over the whole result. -/
  | query (script : Script)
  /-- A selector over the buckets. -/
  | bucket (selector : BucketSelector)
  deriving DecidableEq

/-- A stored trigger. -/
structure Trigger where
  /-- The identifier that the backend gave it. -/
  id : Option String
  /-- Its name. -/
  name : String
  /-- Its severity. -/
  severity : String
  /-- When it fires. -/
  condition : TriggerCondition
  /-- What is done then. -/
  actions : List Value
  deriving DecidableEq

namespace Trigger

/-- The members of a trigger, around the document of its condition. -/
def members (t : Trigger) (condition : Json) : Json :=
  .obj (optionalMember "id" t.id
    ++ [("name", encode t.name), ("severity", encode t.severity), ("condition", condition),
      ("actions", encode t.actions)])

/-- Reads the members of a trigger with a given way to read its condition. -/
def ofMembers? (condition : Rigour → Json → Option TriggerCondition) (rigour : Rigour) (j : Json) :
    Option Trigger := do
  let m ← Members.ofRecord? rigour ["id", "name", "severity", "condition", "actions"] j
  return {
    id := ← m.optional "id"
    name := ← m.required "name"
    severity := ← m.required "severity"
    condition := ← condition rigour (← m.get? "condition")
    actions := ← m.withDefault "actions" [] }

/-- Reads the condition of a query trigger. -/
def queryCondition? (rigour : Rigour) (j : Json) : Option TriggerCondition := do
  let m ← Members.ofRecord? rigour ["script"] j
  return .query (← m.required "script")

/-- Reads the condition of a bucket trigger. -/
def bucketCondition? (rigour : Rigour) (j : Json) : Option TriggerCondition :=
  (decodeWith? BucketSelector rigour j).map .bucket

instance : Coded Trigger where
  encode t :=
    match t.condition with
    | .query script =>
      .obj [("query_level_trigger", t.members (.obj [("script", encode script)]))]
    | .bucket selector => .obj [("bucket_level_trigger", t.members (encode selector))]
  decode?
    | rigour, .obj [("query_level_trigger", j)] => ofMembers? queryCondition? rigour j
    | rigour, .obj [("bucket_level_trigger", j)] => ofMembers? bucketCondition? rigour j
    | _, _ => none

end Trigger

end Alerting
