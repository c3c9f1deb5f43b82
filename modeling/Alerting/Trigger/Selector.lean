import Alerting.Json.Outline
import Alerting.Script.Basic
import Alerting.Script.Chain
import Alerting.Search.Query
import Alerting.Where.PatternFilter

/-!
# Bucket selectors

The stored condition of a bucket trigger: a script over parameters, each bound to a metric of the
groups, and a filter on the groups.
-/

namespace Alerting

/-- The stored condition of a bucket trigger. -/
structure BucketSelector where
  /-- The aggregation whose buckets are selected. -/
  parentPath : String
  /-- The metric of each parameter. -/
  paths : SortedMap String
  /-- The condition on the parameters. -/
  script : Script
  /-- The patterns that the groups have to match. -/
  filter : Option Where.PatternFilter
  deriving DecidableEq

namespace BucketSelector

/-- The names of the members. -/
def names : List String :=
  ["parent_bucket_path", "buckets_path", "script", "composite_agg_filter"]

/-- What a selector takes of its text: its members, and of its script again the members. -/
def outline : Json.Outline :=
  .record [("parent_bucket_path", .whole), ("buckets_path", .whole),
    ("script", .ofNames Script.names), ("composite_agg_filter", .whole)]

instance : Coded BucketSelector where
  encode s := .obj (
    [("parent_bucket_path", encode s.parentPath), ("buckets_path", encode s.paths),
      ("script", encode s.script)]
    ++ optionalMember "composite_agg_filter" s.filter)
  decode? rigour j := do
    let m ← Members.ofRecord? rigour names j
    return {
      parentPath := ← m.required "parent_bucket_path"
      paths := ← m.required "buckets_path"
      script := ← m.required "script"
      filter := ← m.optional "composite_agg_filter" }

/-- The text of a chain, grouped if the settings ask for it. -/
def chainText (config : Config) (c : Chain) : String :=
  if config.parenthesizeBucketConditions then c.renderGrouped else c.render

/-- The selector of a chain and a where clause: every metric is a parameter of its own name. -/
def ofChain (c : Chain) (clause : Where.Clause) (config : Config) : Compile BucketSelector := do
  let filter ← clause.patternFilter?
  return {
    parentPath := groupsName
    paths := .ofList (c.metrics.keys.map fun m => (m, m))
    script := { lang := config.scriptLang, source := chainText config c }
    filter := filter }

/-- Reads a selector written by hand.  Members that no selector has may hold what documents may
not. -/
def parse (text : String) : Compile BucketSelector :=
  match (Json.parse? text <|> Json.parseOutline? outline text).bind (decode? BucketSelector) with
  | some s => .ok s
  | none => .error .querySyntax

/-- A text that is a document is read as that document. -/
theorem parse_of_document {text : String} {j : Json} (h : Json.parse? text = some j) :
    parse text = match decode? BucketSelector j with
      | some s => .ok s
      | none => .error .querySyntax := by
  simp [parse, h]

end BucketSelector

end Alerting
