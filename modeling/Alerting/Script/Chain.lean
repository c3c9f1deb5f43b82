import Alerting.Binary64.Text
import Alerting.Error
import Alerting.Script.Basic

/-!
# Condition chains

A bucket trigger compares metrics with thresholds and joins the comparisons from left to right.  The
form keeps a list of conditions, each with the joiner before it; a `Chain` has the joiners between
the clauses, one fewer than clauses by its shape.

A chain is written as script text in two ways: `Chain.render` puts clauses and joiners side by side,
and `Chain.renderGrouped` puts the left-to-right order into parentheses.
-/

namespace Alerting

/-- A condition of a bucket trigger as the form holds it. -/
structure Condition where
  /-- The metric that is compared. -/
  metric : String
  /-- How it is compared. -/
  comparison : Comparison
  /-- What it is compared with. -/
  threshold : Binary64
  /-- How it is joined to the conditions before it. -/
  joiner : Option Joiner
  deriving DecidableEq

namespace Condition

/-- Reads a joiner; null and the empty string stand for none. -/
def decodeJoiner? (j : Json) : Option (Option Joiner) :=
  match j.canonical with
  | .null | .str "" => some none
  | j => (decode? Joiner j).map some

instance : Coded Condition where
  encode c := .obj (
    [("queryMetric", encode c.metric), ("thresholdEnum", encode c.comparison),
      ("thresholdValue", encode c.threshold)]
    ++ optionalMember "andOrCondition" c.joiner)
  decode? rigour j := do
    let m ← Members.ofRecord? rigour
      ["queryMetric", "thresholdEnum", "thresholdValue", "andOrCondition"] j
    return {
      metric := ← m.required "queryMetric"
      comparison := ← m.required "thresholdEnum"
      threshold := ← m.required "thresholdValue"
      joiner := ← decodeJoiner? ((m.get? "andOrCondition").getD .null) }

end Condition

namespace Chain

/-- A comparison in a script. -/
structure Clause where
  /-- The metric, a parameter of the script. -/
  metric : String
  /-- How it is compared. -/
  comparison : Comparison
  /-- What it is compared with. -/
  threshold : Binary64
  deriving DecidableEq

end Chain

/-- Clauses joined from left to right. -/
inductive Chain where
  /-- No clause. -/
  | empty
  /-- A first clause, and further ones with the joiners before them. -/
  | of (first : Chain.Clause) (rest : List (Joiner × Chain.Clause))
  deriving DecidableEq

namespace Chain

/-- What the name of a parameter starts with in a script. -/
def parameterPrefix : String := "params."

namespace Clause

/-- The clause of a condition. -/
def ofCondition (c : Condition) : Clause :=
  { metric := c.metric, comparison := c.comparison, threshold := c.threshold }

/-- The condition of a clause after a joiner. -/
def toCondition (joiner : Option Joiner) (c : Clause) : Condition :=
  { metric := c.metric, comparison := c.comparison, threshold := c.threshold, joiner := joiner }

/-- A clause as script text. -/
def render (c : Clause) : String :=
  parameterPrefix ++ c.metric ++ " " ++ c.comparison.token ++ " "
    ++ String.ofList c.threshold.scriptText

end Clause

/-! ### Conditions -/

/-- The clauses of the conditions after the first, whose joiners are required; `i` counts the
conditions. -/
def joinedClauses (i : Nat) : List Condition → Compile (List (Joiner × Clause))
  | [] => .ok []
  | c :: cs =>
    match c.joiner with
    | none => refuse (.joinerMissing i)
    | some j => do
      return (j, .ofCondition c) :: (← joinedClauses (i + 1) cs)

/-- The chain of a list of conditions.  The joiner of the first is ignored. -/
def ofConditions : List Condition → Compile Chain
  | [] => .ok .empty
  | c :: cs => do
    return .of (.ofCondition c) (← joinedClauses 1 cs)

/-- The conditions of a chain. -/
def toConditions : Chain → List Condition
  | .empty => []
  | .of first rest => first.toCondition none :: rest.map fun (j, c) => c.toCondition (some j)

/-! ### Parts -/

/-- The clauses. -/
def clauses : Chain → List Clause
  | .empty => []
  | .of first rest => first :: rest.map Prod.snd

/-- The joiners between the clauses. -/
def joiners : Chain → List Joiner
  | .empty => []
  | .of _ rest => rest.map Prod.fst

/-- The metrics. -/
def metrics (c : Chain) : StringSet := .setOf (c.clauses.map Clause.metric)

/-! ### Script text -/

/-- A joiner and the clause after it. -/
def renderLink (link : Joiner × Clause) : String :=
  " " ++ link.1.token ++ " " ++ link.2.render

/-- Clauses and joiners side by side. -/
def render : Chain → String
  | .empty => ""
  | .of first rest => rest.foldl (fun text link => text ++ renderLink link) first.render

/-- Clauses and joiners with all that stands before a joiner in parentheses, unless it is a single
clause. -/
def renderGrouped : Chain → String
  | .empty => ""
  | .of first [] => first.render
  | .of first (link :: rest) =>
    rest.foldl (fun text link => "(" ++ text ++ ")" ++ renderLink link)
      (first.render ++ renderLink link)

end Chain

end Alerting
