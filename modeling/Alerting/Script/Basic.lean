import Alerting.Config

/-!
# Scripts

A script is a text in some script language.  It compares thresholds and joins conditions, by
operators that have tokens in it.
-/

namespace Alerting

/-- A script. -/
structure Script where
  /-- Its language. -/
  lang : String
  /-- Its text. -/
  source : String
  deriving DecidableEq

namespace Script

/-- The script of a new form: there is a hit. -/
def initial : Script :=
  { lang := defaultScriptLang, source := "ctx.results[0].hits.total.value > 0" }

/-- The names of the members. -/
def names : List String := ["lang", "source"]

instance : Coded Script where
  encode s := .obj [("lang", encode s.lang), ("source", encode s.source)]
  decode? rigour j := do
    let m ← Members.ofRecord? rigour names j
    return {
      lang := ← m.withDefault "lang" defaultScriptLang
      source := ← m.required "source" }

end Script

/-! ### Comparisons and joiners -/

/-- How a measured value is compared with a threshold. -/
inductive Comparison where
  | above
  | below
  | exactly
  deriving DecidableEq

namespace Comparison

instance : Named Comparison where
  all := [.above, .below, .exactly]
  name
    | .above => "ABOVE"
    | .below => "BELOW"
    | .exactly => "EXACTLY"

/-- The operator in scripts. -/
def token : Comparison → String
  | .above => ">"
  | .below => "<"
  | .exactly => "=="

/-- The comparison of an operator. -/
def ofToken? : String → Option Comparison
  | ">" => some .above
  | "<" => some .below
  | "==" => some .exactly
  | _ => none

theorem ofToken?_token (c : Comparison) : ofToken? c.token = some c := by
  cases c <;> rfl

theorem ofToken?_eq_some_iff {t : String} {c : Comparison} : ofToken? t = some c ↔ t = c.token := by
  constructor
  · intro h
    unfold ofToken? at h
    split at h <;> cases h <;> rfl
  · rintro rfl
    exact c.ofToken?_token

end Comparison

/-- How a condition is joined to the ones before it. -/
inductive Joiner where
  | and
  | or
  deriving DecidableEq

namespace Joiner

instance : Named Joiner where
  all := [.and, .or]
  name
    | .and => "AND"
    | .or => "OR"

/-- The operator in scripts. -/
def token : Joiner → String
  | .and => "&&"
  | .or => "||"

/-- The joiner of an operator. -/
def ofToken? : String → Option Joiner
  | "&&" => some .and
  | "||" => some .or
  | _ => none

theorem ofToken?_token (j : Joiner) : ofToken? j.token = some j := by
  cases j <;> rfl

theorem ofToken?_eq_some_iff {t : String} {j : Joiner} : ofToken? t = some j ↔ t = j.token := by
  constructor
  · intro h
    unfold ofToken? at h
    split at h <;> cases h <;> rfl
  · rintro rfl
    exact j.ofToken?_token

/-- Joins two truth values. -/
def eval : Joiner → Bool → Bool → Bool
  | .and, a, b => a && b
  | .or, a, b => a || b

end Joiner

end Alerting
