import Alerting.Script.Chain
import Alerting.Text.Basic

/-!
# Reading script text

A script that the compiler wrote is read back token by token: three tokens for the first clause, and
four for each further one with its joiner.  Parentheses at the ends of tokens are dropped.
-/

namespace Alerting

namespace Chain

/-- A word without the parentheses that open at its start and close at its end. -/
def ungrouped (w : List Char) : List Char :=
  ((w.dropWhile (· == '(')).reverse.dropWhile (· == ')')).reverse

/-- The tokens of a script. -/
def tokens (script : String) : List String :=
  (((Text.words script.toList).map ungrouped).filter fun t => !t.isEmpty).map String.ofList

/-- The metric of a token that names a parameter. -/
def readMetric? (t : String) : Option String :=
  (parameterPrefix.toList.isPrefixOf? t.toList).map String.ofList

/-- The threshold of a token that is a finite number. -/
def readThreshold? (t : String) : Option Binary64 :=
  (Binary64.ofText? t.toList).filter Binary64.isFinite

/-- A value, or a fault where there is none. -/
def orFault {α : Type} (fault : ScriptFault) : Option α → Except ScriptFault α
  | some a => .ok a
  | none => .error fault

/-- Reads the three tokens of a clause. -/
def readClause (metric comparison threshold : String) : Except ScriptFault Clause := do
  let m ← orFault (.notParameter metric) (readMetric? metric)
  let c ← orFault (.notComparison comparison) (Comparison.ofToken? comparison)
  let v ← orFault (.notFinite threshold) (readThreshold? threshold)
  return { metric := m, comparison := c, threshold := v }

/-- The tokens of a joiner and the clause after it. -/
structure LinkTokens where
  /-- The joiner. -/
  joiner : String
  /-- The parameter. -/
  metric : String
  /-- The comparison. -/
  comparison : String
  /-- The number. -/
  threshold : String

/-- Tokens in groups of four, if their number is a multiple of it. -/
def linkTokens? : List String → Option (List LinkTokens)
  | [] => some []
  | j :: m :: c :: t :: rest =>
    (linkTokens? rest).map (⟨j, m, c, t⟩ :: ·)
  | _ => none

/-- Reads a joiner and the clause after it. -/
def readLink (l : LinkTokens) : Except ScriptFault (Joiner × Clause) := do
  let j ← orFault (.notJoiner l.joiner) (Joiner.ofToken? l.joiner)
  let c ← readClause l.metric l.comparison l.threshold
  return (j, c)

/-- Reads the tokens of a chain. -/
def ofTokens (ts : List String) : Except ScriptFault Chain :=
  match ts with
  | m :: c :: t :: rest =>
    match linkTokens? rest with
    | some links => do
      let first ← readClause m c t
      return .of first (← links.mapM readLink)
    | none => .error (.tokenCount ts.length)
  | _ => .error (.tokenCount ts.length)

/-- Reads a script; the first fault from the left is given. -/
def parse (script : String) : Compile Chain :=
  (ofTokens (tokens script)).mapError (.foreignScript script)

end Chain

end Alerting
