import Alerting.Proofs.Script.Tokens
import Alerting.Proofs.Text
import Alerting.Trigger.Stored

/-!
# The aggregations that scripts read

A script reads an aggregation by its path in the results.  The path has no blank, so what a script
reads is what is read between its blanks, and what the compiler puts around metrics and numerals
reads nothing.

* `Script.namesIn_append_stop` : a character that no path holds separates what is read.
* `Chain.namesIn_chainText` : the text of a chain reads what its metrics read.
* `Threshold.namesIn_graphSource`, `AnomalyThresholds.namesIn_source` : what the scripts of query
  triggers read.
-/

namespace Alerting

/-! ### Names in texts -/

namespace Script

/-- The characters of the name of an aggregation in a script. -/
def isNameChar (c : Char) : Bool := c.isAlphanum || c == '_'

/-- What stands before the name of an aggregation in a script. -/
def nameStart : List Char := "ctx.results[0].aggregations.".toList

/-- The name of the aggregation whose path a text starts with. -/
def leadingName? (cs : List Char) : Option String :=
  (nameStart.isPrefixOf? cs).map fun rest => String.ofList (rest.takeWhile isNameChar)

/-- The names of the aggregations that a text reads, from left to right. -/
def namesIn : List Char → List String
  | [] => []
  | c :: cs => (leadingName? (c :: cs)).toList ++ namesIn cs

/-- The names of the aggregations that a script reads. -/
def aggregationNames (s : Script) : List String := namesIn s.source.toList

theorem nameStart_eq : nameStart = 'c' :: nameStart.tail := by decide +kernel

/-- A text without the first letter of a path, before another text, reads nothing. -/
theorem namesIn_append_of_notMem (xs ys : List Char) (h : 'c' ∉ xs) :
    namesIn (xs ++ ys) = namesIn ys := by
  induction xs with
  | nil => rfl
  | cons x xs ih =>
    obtain ⟨hx, hxs⟩ := List.ne_and_not_mem_of_not_mem_cons h
    have hnone : leadingName? (x :: (xs ++ ys)) = none := by
      rw [leadingName?, nameStart_eq, List.isPrefixOf?, if_neg (by simpa using hx), Option.map_none]
    rw [List.cons_append, namesIn, hnone, ih hxs]
    rfl

theorem namesIn_eq_nil {xs : List Char} (h : 'c' ∉ xs) : namesIn xs = [] := by
  rw [← List.append_nil xs, namesIn_append_of_notMem xs [] h, namesIn]

section Stop

variable {s : Char} (hstart : s ∉ nameStart) (hname : isNameChar s = false) (xs ys : List Char)

include hstart hname

theorem leadingName?_append_stop : leadingName? (xs ++ s :: ys) = leadingName? xs := by
  have hrest (rest : List Char) :
      (rest ++ s :: ys).takeWhile isNameChar = rest.takeWhile isNameChar := by
    rw [List.takeWhile_append, List.takeWhile_cons_of_neg (by simp [hname]), List.append_nil]
    split
    · rename_i hlength
      exact ((List.takeWhile_prefix isNameChar).eq_of_length hlength).symm
    · rfl
  rw [leadingName?, leadingName?, Text.isPrefixOf?_append_cons hstart, Option.map_map]
  exact congrArg (Option.map · _) (funext fun rest => congrArg String.ofList (hrest rest))

theorem namesIn_append_stop : namesIn (xs ++ s :: ys) = namesIn xs ++ namesIn ys := by
  induction xs with
  | nil =>
    have hnone : leadingName? (s :: ys) = none :=
      (leadingName?_append_stop hstart hname [] ys).trans (by decide +kernel)
    rw [List.nil_append, namesIn, namesIn, hnone]
    rfl
  | cons x xs ih =>
    rw [List.cons_append, namesIn, namesIn, ih, ← List.cons_append,
      leadingName?_append_stop hstart hname, List.append_assoc]

end Stop

theorem namesIn_append_space (xs ys : List Char) :
    namesIn (xs ++ ' ' :: ys) = namesIn xs ++ namesIn ys :=
  namesIn_append_stop (by decide) (by decide) xs ys

/-- What stands between two texts, from a blank on, reads nothing. -/
theorem namesIn_append_separator (xs : List Char) {sep : List Char} (h : 'c' ∉ sep)
    (ys : List Char) : namesIn (xs ++ (' ' :: sep ++ ys)) = namesIn xs ++ namesIn ys := by
  rw [List.cons_append, namesIn_append_space, namesIn_append_of_notMem sep ys h]

theorem namesIn_parenthesized (cs : List Char) :
    namesIn ('(' :: cs ++ [')']) = namesIn cs := by
  have hclose := namesIn_append_stop (s := ')') (by decide) (by decide) cs []
  have hopen := namesIn_append_of_notMem ['('] (cs ++ [')']) (by decide)
  rw [List.cons_append, ← List.singleton_append, hopen, hclose, namesIn, List.append_nil]

/-- What stands between conditions reads nothing. -/
theorem namesIn_intercalate (texts : List String) :
    namesIn (" && ".intercalate texts).toList = texts.flatMap fun t => namesIn t.toList := by
  rw [String.toList_intercalate]
  induction texts with
  | nil => rfl
  | cons t texts ih =>
    cases texts with
    | nil => simp
    | cons u texts =>
      have hjoin (rest : List Char) :
          namesIn (t.toList ++ " && ".toList ++ rest) = namesIn t.toList ++ namesIn rest := by
        rw [List.append_assoc]
        exact namesIn_append_separator t.toList (by decide) rest
      rw [List.map_cons, List.map_cons, List.intercalate_cons_cons, hjoin, ← List.map_cons, ih]
      rfl

theorem namesIn_scriptText (x : Binary64) : namesIn x.scriptText = [] :=
  namesIn_eq_nil x.notMem_scriptText

end Script

open Script

/-! ### Scripts of bucket triggers -/

namespace Chain

/-- A clause reads what its metric reads. -/
theorem Clause.namesIn_render (c : Clause) :
    namesIn c.render.toList = namesIn c.metric.toList := by
  have hcomparison : namesIn c.comparison.token.toList = [] := by
    cases c.comparison <;> decide
  rw [Clause.toList_render, namesIn_append_space, namesIn_append_space, hcomparison,
    namesIn_scriptText, String.toList_append, namesIn_append_of_notMem _ _ (by decide)]
  exact List.append_nil _

theorem namesIn_render (c : Chain) :
    namesIn c.render.toList = c.clauses.flatMap fun x => namesIn x.metric.toList := by
  cases c with
  | empty => rfl
  | of first rest =>
    have hlink (link : Joiner × Clause) :
        linkPieces namesIn link = namesIn link.2.metric.toList := by
      have hjoiner : namesIn link.1.token.toList = [] := by cases link.1 <;> decide
      rw [linkPieces, hjoiner, Clause.namesIn_render, List.nil_append]
    rw [split_render namesIn_append_space, Clause.namesIn_render, funext hlink, clauses,
      List.flatMap_cons, List.flatMap_map]

/-- The text of a chain, grouped or not, reads what its metrics read. -/
theorem namesIn_chainText (config : Config) (c : Chain) :
    namesIn (BucketSelector.chainText config c).toList =
      c.clauses.flatMap fun x => namesIn x.metric.toList := by
  rw [← namesIn_render]
  unfold BucketSelector.chainText
  split
  · exact split_renderGrouped_eq namesIn_append_space namesIn_parenthesized c
  · rfl

end Chain

/-! ### Scripts of query triggers -/

namespace Threshold

/-- A comparison reads what its path reads. -/
theorem namesIn_compare (t : Threshold) (path : String) :
    namesIn (t.compare path).toList = namesIn path.toList := by
  have htext : (t.compare path).toList =
      path.toList ++ ' ' :: (t.comparison.token.toList ++ ' ' :: t.value.scriptText) := by
    simp [compare, String.toList_append]
  have hcomparison : namesIn t.comparison.token.toList = [] := by
    cases t.comparison <;> decide
  rw [htext, namesIn_append_space, namesIn_append_space, hcomparison, namesIn_scriptText]
  exact List.append_nil _

/-- A graph trigger reads the metric, unless it counts hits. -/
theorem namesIn_graphSource (t : Threshold) (a : Aggregation) :
    namesIn (t.graphSource a).toList =
      if a = .count then [] else [metricName, metricName] := by
  by_cases ha : a = .count
  · subst ha
    exact (t.namesIn_compare hitsPath).trans (by decide +kernel)
  · have htext : (t.graphSource a).toList =
        "return ".toList ++ ((aggregationPath metricName ++ ".value").toList ++
          (" == null ? false : ".toList ++
            (t.compare (aggregationPath metricName ++ ".value")).toList)) := by
      cases a <;> simp [graphSource, Aggregation.resultPath, String.toList_append] at ha ⊢
    have hpath : namesIn (aggregationPath metricName ++ ".value").toList = [metricName] := by
      decide +kernel
    have hguard (path rest : List Char) :
        namesIn (path ++ (" == null ? false : ".toList ++ rest)) = namesIn path ++ namesIn rest :=
      namesIn_append_separator path (by decide) rest
    rw [if_neg ha, htext, namesIn_append_of_notMem _ _ (by decide), hguard, namesIn_compare, hpath]
    rfl

end Threshold

namespace AnomalyThresholds

/-- An anomaly trigger reads the highest grade. -/
theorem namesIn_source (a : AnomalyThresholds) :
    namesIn a.source.toList = [gradeName, gradeName, gradeName] := by
  have hguards : (guards.flatMap fun t => namesIn t.toList) = [gradeName, gradeName] := by
    decide +kernel
  have hgrade : namesIn (aggregationPath gradeName ++ ".value").toList = [gradeName] := by
    decide +kernel
  have hconfidence : namesIn (firstHitPath ++ ".confidence").toList = [] := by decide +kernel
  unfold source
  rw [String.toList_append, namesIn_append_of_notMem _ _ (by decide), namesIn_intercalate,
    List.flatMap_append, hguards]
  simp only [List.flatMap_cons, List.flatMap_nil, Threshold.namesIn_compare, hgrade, hconfidence]
  rfl

end AnomalyThresholds

end Alerting
