import Alerting.Proofs.Script.Reader

/-!
# The grammar of scripts

What is read is decided by the tokens of a script alone, which stand between parentheses in its
words: three for the first clause and four for each further one with its joiner.  Reading by
positions checks the number of tokens first and then cuts them into parts, and a part or a token
that is asked for is always there.

* `Chain.ofTokensAt?_eq` : reading by positions never leaves the tokens, and reads the same.
* `Chain.parse_reads_spelled` : the scripts that are read, what they are read as, and what is said
  of all others.
-/

namespace Alerting

namespace Chain

/-! ### Reading by positions -/

/-- The part of a list from a position up to another.  There is none if one of them lies beyond the
list, or if they are in the wrong order. -/
def slice? {α : Type} (xs : List α) (start stop : Nat) : Option (List α) :=
  if start ≤ stop ∧ stop ≤ xs.length then some ((xs.drop start).take (stop - start)) else none

/-- Tokens in groups of four, of which the last may be shorter. -/
def groups : List String → List (List String)
  | [] => []
  | j :: m :: c :: t :: rest => [j, m, c, t] :: groups rest
  | short => [short]

/-- Reads a clause at the first three positions, if there are such. -/
def clauseAt? (ts : List String) : Option (Except ScriptFault Clause) := do
  let metric ← ts[0]?
  let comparison ← ts[1]?
  let threshold ← ts[2]?
  return readClause metric comparison threshold

/-- Reads a joiner at the first position and the clause at the three after it. -/
def linkAt? (ts : List String) : Option (Except ScriptFault (Joiner × Clause)) := do
  let joiner ← ts[0]?
  let clause ← clauseAt? (← slice? ts 1 4)
  return do
    let j ← orFault (.notJoiner joiner) (Joiner.ofToken? joiner)
    return (j, ← clause)

/-- Reads the tokens of a chain by their positions.  Outside of the tokens there is no result. -/
def ofTokensAt? (ts : List String) : Option (Except ScriptFault Chain) :=
  if ts.length < 3 ∨ (ts.length - 3) % 4 ≠ 0 then some (.error (.tokenCount ts.length))
  else do
    let first ← clauseAt? (← slice? ts 0 3)
    let links ← (groups (← slice? ts 3 ts.length)).mapM linkAt?
    return do
      return .of (← first) (← links.mapM id)

/-- Reads a script by the positions of its tokens. -/
def parseAt? (script : String) : Option (Compile Chain) :=
  (ofTokensAt? (tokens script)).map (·.mapError (.foreignScript script))

/-! ### Groups of four -/

theorem linkTokens?_eq_none_iff {ts : List String} :
    linkTokens? ts = none ↔ ts.length % 4 ≠ 0 := by
  induction ts using linkTokens?.induct with
  | case1 => simp [linkTokens?]
  | case2 j m c t rest ih =>
    rw [linkTokens?, Option.map_eq_none_iff, ih]
    simp only [List.length_cons]
    omega
  | case3 ts hnil hfour =>
    rw [linkTokens?]
    · -- One, two or three tokens are left.
      rcases ts with _ | ⟨j, _ | ⟨m, _ | ⟨c, _ | ⟨t, rest⟩⟩⟩⟩
      · exact (hnil rfl).elim
      · simp
      · simp
      · simp
      · exact (hfour j m c t rest rfl).elim
    · exact hnil
    · exact hfour

theorem groups_links (links : List LinkTokens) :
    groups (links.flatMap LinkTokens.texts) = links.map LinkTokens.texts := by
  induction links with
  | nil => rfl
  | cons l links ih =>
    rw [List.flatMap_cons, List.map_cons, ← ih]
    rfl

theorem linkAt?_texts (l : LinkTokens) : linkAt? l.texts = some (readLink l) := rfl

theorem mapM_linkAt?_texts (links : List LinkTokens) :
    (links.map LinkTokens.texts).mapM linkAt? = some (links.map readLink) := by
  induction links with
  | nil => rfl
  | cons l links ih => rw [List.map_cons, List.mapM_cons, linkAt?_texts, ih]; rfl

/-- Reading by positions never leaves the tokens, and reads the same. -/
theorem ofTokensAt?_eq (ts : List String) : ofTokensAt? ts = some (ofTokens ts) := by
  match ts with
  | [] | [_] | [_, _] => rfl
  | m :: c :: t :: rest =>
    have hlength : (m :: c :: t :: rest).length = rest.length + 3 := rfl
    unfold ofTokensAt? ofTokens
    rw [hlength, Nat.add_sub_cancel]
    cases hlinks : linkTokens? rest with
    | none =>
      rw [if_pos (.inr (linkTokens?_eq_none_iff.1 hlinks))]
      simp only [hlinks]
    | some links =>
      have hcount : rest.length % 4 = 0 := by
        by_contra hne
        rw [linkTokens?_eq_none_iff.2 hne] at hlinks
        cases hlinks
      have hfirst : slice? (m :: c :: t :: rest) 0 3 = some [m, c, t] := by
        simp [slice?]
      have hrest : slice? (m :: c :: t :: rest) 3 (rest.length + 3) = some rest := by
        simp [slice?]
      have hgroups : (groups rest).mapM linkAt? = some (links.map readLink) := by
        rw [linkTokens?_eq_some_iff.1 hlinks, groups_links, mapM_linkAt?_texts]
      have hclause : clauseAt? [m, c, t] = some (readClause m c t) := rfl
      have hread : (links.map readLink).mapM id = links.mapM readLink :=
        Compile.mapM_congr (fun _ _ h => h)
          (List.forall₂_map_left_iff.2 (List.forall₂_same.2 fun _ _ => rfl))
      rw [if_neg (by omega), hfirst, hrest]
      simp only [Option.bind_eq_bind, Option.bind_some, hclause, hgroups, hread, hlinks]
      rfl

theorem parseAt?_eq (script : String) : parseAt? script = some (parse script) := by
  rw [parseAt?, ofTokensAt?_eq]
  rfl

/-! ### What is read -/

/-- A script is read, or said to be foreign. -/
theorem parse_cases (script : String) :
    (∃ c, parse script = .ok c) ∨ ∃ fault, parse script = .error (.foreignScript script fault) := by
  unfold parse
  cases ofTokens (tokens script) with
  | ok c => exact .inl ⟨c, rfl⟩
  | error fault => exact .inr ⟨fault, rfl⟩

/-- **The grammar of scripts.**  The tokens of a script are what its words hold between parentheses.
A script is read as the chain that its tokens spell.  Where they spell none, the script is said to
be foreign.  No position outside of the tokens is looked at. -/
theorem parse_reads_spelled (script : String) :
    (∀ ts, tokens script = ts ↔ HasTokens script ts) ∧
    (∀ c, parse script = .ok c ↔ c.Spelled (tokens script)) ∧
    ((∃ fault, parse script = .error (.foreignScript script fault)) ↔
      ∀ c : Chain, ¬c.Spelled (tokens script)) ∧
    parseAt? script = some (parse script) := by
  refine ⟨fun ts => tokens_eq_iff, fun c => parse_eq_ok_iff, ?_, parseAt?_eq script⟩
  simp only [← parse_eq_ok_iff]
  constructor
  · rintro ⟨fault, hfault⟩ c hc
    rw [hc] at hfault
    cases hfault
  · intro h
    exact (parse_cases script).resolve_left fun ⟨c, hc⟩ => h c hc

end Chain

end Alerting
