import Alerting.Proofs.Script.Reader
import Alerting.Proofs.Validation

/-!
# Conditions and chains

The form keeps the joiner of a condition with the condition, a chain keeps it between two clauses.
Neither loses anything of the other but the joiner of the first condition, which joins nothing, and
only conditions without a joiner after the first stand in the way of a chain.

* `Chain.ofConditions_eq_ok_iff` : a list has a chain if the chain has its conditions.
* `Chain.ofConditions_eq_error_iff` : otherwise the first joiner that is missing is named.
* `Chain.ofConditions_of_validateAll` : validation objects to the same one.
* `Chain.canonical_of_parse` : the text of a chain that was read is read as this chain.
-/

namespace Alerting

/-! ### Conditions without joiners -/

namespace Condition

variable {c : Condition} {cs : List Condition} {i k : Nat}

/-- The condition joined to nothing. -/
def unjoined (c : Condition) : Condition := { c with joiner := none }

theorem unjoined_eq_self (h : c.joiner = none) : c.unjoined = c := by
  rw [unjoined, ← h]

/-- A condition after the first has no joiner. -/
def LacksJoiner (cs : List Condition) (i : Nat) : Prop :=
  0 < i ∧ ∃ c, cs[i]? = some c ∧ c.joiner = none

/-- The first of the conditions that lack a joiner. -/
def FirstLacksJoiner (cs : List Condition) (i : Nat) : Prop :=
  LacksJoiner cs i ∧ ∀ k < i, ¬LacksJoiner cs k

theorem exists_firstLacksJoiner_iff :
    (∃ i, FirstLacksJoiner cs i) ↔ ∃ i, LacksJoiner cs i := by
  classical
  constructor
  · exact fun ⟨i, hi⟩ => ⟨i, hi.1⟩
  · exact fun h => ⟨Nat.find h, Nat.find_spec h, fun _ hk => Nat.find_min h hk⟩

/-- The place of the first condition without a joiner. -/
def unjoinedAt? (cs : List Condition) : Option Nat := cs.findIdx? fun c => c.joiner.isNone

theorem unjoinedAt?_cons_of_none (h : c.joiner = none) : unjoinedAt? (c :: cs) = some 0 := by
  simp [unjoinedAt?, List.findIdx?_cons, h]

theorem unjoinedAt?_cons_of_some {j : Joiner} (h : c.joiner = some j) :
    unjoinedAt? (c :: cs) = (unjoinedAt? cs).map (· + 1) := by
  simp [unjoinedAt?, List.findIdx?_cons, h]

/-- Among the conditions after the first, the first one without a joiner is one place earlier. -/
theorem firstLacksJoiner_cons_iff :
    FirstLacksJoiner (c :: cs) i ↔ ∃ k, unjoinedAt? cs = some k ∧ i = k + 1 := by
  have hsucc (k : Nat) : LacksJoiner (c :: cs) (k + 1) ↔
      ∃ h : k < cs.length, (cs[k].joiner.isNone) = true := by
    simp [LacksJoiner, List.getElem?_eq_some_iff]
  have hzero : ¬LacksJoiner (c :: cs) 0 := fun h => absurd h.1 (lt_irrefl 0)
  unfold unjoinedAt?
  simp only [List.findIdx?_eq_some_iff_getElem]
  constructor
  · rintro ⟨hi, hleast⟩
    obtain ⟨k, rfl⟩ := Nat.exists_eq_succ_of_ne_zero hi.1.ne'
    obtain ⟨hk, hnone⟩ := (hsucc k).1 hi
    refine ⟨k, ⟨hk, hnone, fun l hl hl' => ?_⟩, rfl⟩
    exact hleast (l + 1) (Nat.succ_lt_succ hl) ((hsucc l).2 ⟨hl.trans hk, hl'⟩)
  · rintro ⟨k, ⟨hk, hnone, hleast⟩, rfl⟩
    refine ⟨(hsucc k).2 ⟨hk, hnone⟩, fun l hl hl' => ?_⟩
    cases l with
    | zero => exact hzero hl'
    | succ l =>
      obtain ⟨_, hl'⟩ := (hsucc l).1 hl'
      exact hleast l (Nat.lt_of_succ_lt_succ hl) hl'

end Condition

namespace Chain

variable {c : Chain} {cs : List Condition} {i : Nat} {links : List (Joiner × Clause)}
  {e : CompileError}

/-! ### Chains of conditions -/

theorem joinedClauses_eq_ok_iff :
    joinedClauses i cs = .ok links ↔ links.map (fun (j, c) => c.toCondition (some j)) = cs := by
  induction cs generalizing i links with
  | nil => cases links <;> simp [joinedClauses]
  | cons c cs ih =>
    unfold joinedClauses
    cases hj : c.joiner with
    | none =>
      refine ⟨nofun, fun h => ?_⟩
      cases links with
      | nil => cases h
      | cons link links =>
        obtain ⟨rfl, -⟩ := List.cons.inj h
        cases hj
    | some j =>
      simp only [Compile.bind_eq_ok, Compile.pure_eq_ok, ih]
      constructor
      · rintro ⟨links, rfl, rfl⟩
        have hc : (Clause.ofCondition c).toCondition (some j) = c := hj ▸ rfl
        rw [List.map_cons, hc]
      · intro h
        cases links with
        | nil => cases h
        | cons link links =>
          obtain ⟨rfl, hlinks⟩ := List.cons.inj h
          cases hj
          exact ⟨links, hlinks, rfl⟩

theorem joinedClauses_eq_error_iff :
    joinedClauses i cs = .error e ↔
      ∃ k, Condition.unjoinedAt? cs = some k ∧ e = .invalid (.joinerMissing (i + k)) := by
  -- The index counts the conditions before the list, so the induction is for all of them.
  induction cs generalizing i with
  | nil =>
    refine ⟨nofun, ?_⟩
    rintro ⟨_, h, -⟩
    cases h
  | cons c cs ih =>
    unfold joinedClauses
    cases hj : c.joiner with
    | none =>
      simp only [Condition.unjoinedAt?_cons_of_none hj, Option.some.injEq, exists_eq_left', refuse,
        Except.error.injEq, Nat.add_zero]
      exact eq_comm
    | some j =>
      have hsuccess (links : List (Joiner × Clause)) :
          (pure ((j, Clause.ofCondition c) :: links) : Compile _) ≠ .error e := by
        intro h
        cases h
      simp only [Compile.bind_eq_error, hsuccess, and_false, exists_false, or_false, ih,
        Condition.unjoinedAt?_cons_of_some hj, Option.map_eq_some_iff, exists_exists_and_eq_and]
      refine exists_congr fun k => and_congr_right fun _ => ?_
      rw [Nat.add_assoc, Nat.add_comm 1 k]

/-- **The chain of conditions** is the one that has these conditions, but for the joiner of the
first, which is ignored. -/
theorem ofConditions_eq_ok_iff :
    ofConditions cs = .ok c ↔ c.toConditions = cs.modifyHead Condition.unjoined := by
  cases cs with
  | nil => cases c <;> simp [ofConditions, toConditions]
  | cons first cs =>
    unfold ofConditions
    simp only [Compile.bind_eq_ok, Compile.pure_eq_ok, joinedClauses_eq_ok_iff,
      List.modifyHead_cons]
    constructor
    · rintro ⟨links, rfl, rfl⟩
      rfl
    · intro h
      cases c with
      | empty => cases h
      | of head links =>
        obtain ⟨hhead, hlinks⟩ := List.cons.inj h
        obtain rfl : head = Clause.ofCondition first := congrArg Clause.ofCondition hhead
        exact ⟨links, hlinks, rfl⟩

/-- Conditions without a chain lack a joiner, and the first of them that does is named. -/
theorem ofConditions_eq_error_iff :
    ofConditions cs = .error e ↔
      ∃ i, Condition.FirstLacksJoiner cs i ∧ e = .invalid (.joinerMissing i) := by
  cases cs with
  | nil =>
    refine ⟨nofun, ?_⟩
    rintro ⟨_, ⟨⟨-, _, h, -⟩, -⟩, -⟩
    cases h
  | cons first cs =>
    have hsuccess (links : List (Joiner × Clause)) :
        (pure (.of (Clause.ofCondition first) links) : Compile Chain) ≠ .error e := by
      intro h
      cases h
    unfold ofConditions
    simp only [Compile.bind_eq_error, hsuccess, and_false, exists_false, or_false,
      joinedClauses_eq_error_iff, Condition.firstLacksJoiner_cons_iff]
    constructor
    · rintro ⟨k, hk, he⟩
      exact ⟨k + 1, ⟨k, hk, rfl⟩, Nat.add_comm 1 k ▸ he⟩
    · rintro ⟨_, ⟨k, hk, rfl⟩, he⟩
      exact ⟨k, hk, Nat.add_comm 1 k ▸ he⟩

/-! ### Parts of chains and their conditions -/

theorem clauses_eq_map (c : Chain) : c.clauses = c.toConditions.map Clause.ofCondition := by
  cases c with
  | empty => rfl
  | of first rest => simp [clauses, toConditions, Clause.ofCondition, Clause.toCondition]

theorem length_joiners (c : Chain) : c.joiners.length = c.clauses.length - 1 := by
  cases c <;> simp [joiners, clauses]

/-- A chain has one clause for each condition. -/
theorem clauses_of_ofConditions (h : ofConditions cs = .ok c) :
    c.clauses = cs.map Clause.ofCondition := by
  rw [clauses_eq_map, ofConditions_eq_ok_iff.1 h]
  cases cs <;> rfl

/-- A chain has its conditions, if the first of them is not joined to anything. -/
theorem toConditions_of_ofConditions {first : Condition} (h : ofConditions (first :: cs) = .ok c)
    (hfirst : first.joiner = none) : c.toConditions = first :: cs := by
  rw [ofConditions_eq_ok_iff.1 h, List.modifyHead_cons, Condition.unjoined_eq_self hfirst]

theorem isReadable_of_ofConditions (h : ofConditions cs = .ok c) (hne : cs ≠ [])
    (hclauses : ∀ x ∈ cs, (Clause.ofCondition x).IsReadable) : c.IsReadable := by
  have hmap := clauses_of_ofConditions h
  refine ⟨fun he => ?_, fun x hx => ?_⟩
  · rw [he] at hmap
    exact hne (List.map_eq_nil_iff.1 hmap.symm)
  · rw [hmap] at hx
    obtain ⟨y, hy, rfl⟩ := List.mem_map.1 hx
    exact hclauses y hy

/-- The conditions of a chain have it as their chain. -/
theorem ofConditions_toConditions (c : Chain) : ofConditions c.toConditions = .ok c := by
  rw [ofConditions_eq_ok_iff]
  cases c <;> rfl

end Chain

/-! ### Valid conditions -/

namespace Condition

variable {config : Config} {c : Condition} {cs : List Condition} {i k : Nat}

theorem validateAt_eq_joinerMissing (h : c.validateAt i = refuse (.joinerMissing k)) :
    c.joiner = none ∧ 0 < i ∧ k = i := by
  unfold validateAt at h
  rcases Compile.bind_eq_error.1 h with h | ⟨-, -, h⟩
  · cases eq_of_require h
  · split at h
    · cases h
    · cases h
      exact ⟨‹_›, Nat.succ_pos _, rfl⟩
    · cases h

/-- The condition that validation objects to is the first one without a joiner. -/
theorem unjoinedAt?_of_validateFrom (h : validateFrom (i + 1) cs = refuse (.joinerMissing k)) :
    ∃ n, unjoinedAt? cs = some n ∧ k = i + 1 + n := by
  induction cs generalizing i with
  | nil => cases h
  | cons c cs ih =>
    unfold validateFrom at h
    rcases Compile.bind_eq_error.1 h with hc | ⟨_, hc, hcs⟩
    · -- The first condition is objected to, for its joiner and nothing else.
      obtain ⟨hnone, -, rfl⟩ := validateAt_eq_joinerMissing hc
      exact ⟨0, unjoinedAt?_cons_of_none hnone, rfl⟩
    · have hsome : c.joiner ≠ none := mt (validateAt_eq_ok_iff.1 hc).2.1 (Nat.succ_ne_zero i)
      obtain ⟨j, hj⟩ := Option.ne_none_iff_exists'.1 hsome
      obtain ⟨n, hn, rfl⟩ := ih hcs
      refine ⟨n + 1, ?_, by omega⟩
      rw [unjoinedAt?_cons_of_some hj, hn]
      rfl

theorem unjoinedAt?_of_valid (h : validateFrom (i + 1) cs = .ok ()) : unjoinedAt? cs = none := by
  induction cs generalizing i with
  | nil => rfl
  | cons c cs ih =>
    obtain ⟨hc, hcs⟩ := validateFrom_cons_eq_ok_iff.1 h
    have hsome : c.joiner ≠ none := mt (validateAt_eq_ok_iff.1 hc).2.1 (Nat.succ_ne_zero i)
    obtain ⟨j, hj⟩ := Option.ne_none_iff_exists'.1 hsome
    rw [unjoinedAt?_cons_of_some hj, ih hcs]
    rfl

end Condition

namespace Chain

variable {config : Config} {c : Chain} {cs : List Condition}

/-- Valid conditions form a chain. -/
theorem exists_ofConditions (h : Condition.validateAll cs config = .ok ()) :
    ∃ c, ofConditions cs = .ok c := by
  obtain ⟨first, rest, rfl, -, hrest⟩ := Condition.exists_cons_of_validateAll h
  cases hc : ofConditions (first :: rest) with
  | ok c => exact ⟨c, rfl⟩
  | error e =>
    obtain ⟨_, hlacks, -⟩ := ofConditions_eq_error_iff.1 hc
    obtain ⟨k, hk, -⟩ := Condition.firstLacksJoiner_cons_iff.1 hlacks
    rw [Condition.unjoinedAt?_of_valid hrest] at hk
    cases hk

/-- Where validation objects to a missing joiner, the chain fails for the same one. -/
theorem ofConditions_of_validateAll {i : Nat}
    (h : Condition.validateAll cs config = refuse (.joinerMissing i)) :
    ofConditions cs = refuse (.joinerMissing i) := by
  unfold Condition.validateAll at h
  rcases Compile.bind_eq_error.1 h with h | ⟨_, hne, h⟩
  · cases eq_of_require h
  rcases Compile.bind_eq_error.1 h with h | ⟨_, -, h⟩
  · cases eq_of_require h
  cases cs with
  | nil => cases hne
  | cons first rest =>
    rcases Compile.bind_eq_error.1 h with h | ⟨_, -, h⟩
    · -- The first condition needs no joiner.
      exact absurd (Condition.validateAt_eq_joinerMissing h).2.1 (lt_irrefl 0)
    · obtain ⟨n, hn, rfl⟩ := Condition.unjoinedAt?_of_validateFrom h
      have hfirst : Condition.FirstLacksJoiner (first :: rest) (0 + 1 + n) :=
        Condition.firstLacksJoiner_cons_iff.2 ⟨n, hn, by omega⟩
      exact ofConditions_eq_error_iff.2 ⟨_, hfirst, rfl⟩

theorem message_joinerMissing (i : Nat) :
    (CompileError.invalid (.joinerMissing i)).message =
      "validation: triggerConditions[" ++ i.repr ++ "].andOrCondition: must be AND or OR" := by
  have hstart : "validation: triggerConditions[" = "validation: " ++ "triggerConditions[" := by
    decide +kernel
  have hstop : "].andOrCondition: must be AND or OR" =
      "].andOrCondition" ++ ": " ++ "must be AND or OR" := by
    decide +kernel
  calc (CompileError.invalid (.joinerMissing i)).message
    _ = "validation: " ++ ("triggerConditions[" ++ i.repr ++ "].andOrCondition") ++ ": " ++
          "must be AND or OR" := rfl
    _ = _ := by rw [hstart, hstop]; simp only [String.append_assoc]

/-- **Conditions and chains correspond.**  A list has no chain exactly if a condition after the
first lacks its joiner, and the first one that does is named.  The chain of a list has one clause
for each condition, a joiner between any two of them, and the conditions of the list but for the
joiner of the first.  Valid lists have chains with the very same conditions, and a missing joiner
that validation objects to is the one that is named. -/
theorem conditions_correspond (cs : List Condition) :
    ((∃ e, ofConditions cs = .error e) ↔ ∃ i, Condition.LacksJoiner cs i) ∧
    (∀ e, ofConditions cs = .error e → ∃ i, Condition.FirstLacksJoiner cs i ∧
      e = .invalid (.joinerMissing i) ∧
      e.message =
        "validation: triggerConditions[" ++ i.repr ++ "].andOrCondition: must be AND or OR") ∧
    (∀ c, ofConditions cs = .ok c →
      c.clauses.length = cs.length ∧ c.joiners.length = cs.length - 1 ∧
      c.toConditions = cs.modifyHead Condition.unjoined) ∧
    ∀ config,
      (Condition.validateAll cs config = .ok () →
        ∃ c, ofConditions cs = .ok c ∧ c.toConditions = cs) ∧
      ∀ i, Condition.validateAll cs config = refuse (.joinerMissing i) →
        ofConditions cs = refuse (.joinerMissing i) := by
  refine ⟨?_, fun e he => ?_, fun c hc => ?_, fun config => ⟨fun h => ?_, fun i => ?_⟩⟩
  · rw [← Condition.exists_firstLacksJoiner_iff]
    constructor
    · rintro ⟨e, he⟩
      obtain ⟨i, hi, -⟩ := ofConditions_eq_error_iff.1 he
      exact ⟨i, hi⟩
    · rintro ⟨i, hi⟩
      exact ⟨_, ofConditions_eq_error_iff.2 ⟨i, hi, rfl⟩⟩
  · obtain ⟨i, hi, rfl⟩ := ofConditions_eq_error_iff.1 he
    exact ⟨i, hi, rfl, message_joinerMissing i⟩
  · have hlength : c.clauses.length = cs.length := by
      rw [clauses_of_ofConditions hc, List.length_map]
    exact ⟨hlength, hlength ▸ c.length_joiners, ofConditions_eq_ok_iff.1 hc⟩
  · obtain ⟨first, rest, rfl, hfirst, -⟩ := Condition.exists_cons_of_validateAll h
    obtain ⟨c, hc⟩ := exists_ofConditions h
    exact ⟨c, hc, toConditions_of_ofConditions hc hfirst⟩
  · exact ofConditions_of_validateAll

/-- Two conditions that are joined, and two more that lack their joiners. -/
theorem conditions_correspond_unjoined :
    let joined : List Condition :=
      [⟨"errors", .above, .ofDecimal false ⟨1, 0⟩, none⟩,
        ⟨"latency", .below, .ofDecimal false ⟨5, -1⟩, some .or⟩]
    let cs := joined ++ joined.map Condition.unjoined
    (Condition.validateAll joined .initial = .ok () ∧
      ∃ c, ofConditions joined = .ok c ∧ c.toConditions = joined) ∧
    Condition.validateAll cs .initial = refuse (.joinerMissing 2) ∧
      ofConditions cs = refuse (.joinerMissing 2) := by
  intro joined cs
  have hvalid : Condition.validateAll joined .initial = .ok () := by decide +kernel
  have hmissing : Condition.validateAll cs .initial = refuse (.joinerMissing 2) := by
    decide +kernel
  obtain ⟨-, -, -, hjoined⟩ := conditions_correspond joined
  obtain ⟨-, -, -, hcs⟩ := conditions_correspond cs
  exact ⟨⟨hvalid, (hjoined .initial).1 hvalid⟩, hmissing, (hcs .initial).2 2 hmissing⟩

/-! ### Scripts that were read -/

/-- **The text of a chain that was read is canonical.**  However a script is spaced, parenthesized
and its numbers are spelled, the chain that it is read as has a clause, one joiner fewer than
clauses, metrics without blanks and closing parentheses at their ends, and finite thresholds.  It is
the chain of its own conditions, and it is read from both of its texts. -/
theorem canonical_of_parse {script : String} (h : parse script = .ok c) :
    c.clauses ≠ [] ∧ c.joiners.length + 1 = c.clauses.length ∧ (∀ x ∈ c.clauses, x.IsReadable) ∧
      ofConditions c.toConditions = .ok c ∧
      parse c.render = .ok c ∧ parse c.renderGrouped = .ok c := by
  have hreadable := isReadable_of_parse h
  have hne : c.clauses ≠ [] := by
    cases c with
    | empty => exact absurd rfl hreadable.nonempty
    | of first rest => exact List.cons_ne_nil _ _
  have hlength := List.length_pos_iff.2 hne
  have hspelled := spelled_render hreadable
  refine ⟨hne, ?_, hreadable.clauses, c.ofConditions_toConditions, parse_eq_ok_iff.2 hspelled, ?_⟩
  · rw [length_joiners]
    omega
  · rw [parse_eq_ok_iff, tokens_renderGrouped]
    exact hspelled

/-- A script with blanks of several kinds, parentheses at the ends of words and numbers in several
spellings. -/
theorem canonical_of_parse_respelled :
    let script := "((params.p(95 > 1e5)  &&\tparams.load < +1) || (params.host == .5)"
    let c : Chain := .of ⟨"p(95", .above, .ofDecimal false ⟨1, 5⟩⟩
      [(.and, ⟨"load", .below, .ofDecimal false ⟨1, 0⟩⟩),
        (.or, ⟨"host", .exactly, .ofDecimal false ⟨5, -1⟩⟩)]
    parse script = .ok c ∧
      c.render = "params.p(95 > 100000 && params.load < 1 || params.host == 0.5" ∧
      ofConditions c.toConditions = .ok c ∧
      parse c.render = .ok c ∧ parse c.renderGrouped = .ok c := by
  intro script c
  have h : parse script = .ok c := by decide +kernel
  obtain ⟨-, -, -, hconditions, hplain, hgrouped⟩ := canonical_of_parse h
  exact ⟨h, by decide +kernel, hconditions, hplain, hgrouped⟩

end Chain

end Alerting
