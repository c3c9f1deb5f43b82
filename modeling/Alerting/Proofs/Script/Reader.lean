import Alerting.Proofs.Compile
import Alerting.Proofs.Script.Tokens
import Alerting.Proofs.Text

/-!
# Reading chains

The tokens of a script spell a chain if they are its parameters, operators and numerals in their
order; a number may be spelled in any way that it is read from.

* `Chain.parse_eq_ok_iff` : a script is read as a chain exactly when its tokens spell it.
* `Chain.IsReadable` : the chains that can be read from some script.
* `Chain.parse_render_iff` : a chain comes back from its own text exactly when it is one of them.
-/

namespace Alerting

namespace Chain

/-! ### Spelling -/

/-- Three tokens spell a clause: its parameter, its operator and a finite number. -/
structure Clause.Spelled (c : Clause) (metric comparison threshold : String) : Prop where
  metric : metric = parameterPrefix ++ c.metric
  comparison : comparison = c.comparison.token
  threshold : Binary64.ofText? threshold.toList = some c.threshold
  finite : c.threshold.isFinite = true

namespace LinkTokens

/-- Four tokens spell a joiner and the clause after it. -/
structure Spells (l : LinkTokens) (link : Joiner × Clause) : Prop where
  joiner : l.joiner = link.1.token
  clause : link.2.Spelled l.metric l.comparison l.threshold

/-- The tokens of a joiner and a clause in their order. -/
def texts (l : LinkTokens) : List String := [l.joiner, l.metric, l.comparison, l.threshold]

end LinkTokens

/-- Tokens spell a chain: three a first clause, and four each further one with its joiner. -/
inductive Spelled : Chain → List String → Prop
  | of {first : Clause} {rest : List (Joiner × Clause)} {m c t : String} {links : List LinkTokens} :
    first.Spelled m c t → List.Forall₂ LinkTokens.Spells links rest →
      Spelled (.of first rest) (m :: c :: t :: links.flatMap LinkTokens.texts)

/-! ### What is read -/

theorem orFault_eq_ok {α : Type} {fault : ScriptFault} {o : Option α} {a : α} :
    orFault fault o = .ok a ↔ o = some a := by
  cases o <;> simp [orFault]

theorem readMetric?_eq_some_iff {t m : String} :
    readMetric? t = some m ↔ t = parameterPrefix ++ m :=
  Text.ofList_isPrefixOf?_iff

theorem readThreshold?_eq_some_iff {t : String} {x : Binary64} :
    readThreshold? t = some x ↔ Binary64.ofText? t.toList = some x ∧ x.isFinite = true :=
  Option.filter_eq_some_iff

theorem readClause_eq_ok_iff {m o t : String} {c : Clause} :
    readClause m o t = .ok c ↔ c.Spelled m o t := by
  unfold readClause
  simp only [Compile.bind_eq_ok, Compile.pure_eq_ok, orFault_eq_ok, readMetric?_eq_some_iff,
    Comparison.ofToken?_eq_some_iff, readThreshold?_eq_some_iff]
  constructor
  · rintro ⟨_, hm, _, ho, _, ⟨ht, hfinite⟩, rfl⟩
    exact ⟨hm, ho, ht, hfinite⟩
  · rintro ⟨hm, ho, ht, hfinite⟩
    exact ⟨_, hm, _, ho, _, ⟨ht, hfinite⟩, rfl⟩

theorem readLink_eq_ok_iff {l : LinkTokens} {link : Joiner × Clause} :
    readLink l = .ok link ↔ l.Spells link := by
  unfold readLink
  simp only [Compile.bind_eq_ok, Compile.pure_eq_ok, orFault_eq_ok, readClause_eq_ok_iff,
    Joiner.ofToken?_eq_some_iff]
  constructor
  · rintro ⟨_, hj, _, hc, rfl⟩
    exact ⟨hj, hc⟩
  · rintro ⟨hj, hc⟩
    exact ⟨_, hj, _, hc, rfl⟩

theorem linkTokens?_eq_some_iff {ts : List String} {links : List LinkTokens} :
    linkTokens? ts = some links ↔ ts = links.flatMap LinkTokens.texts := by
  induction ts using linkTokens?.induct generalizing links with
  | case1 => cases links <;> simp [linkTokens?, LinkTokens.texts]
  | case2 j m c t rest ih =>
    simp only [linkTokens?, Option.map_eq_some_iff, ih]
    constructor
    · rintro ⟨links, rfl, rfl⟩
      rfl
    · intro h
      cases links with
      | nil => cases h
      | cons l links =>
        simp only [List.flatMap_cons, LinkTokens.texts, List.cons_append, List.nil_append,
          List.cons.injEq] at h
        obtain ⟨rfl, rfl, rfl, rfl, rfl⟩ := h
        exact ⟨links, rfl, rfl⟩
  | case3 ts hnil hfour =>
    rw [linkTokens?]
    · cases links with
      | nil => simpa using hnil
      | cons l links =>
        simp only [reduceCtorEq, false_iff]
        exact hfour _ _ _ _ _
    · exact hnil
    · exact hfour

/-- Tokens are read as the chain that they spell. -/
theorem ofTokens_eq_ok_iff {ts : List String} {c : Chain} : ofTokens ts = .ok c ↔ c.Spelled ts := by
  constructor
  · intro h
    unfold ofTokens at h
    split at h
    · split at h
      · rename_i links hlinks
        simp only [Compile.bind_eq_ok, Compile.pure_eq_ok, Compile.mapM_eq_ok_iff,
          readClause_eq_ok_iff, readLink_eq_ok_iff] at h
        obtain ⟨first, hfirst, rest, hrest, rfl⟩ := h
        rw [linkTokens?_eq_some_iff.1 hlinks]
        exact .of hfirst hrest
      · cases h
    · cases h
  · rintro ⟨hfirst, hrest⟩
    unfold ofTokens
    simp only [linkTokens?_eq_some_iff.2 rfl, Compile.bind_eq_ok, Compile.pure_eq_ok,
      Compile.mapM_eq_ok_iff, readClause_eq_ok_iff, readLink_eq_ok_iff]
    exact ⟨_, hfirst, _, hrest, rfl⟩

theorem parse_eq_ok_iff {script : String} {c : Chain} :
    parse script = .ok c ↔ c.Spelled (tokens script) :=
  Compile.mapError_eq_ok.trans ofTokens_eq_ok_iff

/-! ### Readable chains -/

/-- A clause that some script is read as. -/
structure Clause.IsReadable (c : Clause) : Prop where
  unspaced : Text.Unspaced c.metric.toList
  unclosed : c.metric.toList.getLast? ≠ some ')'
  finite : c.threshold.isFinite = true

/-- A chain that some script is read as. -/
structure IsReadable (c : Chain) : Prop where
  nonempty : c ≠ .empty
  clauses : ∀ x ∈ c.clauses, x.IsReadable

/-- No token has a blank in it or a parenthesis that closes it. -/
def IsTokenText (t : String) : Prop :=
  Text.Unspaced t.toList ∧ t.toList.getLast? ≠ some ')'

theorem isTokenText_of_mem_tokens {script t : String} (h : t ∈ tokens script) : IsTokenText t := by
  rw [tokens_eq, List.mem_map] at h
  obtain ⟨cs, hcs, rfl⟩ := h
  obtain ⟨w, hw, rfl⟩ := List.mem_map.1 (List.mem_of_mem_filter hcs)
  unfold IsTokenText
  rw [String.toList_ofList]
  exact ⟨unspaced_ungrouped (Text.isWord_of_mem_words hw).2, getLast?_ungrouped w⟩

theorem Clause.Spelled.isReadable {c : Clause} {m o t : String} (h : c.Spelled m o t)
    (hm : IsTokenText m) : c.IsReadable := by
  unfold IsTokenText at hm
  rw [h.metric, String.toList_append] at hm
  refine ⟨(Text.unspaced_append.1 hm.1).2, fun hlast => hm.2 ?_, h.finite⟩
  rw [List.getLast?_append, hlast]
  rfl

theorem isReadable_of_spells {links : List LinkTokens} {rest : List (Joiner × Clause)}
    (h : List.Forall₂ LinkTokens.Spells links rest) (hm : ∀ l ∈ links, IsTokenText l.metric) :
    ∀ link ∈ rest, link.2.IsReadable := by
  induction h with
  | nil => exact nofun
  | cons hl _ ih =>
    rw [List.forall_mem_cons] at hm ⊢
    exact ⟨hl.clause.isReadable hm.1, ih hm.2⟩

/-- What is read from a script is readable. -/
theorem isReadable_of_parse {script : String} {c : Chain} (h : parse script = .ok c) :
    c.IsReadable := by
  have hspelled := parse_eq_ok_iff.1 h
  have htokens : ∀ t ∈ tokens script, IsTokenText t := fun _ => isTokenText_of_mem_tokens
  generalize tokens script = ts at hspelled htokens
  obtain ⟨hfirst, hrest⟩ := hspelled
  refine ⟨nofun, fun x hx => ?_⟩
  rcases List.mem_cons.1 hx with rfl | hx
  · exact hfirst.isReadable (htokens _ (by simp))
  · obtain ⟨link, hlink, rfl⟩ := List.mem_map.1 hx
    refine isReadable_of_spells hrest (fun l hl => htokens _ ?_) link hlink
    simp only [List.mem_cons, List.mem_flatMap]
    exact .inr (.inr (.inr ⟨l, hl, by simp [LinkTokens.texts]⟩))

/-! ### Texts of readable chains -/

namespace Clause

variable {c : Clause}

/-- The parameter of a readable clause is one token. -/
theorem tokenTexts_parameter (h : c.IsReadable) :
    tokenTexts (parameterPrefix ++ c.metric).toList = [(parameterPrefix ++ c.metric).toList] := by
  refine tokenTexts_of_isWord (isWord_parameter h.unspaced) ?_
  rw [String.toList_append]
  refine ungrouped_eq_self ?_ ?_
  · rw [List.head?_append_of_ne_nil _ (by decide)]
    decide
  · rw [List.getLast?_append]
    cases hlast : c.metric.toList.getLast? with
    | none => decide
    | some p => exact fun hp => h.unclosed (hlast.trans hp)

theorem ofText?_threshold (h : c.threshold.isFinite = true) :
    Binary64.ofText? (String.ofList c.threshold.scriptText).toList = some c.threshold := by
  cases hx : c.threshold with
  | finite x => rw [String.toList_ofList, Binary64.ofText?_scriptText]
  | nan | infinite => rw [hx] at h; cases h

/-- A readable clause is spelled by its own text. -/
theorem spelled_render (h : c.IsReadable) :
    c.Spelled (parameterPrefix ++ c.metric) c.comparison.token
      (String.ofList c.threshold.scriptText) :=
  ⟨rfl, rfl, ofText?_threshold h.finite, h.finite⟩

end Clause

/-- The tokens of a joiner and a clause as they are written. -/
def LinkTokens.ofLink (link : Joiner × Clause) : LinkTokens :=
  { joiner := link.1.token
    metric := parameterPrefix ++ link.2.metric
    comparison := link.2.comparison.token
    threshold := String.ofList link.2.threshold.scriptText }

theorem linkPieces_of_isReadable {link : Joiner × Clause} (h : link.2.IsReadable) :
    (linkPieces tokenTexts link).map String.ofList = (LinkTokens.ofLink link).texts := by
  unfold linkPieces
  rw [tokenTexts_joiner, Clause.tokenTexts_render, Clause.tokenTexts_parameter h]
  simp [LinkTokens.texts, LinkTokens.ofLink]

theorem spelled_render {c : Chain} (h : c.IsReadable) : c.Spelled (tokens c.render) := by
  cases c with
  | empty => exact absurd rfl h.nonempty
  | of first rest =>
    have hclauses := List.forall_mem_cons.1 h.clauses
    have hlinks : ∀ link ∈ rest, link.2.IsReadable := fun link hlink =>
      hclauses.2 _ (List.mem_map_of_mem hlink)
    have htokens : tokens (render (.of first rest)) =
        (parameterPrefix ++ first.metric) :: first.comparison.token ::
          String.ofList first.threshold.scriptText ::
            (rest.map LinkTokens.ofLink).flatMap LinkTokens.texts := by
      rw [tokens_eq, split_render tokenTexts_append_space, List.map_append,
        Clause.tokenTexts_render, Clause.tokenTexts_parameter hclauses.1, List.map_flatMap,
        List.flatMap_map]
      rw [List.flatMap_congr fun link hlink => linkPieces_of_isReadable (hlinks link hlink)]
      simp
    rw [htokens]
    refine .of (Clause.spelled_render hclauses.1) (List.forall₂_map_left_iff.2 ?_)
    exact List.forall₂_same.2 fun link hlink => ⟨rfl, Clause.spelled_render (hlinks link hlink)⟩

/-- **A chain is read back from its text** exactly when it has a clause, its metrics have no blank
and end with no parenthesis, and its thresholds are finite. -/
theorem parse_render_iff (c : Chain) : parse c.render = .ok c ↔ c.IsReadable :=
  ⟨isReadable_of_parse, fun h => parse_eq_ok_iff.2 (spelled_render h)⟩

end Chain

end Alerting
