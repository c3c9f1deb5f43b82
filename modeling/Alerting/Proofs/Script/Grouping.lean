import Alerting.Proofs.Script.Meaning
import Alerting.Proofs.Script.Reader

/-!
# Parentheses in scripts

Only the texts of chains are meant to be read, but the parentheses at the ends of words are dropped
before anything is read.  So what is read is the plain text of a chain in all but these, blanks and
the spelling of numbers, and a script whose parentheses group the clauses in another way is read as
if they grouped them from left to right.

* `Chain.parse_eq_ok_iff_respells` : the scripts that are read as a chain.
* `Chain.parse_rightGrouped` : a script that means something else than the chain it is read as.
-/

namespace Alerting

namespace Chain

/-- Words that are the same, or spell the same number. -/
def SameWord (t u : String) : Prop :=
  t = u ∨ ∃ x, readThreshold? t = some x ∧ readThreshold? u = some x

/-- Lexemes that are the same, or spell the same number. -/
def SameLexeme (l m : Lexeme) : Prop :=
  l = m ∨ ∃ t u, l = .word t ∧ m = .word u ∧ SameWord t u

/-- Scripts that are the same but for blanks and the spelling of numbers. -/
def Respells (s t : String) : Prop :=
  List.Forall₂ SameLexeme (Lexeme.ofText s.toList) (Lexeme.ofText t.toList)

/-! ### Words that are no numbers -/

theorem SameWord.eq {t u : String} (h : SameWord t u) (hu : readThreshold? u = none) : t = u := by
  rcases h with rfl | ⟨x, -, hx⟩
  · rfl
  · rw [hu] at hx
    cases hx

theorem readThreshold?_comparison (c : Comparison) : readThreshold? c.token = none := by
  cases c <;> decide

theorem readThreshold?_joiner (j : Joiner) : readThreshold? j.token = none := by
  cases j <;> decide

theorem readThreshold?_parameter (metric : String) :
    readThreshold? (parameterPrefix ++ metric) = none := by
  have htext : (parameterPrefix ++ metric).toList =
      'p' :: ("arams.".toList ++ metric.toList) := String.toList_append
  unfold readThreshold?
  rw [htext]
  generalize "arams.".toList ++ metric.toList = cs
  have hdigits : Numeral.takeDigits ('p' :: cs) = ([], 'p' :: cs) := by
    unfold Numeral.takeDigits
    rw [List.span_eq_takeWhile_dropWhile]
    rfl
  have hsigned : Binary64.ofText? ('p' :: cs) = Binary64.ofUnsignedText? false ('p' :: cs) := rfl
  rw [hsigned, Binary64.ofUnsignedText?, List.map_cons, if_neg nofun, if_neg nofun, hdigits]
  rfl

/-! ### Spellings of a chain -/

theorem Clause.Spelled.readThreshold?_eq {c : Clause} {m o t : String} (h : c.Spelled m o t) :
    readThreshold? t = some c.threshold :=
  readThreshold?_eq_some_iff.2 ⟨h.threshold, h.finite⟩

theorem Clause.Spelled.sameWord {c : Clause} {m o t m' o' t' : String} (h : c.Spelled m o t)
    (h' : c.Spelled m' o' t') : SameWord m m' ∧ SameWord o o' ∧ SameWord t t' :=
  ⟨.inl (h.metric.trans h'.metric.symm), .inl (h.comparison.trans h'.comparison.symm),
    .inr ⟨_, h.readThreshold?_eq, h'.readThreshold?_eq⟩⟩

theorem Clause.Spelled.of_sameWord {c : Clause} {m o t m' o' t' : String} (h : c.Spelled m o t)
    (hm : SameWord m' m) (ho : SameWord o' o) (ht : SameWord t' t) : c.Spelled m' o' t' := by
  obtain rfl : m' = m := hm.eq (h.metric ▸ readThreshold?_parameter c.metric)
  obtain rfl : o' = o := ho.eq (h.comparison ▸ readThreshold?_comparison c.comparison)
  rcases ht with rfl | ⟨x, hx', hx⟩
  · exact ⟨h.metric, h.comparison, h.threshold, h.finite⟩
  · rw [← hx, h.readThreshold?_eq] at hx'
    obtain ⟨htext, hfinite⟩ := readThreshold?_eq_some_iff.1 hx'
    exact ⟨h.metric, h.comparison, htext, hfinite⟩

theorem sameWords_of_spells {rest : List (Joiner × Clause)} {links links' : List LinkTokens}
    (h : List.Forall₂ LinkTokens.Spells links rest)
    (h' : List.Forall₂ LinkTokens.Spells links' rest) :
    List.Forall₂ SameWord (links.flatMap LinkTokens.texts) (links'.flatMap LinkTokens.texts) := by
  induction h generalizing links' with
  | nil =>
    cases h'
    exact .nil
  | cons hlink _ ih =>
    obtain ⟨⟩ | ⟨hlink', hrest'⟩ := h'
    obtain ⟨hm, ho, ht⟩ := hlink.clause.sameWord hlink'.clause
    rw [List.flatMap_cons, List.flatMap_cons]
    refine .cons (.inl (hlink.joiner.trans hlink'.joiner.symm)) ?_
    exact .cons hm (.cons ho (.cons ht (ih hrest')))

/-- Spellings of a chain differ in the spelling of numbers only. -/
theorem Spelled.sameWords {c : Chain} {ts us : List String} (ht : c.Spelled ts)
    (hu : c.Spelled us) : List.Forall₂ SameWord ts us := by
  obtain ⟨hfirst, hrest⟩ := ht
  obtain ⟨hfirst', hrest'⟩ := hu
  obtain ⟨hm, ho, ht⟩ := hfirst.sameWord hfirst'
  exact .cons hm (.cons ho (.cons ht (sameWords_of_spells hrest hrest')))

theorem exists_spells_of_sameWords {rest : List (Joiner × Clause)} {links : List LinkTokens}
    {ts : List String} (h : List.Forall₂ LinkTokens.Spells links rest)
    (hwords : List.Forall₂ SameWord ts (links.flatMap LinkTokens.texts)) :
    ∃ links', ts = links'.flatMap LinkTokens.texts ∧
      List.Forall₂ LinkTokens.Spells links' rest := by
  -- The words of a link are taken off four at a time.
  induction h generalizing ts with
  | nil =>
    cases hwords
    exact ⟨[], rfl, .nil⟩
  | @cons l link links rest hlink _ ih =>
    rw [List.flatMap_cons] at hwords
    obtain ⟨⟩ | ⟨hj, ⟨⟩ | ⟨hm, ⟨⟩ | ⟨ho, ⟨⟩ | ⟨ht, hwords⟩⟩⟩⟩ := hwords
    obtain ⟨links', rfl, hlinks⟩ := ih hwords
    have hjoiner := hj.eq (hlink.joiner ▸ readThreshold?_joiner link.1)
    exact ⟨⟨_, _, _, _⟩ :: links', rfl,
      .cons ⟨hjoiner.trans hlink.joiner, hlink.clause.of_sameWord hm ho ht⟩ hlinks⟩

/-- The spelling of numbers does not matter. -/
theorem Spelled.of_sameWords {c : Chain} {ts us : List String} (hu : c.Spelled us)
    (h : List.Forall₂ SameWord ts us) : c.Spelled ts := by
  obtain ⟨hfirst, hrest⟩ := hu
  obtain ⟨⟩ | ⟨hm, ⟨⟩ | ⟨ho, ⟨⟩ | ⟨ht, hwords⟩⟩⟩ := h
  obtain ⟨links', rfl, hlinks⟩ := exists_spells_of_sameWords hrest hwords
  exact .of (hfirst.of_sameWord hm ho ht) hlinks

/-! ### The words of plain texts -/

theorem words_append_space (xs ys : List Char) :
    Text.words (xs ++ ' ' :: ys) = Text.words xs ++ Text.words ys :=
  Text.words_append_blank (by decide) xs ys

/-- The words of a readable clause are its tokens. -/
theorem Clause.words_render {c : Clause} (h : c.IsReadable) :
    Text.words c.render.toList = tokenTexts c.render.toList := by
  have hcomparison : Text.words c.comparison.token.toList = [c.comparison.token.toList] := by
    cases c.comparison <;> decide
  rw [Clause.tokenTexts_render, Clause.tokenTexts_parameter h, Clause.toList_render,
    words_append_space, words_append_space, Text.words_of_isWord (isWord_parameter h.unspaced),
    hcomparison, Text.words_of_isWord c.threshold.isWord_scriptText]
  rfl

theorem words_render {c : Chain} (h : c.IsReadable) :
    (Text.words c.render.toList).map String.ofList = tokens c.render := by
  cases c with
  | empty => exact absurd rfl h.nonempty
  | of first rest =>
    have hclauses := List.forall_mem_cons.1 h.clauses
    have hlinks : ∀ link ∈ rest, linkPieces Text.words link = linkPieces tokenTexts link :=
      fun link hlink => by
        have hjoiner : Text.words link.1.token.toList = [link.1.token.toList] := by
          cases link.1 <;> decide
        rw [linkPieces, linkPieces, hjoiner, tokenTexts_joiner,
          Clause.words_render (hclauses.2 _ (List.mem_map_of_mem hlink))]
    rw [tokens_eq, split_render words_append_space, split_render tokenTexts_append_space,
      Clause.words_render hclauses.1, List.flatMap_congr hlinks]

/-- **What is read.**  A script is read as a chain exactly if the chain is readable and its plain
text has the same words as the script has without the parentheses at the ends of its words; a number
may be spelled in another way. -/
theorem parse_eq_ok_iff_respells (script : String) (c : Chain) :
    parse script = .ok c ↔ c.IsReadable ∧
      List.Forall₂ SameWord (tokens script) ((Text.words c.render.toList).map String.ofList) := by
  constructor
  · intro h
    have hreadable := isReadable_of_parse h
    rw [words_render hreadable]
    exact ⟨hreadable, (parse_eq_ok_iff.1 h).sameWords (spelled_render hreadable)⟩
  · rintro ⟨hreadable, hwords⟩
    rw [words_render hreadable] at hwords
    exact parse_eq_ok_iff.2 ((spelled_render hreadable).of_sameWords hwords)

/-- A script that groups its clauses to the right is read as a chain.  It is neither text of the
chain, and where only the last clause is true, the chain is true and the script is false. -/
theorem parse_rightGrouped :
    let script := "params.a > 1 && (params.b < 2 || params.c == 3)"
    let one : Binary64 := .finite ⟨false, 1023 * Nat.pow 2 52, by decide⟩
    let two : Binary64 := .finite ⟨false, 1024 * Nat.pow 2 52, by decide⟩
    let three : Binary64 := .finite ⟨false, 1024 * Nat.pow 2 52 + Nat.pow 2 51, by decide⟩
    let c : Chain :=
      .of ⟨"a", .above, one⟩ [(.and, ⟨"b", .below, two⟩), (.or, ⟨"c", .exactly, three⟩)]
    parse script = .ok c ∧ ¬Respells script c.render ∧ ¬Respells script c.renderGrouped ∧
      ∃ f : Formula, f.IsReadingOf script ∧ ∃ v, f.eval v = false ∧ c.leftToRight v = true := by
  intro script one two three c
  refine ⟨by decide +kernel, fun h => ?_, fun h => ?_, ?_⟩
  · -- The plain text has no parentheses.
    have hlength : (Lexeme.ofText script.toList).length ≠
        (Lexeme.ofText c.render.toList).length := by decide +kernel
    exact hlength h.length_eq
  · -- The grouped text opens with a parenthesis, the script with a parameter.
    have hword : (Lexeme.ofText script.toList).head? = some (.word "params.a") := by decide +kernel
    have hopening : (Lexeme.ofText c.renderGrouped.toList).head? = some .opening := by
      decide +kernel
    obtain ⟨ls, hls⟩ := List.head?_eq_some_iff.1 hword
    obtain ⟨ms, hms⟩ := List.head?_eq_some_iff.1 hopening
    unfold Respells at h
    rw [hls, hms] at h
    rcases (List.forall₂_cons.1 h).1 with heq | ⟨_, _, -, heq, -⟩ <;> cases heq
  · let first : ClauseWords := ⟨"params.a", ">", "1"⟩
    let second : ClauseWords := ⟨"params.b", "<", "2"⟩
    let third : ClauseWords := ⟨"params.c", "==", "3"⟩
    have hlexemes : Lexeme.ofText script.toList =
        [.word first.metric, .word first.comparison, .word first.threshold] ++ .joiner .and ::
          Lexeme.grouped ([.word second.metric, .word second.comparison, .word second.threshold] ++
            .joiner .or :: [.word third.metric, .word third.comparison, .word third.threshold]) := by
      decide +kernel
    refine ⟨.join .and (.clause first) (.join .or (.clause second) (.clause third)),
      Formula.Reads.isReadingOf ?_, fun i => i == 2, rfl, rfl⟩
    rw [hlexemes]
    have hgroup :=
      (Formula.Reads.clause second).operand.conjunction.or (Formula.Reads.clause third).operand
    exact ((Formula.Reads.clause first).operand.and hgroup.group).conjunction

end Chain

end Alerting
