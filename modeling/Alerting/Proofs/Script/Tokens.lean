import Alerting.Proofs.Binary64.Text
import Alerting.Proofs.Text
import Alerting.Script.Reader
import Mathlib.Data.List.Forall2

/-!
# Tokens of scripts

The tokens of a script are its words without the parentheses at their ends, so a pair of parentheses
around a text does not change them.

* `Chain.tokens_eq_iff` : the tokens of a script, with the parentheses around them.
* `Chain.split_render`, `Chain.split_renderGrouped` : what is cut at blanks is cut between clauses
  and joiners.
* `Chain.Clause.tokenTexts_render` : the tokens of a clause, whatever its metric is.
* `Chain.tokens_renderGrouped` : the grouped text has the same tokens.
-/

namespace Alerting

namespace Chain

/-! ### Words without parentheses -/

/-- The texts of the tokens of a text. -/
def tokenTexts (cs : List Char) : List (List Char) :=
  ((Text.words cs).map ungrouped).filter fun t => !t.isEmpty

theorem tokens_eq (script : String) :
    tokens script = (tokenTexts script.toList).map String.ofList := rfl

theorem ungrouped_open (w : List Char) : ungrouped ('(' :: w) = ungrouped w := rfl

theorem ungrouped_close (w : List Char) : ungrouped (w ++ [')']) = ungrouped w := by
  have hclose : List.dropWhile (· == '(') [')'] = [')'] := rfl
  unfold ungrouped
  rw [List.dropWhile_append]
  split
  · rename_i hempty
    rw [List.isEmpty_iff.1 hempty, hclose]
    rfl
  · rw [List.reverse_append]
    rfl

/-- A word that no parenthesis opens or closes is a token. -/
theorem ungrouped_eq_self {w : List Char} (hopen : w.head? ≠ some '(')
    (hclose : w.getLast? ≠ some ')') : ungrouped w = w := by
  have hstart : ∀ {p : Char} {cs : List Char}, cs.head? ≠ some p → cs.dropWhile (· == p) = cs := by
    intro p cs h
    cases cs with
    | nil => rfl
    | cons c cs =>
      refine List.dropWhile_cons_of_neg ?_
      simpa using h
  unfold ungrouped
  rw [hstart hopen, hstart (by rwa [List.head?_reverse]), List.reverse_reverse]

/-- What a token is: a part of a word that no parenthesis closes. -/
theorem unspaced_ungrouped {w : List Char} (h : Text.Unspaced w) : Text.Unspaced (ungrouped w) := by
  intro c hc
  have hdrop := List.dropWhile_suffix (· == ')') |>.subset (List.mem_reverse.1 hc)
  exact h c ((List.dropWhile_suffix (· == '(')).subset (List.mem_reverse.1 hdrop))

theorem getLast?_ungrouped (w : List Char) : (ungrouped w).getLast? ≠ some ')' := by
  unfold ungrouped
  rw [List.getLast?_reverse]
  intro h
  have := List.head?_dropWhile_not (· == ')') (w.dropWhile (· == '(')).reverse
  rw [h] at this
  simp at this

theorem tokenTexts_append_blank {c : Char} (h : Text.isBlank c = true) (xs ys : List Char) :
    tokenTexts (xs ++ c :: ys) = tokenTexts xs ++ tokenTexts ys := by
  unfold tokenTexts
  rw [Text.words_append_blank h, List.map_append, List.filter_append]

theorem tokenTexts_of_isWord {w : List Char} (h : Text.IsWord w) (hu : ungrouped w = w) :
    tokenTexts w = [w] := by
  unfold tokenTexts
  rw [Text.words_of_isWord h, List.map_singleton, hu, List.filter_cons_of_pos (by simpa using h.1),
    List.filter_nil]

/-- An empty word is no token. -/
theorem tokenTexts_consWord (w : List Char) (ws : List (List Char)) :
    ((Text.consWord w ws).map ungrouped).filter (fun t => !t.isEmpty) =
      ((w :: ws).map ungrouped).filter fun t => !t.isEmpty := by
  cases w <;> rfl

theorem tokenTexts_open (cs : List Char) : tokenTexts ('(' :: cs) = tokenTexts cs := by
  unfold tokenTexts
  rw [Text.words_cons (by decide), Text.words_eq, tokenTexts_consWord, List.map_cons,
    ungrouped_open, List.map_cons]

theorem tokenTexts_close (cs : List Char) : tokenTexts (cs ++ [')']) = tokenTexts cs := by
  obtain ⟨ws, w, hws, hclose⟩ := Text.exists_words_concat cs
  unfold tokenTexts
  rw [hws, hclose ')' (by decide), List.map_append, List.map_append, List.filter_append,
    List.filter_append, tokenTexts_consWord, List.map_singleton, ungrouped_close,
    List.map_singleton]

/-! ### What the tokens of a script are -/

/-- A word holds a text between parentheses: those before it open, those after it close, and it
begins with none of the former and ends with none of the latter. -/
structure Encloses (w t : List Char) : Prop where
  around : ∃ opened closed, w = List.replicate opened '(' ++ (t ++ List.replicate closed ')')
  head : t.head? ≠ some '('
  last : t.getLast? ≠ some ')'

/-- The tokens of a script: what its words hold between parentheses, unless that is empty. -/
def HasTokens (script : String) (ts : List String) : Prop :=
  ∃ words texts, Text.SplitsInto script.toList words ∧ List.Forall₂ Encloses words texts ∧
    ts = (texts.filter fun t => !t.isEmpty).map String.ofList

theorem exists_eq_replicate_append_dropWhile (p : Char) (cs : List Char) :
    ∃ n, cs = List.replicate n p ++ cs.dropWhile (· == p) := by
  have htake : cs.takeWhile (· == p) = List.replicate (cs.takeWhile (· == p)).length p :=
    List.eq_replicate_length.2 fun _ hc => by simpa using List.mem_takeWhile_imp hc
  refine ⟨(cs.takeWhile (· == p)).length, ?_⟩
  rw [← htake, List.takeWhile_append_dropWhile]

theorem encloses_ungrouped (w : List Char) : Encloses w (ungrouped w) := by
  obtain ⟨opened, hopened⟩ := exists_eq_replicate_append_dropWhile '(' w
  obtain ⟨closed, hclosed⟩ :=
    exists_eq_replicate_append_dropWhile ')' (w.dropWhile (· == '(')).reverse
  have hbody : w.dropWhile (· == '(') = ungrouped w ++ List.replicate closed ')' := by
    have hreverse := congrArg List.reverse hclosed
    rwa [List.reverse_reverse, List.reverse_append, List.reverse_replicate] at hreverse
  refine ⟨⟨opened, closed, hbody ▸ hopened⟩, fun h => ?_, getLast?_ungrouped w⟩
  have hhead := List.head?_dropWhile_not (· == '(') w
  rw [hbody, List.head?_append, h] at hhead
  cases hhead

theorem Encloses.ungrouped_eq {w t : List Char} (h : Encloses w t) : ungrouped w = t := by
  obtain ⟨opened, closed, rfl⟩ := h.around
  have hopen : ∀ n (cs : List Char), ungrouped (List.replicate n '(' ++ cs) = ungrouped cs := by
    intro n cs
    induction n with
    | zero => rfl
    | succ n ih => exact (ungrouped_open _).trans ih
  have hclose : ∀ n (cs : List Char), ungrouped (cs ++ List.replicate n ')') = ungrouped cs := by
    intro n cs
    induction n with
    | zero => rw [List.replicate_zero, List.append_nil]
    | succ n ih => rw [List.replicate_succ', ← List.append_assoc, ungrouped_close, ih]
  rw [hopen, hclose, ungrouped_eq_self h.head h.last]

theorem forall₂_encloses_iff {ws ts : List (List Char)} :
    List.Forall₂ Encloses ws ts ↔ ws.map ungrouped = ts := by
  constructor
  · intro h
    have heq : List.Forall₂ (· = ·) (ws.map ungrouped) ts :=
      List.forall₂_map_left_iff.2 (h.imp fun _ _ => Encloses.ungrouped_eq)
    rwa [List.forall₂_eq_eq_eq] at heq
  · rintro rfl
    exact List.forall₂_map_right_iff.2 (List.forall₂_same.2 fun w _ => encloses_ungrouped w)

theorem tokens_eq_iff {script : String} {ts : List String} :
    tokens script = ts ↔ HasTokens script ts := by
  constructor
  · rintro rfl
    exact ⟨_, _, Text.words_eq_iff.1 rfl, forall₂_encloses_iff.2 rfl, rfl⟩
  · rintro ⟨ws, us, hws, hus, rfl⟩
    rw [tokens_eq, tokenTexts, Text.words_eq_iff.2 hws, forall₂_encloses_iff.1 hus]

/-! ### Texts of chains -/

theorem render_of (first : Clause) (rest : List (Joiner × Clause)) :
    render (.of first rest) = rest.foldl (fun text link => text ++ renderLink link) first.render :=
  rfl

theorem renderGrouped_of (first : Clause) (link : Joiner × Clause)
    (rest : List (Joiner × Clause)) :
    renderGrouped (.of first (link :: rest)) =
      rest.foldl (fun text link => "(" ++ text ++ ")" ++ renderLink link)
        (first.render ++ renderLink link) := rfl

theorem toList_renderLink (link : Joiner × Clause) :
    (renderLink link).toList = ' ' :: link.1.token.toList ++ ' ' :: link.2.render.toList := by
  simp [renderLink, String.toList_append]

theorem Clause.toList_render (c : Clause) :
    c.render.toList = (parameterPrefix ++ c.metric).toList ++
      ' ' :: (c.comparison.token.toList ++ ' ' :: c.threshold.scriptText) := by
  simp [Clause.render, String.toList_append]

/-- A parameter whose metric has no blank is a word. -/
theorem isWord_parameter {metric : String} (h : Text.Unspaced metric.toList) :
    Text.IsWord (parameterPrefix ++ metric).toList := by
  have hname : Text.IsWord parameterPrefix.toList := by
    unfold Text.IsWord
    decide
  rw [String.toList_append]
  exact ⟨List.append_ne_nil_of_left_ne_nil hname.1 _,
    Text.unspaced_append.2 ⟨hname.2, h⟩⟩

section Split

/- What cuts texts at blanks: the tokens of a text, or other pieces of it. -/
variable {α : Type} {pieces : List Char → List α}
  (hpieces : ∀ xs ys, pieces (xs ++ ' ' :: ys) = pieces xs ++ pieces ys)

/-- The pieces of a joiner and the clause after it. -/
def linkPieces (pieces : List Char → List α) (link : Joiner × Clause) : List α :=
  pieces link.1.token.toList ++ pieces link.2.render.toList

include hpieces

theorem split_link (text : String) (link : Joiner × Clause) :
    pieces (text ++ renderLink link).toList = pieces text.toList ++ linkPieces pieces link := by
  rw [String.toList_append, toList_renderLink, List.cons_append, hpieces, hpieces]
  rfl

theorem split_render (first : Clause) (rest : List (Joiner × Clause)) :
    pieces (render (.of first rest)).toList =
      pieces first.render.toList ++ rest.flatMap (linkPieces pieces) := by
  rw [render_of]
  generalize first.render = text
  induction rest generalizing text with
  | nil => simp
  | cons link rest ih =>
    rw [List.foldl_cons, ih, split_link hpieces, List.append_assoc, List.flatMap_cons]

/-- Parentheses around a text wrap its pieces. -/
theorem split_renderGrouped {wrap : List α → List α}
    (hwrap : ∀ cs, pieces ('(' :: cs ++ [')']) = wrap (pieces cs)) (first : Clause)
    (link : Joiner × Clause) (rest : List (Joiner × Clause)) :
    pieces (renderGrouped (.of first (link :: rest))).toList =
      rest.foldl (fun ps link => wrap ps ++ linkPieces pieces link)
        (pieces first.render.toList ++ linkPieces pieces link) := by
  have hstep : ∀ (text : String) (link : Joiner × Clause),
      pieces ("(" ++ text ++ ")" ++ renderLink link).toList =
        wrap (pieces text.toList) ++ linkPieces pieces link := by
    intro text link
    rw [split_link hpieces, ← hwrap]
    simp [String.toList_append]
  rw [renderGrouped_of, ← split_link hpieces]
  -- All that stands before a link is wrapped anew, so the text varies along the links.
  generalize first.render ++ renderLink link = text
  induction rest generalizing text with
  | nil => rfl
  | cons link rest ih => rw [List.foldl_cons, List.foldl_cons, ← hstep, ih]

/-- If parentheses are no pieces, the grouped text has the pieces of the plain one. -/
theorem split_renderGrouped_eq (hwrap : ∀ cs, pieces ('(' :: cs ++ [')']) = pieces cs)
    (c : Chain) : pieces c.renderGrouped.toList = pieces c.render.toList := by
  have hid : ∀ cs, pieces ('(' :: cs ++ [')']) = id (pieces cs) := hwrap
  match c with
  | .empty => rfl
  | .of first [] => rfl
  | .of first (link :: rest) =>
    rw [split_renderGrouped hpieces hid, split_render hpieces, List.flatMap_cons,
      ← List.append_assoc]
    generalize pieces first.render.toList ++ linkPieces pieces link = ps
    induction rest generalizing ps with
    | nil => simp
    | cons link rest ih =>
      rw [List.foldl_cons, ih, id, List.flatMap_cons, List.append_assoc]

end Split

/-! ### Tokens of chains -/

theorem tokenTexts_comparison (c : Comparison) : tokenTexts c.token.toList = [c.token.toList] := by
  cases c <;> decide

theorem tokenTexts_joiner (j : Joiner) : tokenTexts j.token.toList = [j.token.toList] := by
  cases j <;> decide

theorem tokenTexts_scriptText (x : Binary64) : tokenTexts x.scriptText = [x.scriptText] := by
  refine tokenTexts_of_isWord x.isWord_scriptText (ungrouped_eq_self (fun h => ?_) fun h => ?_)
  · exact absurd (Binary64.toNat_of_mem_scriptText (List.mem_of_mem_head? h)) (by decide)
  · exact absurd (Binary64.toNat_of_mem_scriptText (List.mem_of_mem_getLast? h)) (by decide)

theorem tokenTexts_append_space (xs ys : List Char) :
    tokenTexts (xs ++ ' ' :: ys) = tokenTexts xs ++ tokenTexts ys :=
  tokenTexts_append_blank (by decide) xs ys

/-- The tokens of a clause are those of its parameter, its operator and its numeral. -/
theorem Clause.tokenTexts_render (c : Clause) :
    tokenTexts c.render.toList = tokenTexts (parameterPrefix ++ c.metric).toList ++
      [c.comparison.token.toList, c.threshold.scriptText] := by
  rw [Clause.toList_render, tokenTexts_append_space, tokenTexts_append_space,
    tokenTexts_comparison, tokenTexts_scriptText]
  rfl

/-- The grouped text has the tokens of the plain one. -/
theorem tokens_renderGrouped (c : Chain) : tokens c.renderGrouped = tokens c.render := by
  have hwrap : ∀ cs, tokenTexts ('(' :: cs ++ [')']) = tokenTexts cs := fun cs => by
    rw [List.cons_append, tokenTexts_open, tokenTexts_close]
  rw [tokens_eq, tokens_eq, split_renderGrouped_eq tokenTexts_append_space hwrap]

end Chain

end Alerting
