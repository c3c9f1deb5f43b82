import Alerting.Proofs.Script.Formula
import Alerting.Proofs.Script.Tokens

/-!
# What the texts of chains mean

A chain is joined from left to right.  Its grouped text means just that.  Its plain text is read by
precedence, which makes a difference if a `||` comes before an `&&`.

* `Formula.forall_eval_eq_iff` : when precedence makes no difference.
* `Chain.reads_renderGrouped`, `Chain.reads_render` : the readings of the two texts.
* `Chain.meaning_of_texts` : the truth values of the two texts.
-/

namespace Alerting

/-! ### The two orders -/

/-- No `||` comes before an `&&`. -/
def Joiner.InPrecedenceOrder (js : List Joiner) : Prop :=
  js.Pairwise fun j k => ¬(j = .or ∧ k = .and)

namespace Formula

/-- Joins clauses to a formula from left to right. -/
def joinLeft (f : Formula) (links : List (Joiner × ClauseWords)) : Formula :=
  links.foldl (fun f link => .join link.1 f (.clause link.2)) f

/-- Joins clauses to the factors of `product`, or to the sum that stands before it and is put there
by `sum`. -/
def joinByPrecedence (sum : Formula → Formula) (product : Formula) :
    List (Joiner × ClauseWords) → Formula
  | [] => sum product
  | (.and, words) :: links => joinByPrecedence sum (.join .and product (.clause words)) links
  | (.or, words) :: links => joinByPrecedence (.join .or (sum product)) (.clause words) links

theorem clauses_joinLeft (f : Formula) (links : List (Joiner × ClauseWords)) :
    (joinLeft f links).clauses = f.clauses ++ links.map Prod.snd := by
  induction links generalizing f with
  | nil => exact (List.append_nil _).symm
  | cons link links ih =>
    refine (ih _).trans ?_
    simp [clauses]

theorem clauses_joinByPrecedence {sum : Formula → Formula} {before : List ClauseWords}
    (hsum : ∀ f, (sum f).clauses = before ++ f.clauses) (product : Formula)
    (links : List (Joiner × ClauseWords)) :
    (joinByPrecedence sum product links).clauses =
      before ++ product.clauses ++ links.map Prod.snd := by
  induction links generalizing sum before product with
  | nil => simp [joinByPrecedence, hsum]
  | cons link links ih =>
    obtain ⟨j, words⟩ := link
    cases j with
    | and =>
      rw [joinByPrecedence, ih hsum]
      simp [clauses]
    | or =>
      have hsum' (f : Formula) :
          (join .or (sum product) f).clauses = (sum product).clauses ++ f.clauses := rfl
      rw [joinByPrecedence, ih hsum', hsum]
      simp [clauses]

/-- Sums are joined from left to right. -/
theorem joinByPrecedence_of_or {links : List (Joiner × ClauseWords)}
    (h : ∀ link ∈ links, link.1 = .or) (sum : Formula → Formula) (product : Formula) :
    joinByPrecedence sum product links = joinLeft (sum product) links := by
  induction links generalizing sum product with
  | nil => rfl
  | cons link links ih =>
    rw [List.forall_mem_cons] at h
    obtain ⟨j, words⟩ := link
    obtain rfl : j = .or := h.1
    exact ih h.2 _ _

/-- Precedence makes no difference while no `||` comes before an `&&`. -/
theorem joinByPrecedence_eq_joinLeft {links : List (Joiner × ClauseWords)}
    (h : Joiner.InPrecedenceOrder (links.map Prod.fst)) (product : Formula) :
    joinByPrecedence id product links = joinLeft product links := by
  induction links generalizing product with
  | nil => rfl
  | cons link links ih =>
    obtain ⟨hfirst, hrest⟩ := List.pairwise_cons.1 h
    obtain ⟨j, words⟩ := link
    cases j with
    | and => exact ih hrest _
    | or =>
      have hor : ∀ link ∈ links, link.1 = .or := by
        intro link hlink
        cases hj : link.1 with
        | or => rfl
        | and => exact absurd ⟨rfl, hj⟩ (hfirst _ (List.mem_map_of_mem hlink))
      exact joinByPrecedence_of_or hor _ _

end Formula

namespace Joiner

/-- Joins to the value `b` the values of the clauses at the position `i` and after it. -/
def evalFrom (v : Nat → Bool) (b : Bool) (i : Nat) : List Joiner → Bool
  | [] => b
  | j :: js => evalFrom v (j.eval b (v i)) (i + 1) js

/-- An `&&` with false clauses from it on makes false what is joined from left to right. -/
theorem evalFrom_eq_false {v : Nat → Bool} {b : Bool} {i : Nat} {js : List Joiner}
    (hv : ∀ k, i ≤ k → v k = false) (h : b = false ∨ .and ∈ js) : evalFrom v b i js = false := by
  induction js generalizing b i with
  | nil => exact h.resolve_right List.not_mem_nil
  | cons j js ih =>
    refine ih (fun k hk => hv k (Nat.le_of_succ_le hk)) ?_
    rw [hv i le_rfl]
    cases j with
    | and => exact .inl (Bool.and_false b)
    | or =>
      rcases h with rfl | h
      · exact .inl rfl
      · exact .inr ((List.mem_cons.1 h).resolve_left nofun)

end Joiner

namespace Formula

theorem eval_joinLeft (v : Nat → Bool) (f : Formula) (links : List (Joiner × ClauseWords)) :
    (joinLeft f links).eval v =
      Joiner.evalFrom v (f.eval v) f.clauses.length (links.map Prod.fst) := by
  induction links generalizing f with
  | nil => rfl
  | cons link links ih =>
    have hlength : (join link.1 f (.clause link.2)).clauses.length = f.clauses.length + 1 :=
      List.length_append
    have heval : (join link.1 f (.clause link.2)).eval v =
        link.1.eval (f.eval v) (v f.clauses.length) := by
      simp only [eval, evalFrom, Nat.zero_add]
    refine (ih _).trans ?_
    rw [heval, hlength]
    rfl

theorem eval_or_left {v : Nat → Bool} {f : Formula} (h : f.eval v = true) (g : Formula) :
    (join .or f g).eval v = true := by
  rw [eval, evalFrom, ← eval, h]
  rfl

theorem eval_joinByPrecedence_of_sum {v : Nat → Bool} {sum : Formula → Formula}
    (hsum : ∀ f, (sum f).eval v = true) (product : Formula) (links : List (Joiner × ClauseWords)) :
    (joinByPrecedence sum product links).eval v = true := by
  induction links generalizing sum product with
  | nil => exact hsum product
  | cons link links ih =>
    obtain ⟨j, words⟩ := link
    cases j with
    | and => exact ih hsum _
    | or => exact ih (eval_or_left (hsum product)) _

/-- Precedence makes a difference where an `&&` comes after a `||`: let the clauses be true that come
before the first `||`, and no others. -/
theorem exists_eval_ne {links : List (Joiner × ClauseWords)}
    (h : ¬Joiner.InPrecedenceOrder (links.map Prod.fst)) (product : Formula) :
    ∃ v, (joinByPrecedence id product links).eval v = true ∧
      (joinLeft product links).eval v = false := by
  induction links generalizing product with
  | nil => exact absurd .nil h
  | cons link links ih =>
    obtain ⟨j, words⟩ := link
    cases j with
    | and =>
      refine ih (fun hrest => h (List.pairwise_cons.2 ⟨fun k _ hk => ?_, hrest⟩)) _
      cases hk.1
    | or =>
      have hand : Joiner.and ∈ links.map Prod.fst := by
        by_contra hno
        refine h (List.pairwise_cons.2 ⟨fun k hk hjk => hno (hjk.2 ▸ hk), ?_⟩)
        exact List.pairwise_of_forall_mem_list fun j _ k hk hjk => hno (hjk.2 ▸ hk)
      let v : Nat → Bool := fun i => decide (i < product.clauses.length)
      have hproduct : product.eval v = true :=
        evalFrom_of_const fun k hk => decide_eq_true (by omega)
      have hafter : ∀ k, product.clauses.length ≤ k → v k = false := by
        intro k hk
        exact decide_eq_false (Nat.not_lt.2 hk)
      -- By precedence the first product makes the sum true; from left to right the `&&` undoes it.
      refine ⟨v, eval_joinByPrecedence_of_sum (eval_or_left hproduct) _ _, ?_⟩
      rw [eval_joinLeft]
      exact Joiner.evalFrom_eq_false hafter (.inr (List.mem_cons_of_mem _ hand))

/-- Precedence makes no difference, whatever the truth values of the clauses are, exactly if no `||`
comes before an `&&`. -/
theorem forall_eval_eq_iff (product : Formula) (links : List (Joiner × ClauseWords)) :
    (∀ v, (joinByPrecedence id product links).eval v = (joinLeft product links).eval v) ↔
      Joiner.InPrecedenceOrder (links.map Prod.fst) := by
  constructor
  · intro heq
    by_contra horder
    obtain ⟨v, htrue, hfalse⟩ := exists_eval_ne horder product
    rw [heq v, hfalse] at htrue
    cases htrue
  · intro horder v
    rw [joinByPrecedence_eq_joinLeft horder]

end Formula

namespace Chain

/-- The truth value of a chain that is joined from left to right; `v` gives the truth values of the
clauses by their positions. -/
def leftToRight (v : Nat → Bool) (c : Chain) : Bool := Joiner.evalFrom v (v 0) 1 c.joiners

/-! ### Clauses -/

namespace Clause

/-- The metric is a single word of a script. -/
structure IsPlain (c : Clause) : Prop where
  unspaced : Text.Unspaced c.metric.toList
  unopened : '(' ∉ c.metric.toList
  unclosed : ')' ∉ c.metric.toList

/-- The words of a clause. -/
def words (c : Clause) : ClauseWords :=
  { metric := parameterPrefix ++ c.metric
    comparison := c.comparison.token
    threshold := String.ofList c.threshold.scriptText }

theorem ofText_parameter {c : Clause} (h : c.IsPlain) :
    Lexeme.ofText (parameterPrefix ++ c.metric).toList = [.word (parameterPrefix ++ c.metric)] := by
  have hparentheses : '(' ∉ parameterPrefix.toList ∧ ')' ∉ parameterPrefix.toList := by decide
  have hhead : ∀ j : Joiner, parameterPrefix.toList.head? ≠ j.token.toList.head? := by
    intro j
    cases j <;> decide
  have hword := isWord_parameter h.unspaced
  rw [String.toList_append] at hword
  rw [String.toList_append, Lexeme.ofText_of_isWord hword, ← String.toList_append,
    String.ofList_toList]
  · exact fun hp => (List.mem_append.1 hp).elim hparentheses.1 h.unopened
  · exact fun hp => (List.mem_append.1 hp).elim hparentheses.2 h.unclosed
  · intro j hj
    refine hhead j ?_
    rw [← hj, List.head?_append_of_ne_nil _ (by decide)]

theorem ofText_comparison (c : Comparison) : Lexeme.ofText c.token.toList = [.word c.token] := by
  cases c <;> decide

theorem ofText_scriptText (x : Binary64) :
    Lexeme.ofText x.scriptText = [.word (String.ofList x.scriptText)] := by
  refine Lexeme.ofText_of_isWord x.isWord_scriptText (fun h => ?_) (fun h => ?_) fun j hj => ?_
  · exact absurd (Binary64.toNat_of_mem_scriptText h) (by decide)
  · exact absurd (Binary64.toNat_of_mem_scriptText h) (by decide)
  · cases j with
    | and =>
      exact absurd (Binary64.toNat_of_mem_scriptText (x := x) (c := '&') (by simp [hj, Joiner.token]))
        (by decide)
    | or =>
      exact absurd (Binary64.toNat_of_mem_scriptText (x := x) (c := '|') (by simp [hj, Joiner.token]))
        (by decide)

theorem reads_render {c : Clause} (h : c.IsPlain) :
    Formula.Reads .operand (Lexeme.ofText c.render.toList) (.clause c.words) := by
  rw [Clause.toList_render, Lexeme.ofText_append_space, Lexeme.ofText_append_space,
    ofText_parameter h, ofText_comparison, ofText_scriptText]
  exact .clause c.words

end Clause

/-! ### Readings -/

theorem ofText_joiner (j : Joiner) : Lexeme.ofText j.token.toList = [.joiner j] := by
  cases j <;> decide

theorem linkPieces_ofText (link : Joiner × Clause) :
    linkPieces Lexeme.ofText link = .joiner link.1 :: Lexeme.ofText link.2.render.toList := by
  rw [linkPieces, ofText_joiner, List.singleton_append]

/-- The words that are joined to the first clause. -/
def linkWords (rest : List (Joiner × Clause)) : List (Joiner × ClauseWords) :=
  rest.map fun link => (link.1, link.2.words)

variable {first : Clause} {rest : List (Joiner × Clause)}

/-- Two operands read in whatever way they are joined. -/
theorem reads_link {link : Joiner × Clause} (hlink : link.2.IsPlain) {ls : List Lexeme}
    {f : Formula} (h : Formula.Reads .operand ls f) :
    Formula.Reads .disjunction (ls ++ linkPieces Lexeme.ofText link)
      (.join link.1 f (.clause link.2.words)) := by
  rw [linkPieces_ofText]
  obtain ⟨j, c⟩ := link
  cases j with
  | and => exact .conjunction (.and (.operand h) (Clause.reads_render hlink))
  | or => exact .or (.conjunction (.operand h)) (.operand (Clause.reads_render hlink))

/-- The grouped text joins clauses from left to right. -/
theorem reads_renderGrouped (hfirst : first.IsPlain) (hrest : ∀ link ∈ rest, link.2.IsPlain) :
    Formula.Reads .disjunction (Lexeme.ofText (renderGrouped (.of first rest)).toList)
      (.joinLeft (.clause first.words) (linkWords rest)) := by
  cases rest with
  | nil => exact .conjunction (.operand (Clause.reads_render hfirst))
  | cons link rest =>
    rw [List.forall_mem_cons] at hrest
    rw [split_renderGrouped Lexeme.ofText_append_space Lexeme.ofText_group]
    -- What stands before a joiner is read as a whole, and is an operand in its parentheses.
    have hread := reads_link hrest.1 (Clause.reads_render hfirst)
    generalize Lexeme.ofText first.render.toList ++ linkPieces Lexeme.ofText link = ls at hread
    unfold linkWords Formula.joinLeft
    rw [List.map_cons, List.foldl_cons]
    generalize Formula.join link.1 (.clause first.words) (.clause link.2.words) = f at hread
    replace hrest := hrest.2
    induction rest generalizing ls f with
    | nil => exact hread
    | cons link rest ih =>
      rw [List.forall_mem_cons] at hrest
      rw [List.map_cons, List.foldl_cons, List.foldl_cons]
      exact ih _ _ (reads_link hrest.1 (.group hread)) hrest.2

/-- Clauses are joined to the conjunction `product` after the lexemes `before`. -/
theorem reads_links {before ls : List Lexeme} {sum : Formula → Formula} {product : Formula}
    (hsum : ∀ {ms f}, Formula.Reads .conjunction ms f →
      Formula.Reads .disjunction (before ++ ms) (sum f))
    (hproduct : Formula.Reads .conjunction ls product) (hrest : ∀ link ∈ rest, link.2.IsPlain) :
    Formula.Reads .disjunction (before ++ ls ++ rest.flatMap (linkPieces Lexeme.ofText))
      (.joinByPrecedence sum product (linkWords rest)) := by
  -- What stands before the conjunction grows with each `||`, and the conjunction with each `&&`.
  induction rest generalizing before ls sum product with
  | nil =>
    rw [List.flatMap_nil, List.append_nil]
    exact hsum hproduct
  | cons link rest ih =>
    rw [List.forall_mem_cons] at hrest
    have hclause := Clause.reads_render hrest.1
    rw [List.flatMap_cons, linkPieces_ofText]
    obtain ⟨j, c⟩ := link
    cases j with
    | and =>
      have hread := ih hsum (.and hproduct hclause) hrest.2
      simp only [List.append_assoc, List.cons_append] at hread ⊢
      exact hread
    | or =>
      have hsum' {ms : List Lexeme} {f : Formula} (h : Formula.Reads .conjunction ms f) :
          Formula.Reads .disjunction (before ++ ls ++ [.joiner .or] ++ ms)
            (.join .or (sum product) f) := by
        rw [List.append_assoc _ [_]]
        exact .or (hsum hproduct) h
      have hread := ih hsum' (.operand hclause) hrest.2
      simp only [List.append_assoc, List.cons_append, List.nil_append] at hread ⊢
      exact hread

/-- The plain text joins clauses by precedence. -/
theorem reads_render (hfirst : first.IsPlain) (hrest : ∀ link ∈ rest, link.2.IsPlain) :
    Formula.Reads .disjunction (Lexeme.ofText (render (.of first rest)).toList)
      (.joinByPrecedence id (.clause first.words) (linkWords rest)) := by
  have hsum {ms : List Lexeme} {f : Formula} (h : Formula.Reads .conjunction ms f) :
      Formula.Reads .disjunction ([] ++ ms) (id f) := .conjunction h
  rw [split_render Lexeme.ofText_append_space, ← List.nil_append (Lexeme.ofText _)]
  exact reads_links hsum (.operand (Clause.reads_render hfirst)) hrest

/-! ### Truth values -/

theorem joiners_linkWords (first : Clause) (rest : List (Joiner × Clause)) :
    (linkWords rest).map Prod.fst = joiners (.of first rest) := by
  simp [linkWords, joiners]

theorem clauses_linkWords (first : Clause) (rest : List (Joiner × Clause)) :
    first.words :: (linkWords rest).map Prod.snd = (clauses (.of first rest)).map Clause.words := by
  simp [linkWords, clauses]

theorem eval_joinLeft_linkWords (v : Nat → Bool) (first : Clause) (rest : List (Joiner × Clause)) :
    (Formula.joinLeft (.clause first.words) (linkWords rest)).eval v =
      leftToRight v (.of first rest) := by
  rw [Formula.eval_joinLeft, joiners_linkWords first]
  rfl

/-- **The meaning of the two texts.**  Where metrics are single words, both texts of a chain have
exactly one reading, with the clauses of the chain in their order.  The grouped text has the truth
value of the chain from left to right.  The plain text has it, whatever the truth values of the
clauses are, exactly if no `||` comes before an `&&`. -/
theorem meaning_of_texts {c : Chain} (hne : c ≠ .empty) (hplain : ∀ x ∈ c.clauses, x.IsPlain) :
    (∃ f : Formula, f.IsReadingOf c.renderGrouped ∧ f.clauses = c.clauses.map Clause.words ∧
      ∀ v, f.eval v = c.leftToRight v) ∧
    ∃ f : Formula, f.IsReadingOf c.render ∧ f.clauses = c.clauses.map Clause.words ∧
      ((∀ v, f.eval v = c.leftToRight v) ↔ Joiner.InPrecedenceOrder c.joiners) := by
  cases c with
  | empty => exact absurd rfl hne
  | of first rest =>
    have hfirst : first.IsPlain := hplain first List.mem_cons_self
    have hrest : ∀ link ∈ rest, link.2.IsPlain := by
      intro link hlink
      exact hplain _ (List.mem_cons_of_mem _ (List.mem_map_of_mem hlink))
    refine ⟨⟨_, (reads_renderGrouped hfirst hrest).isReadingOf, ?_, ?_⟩,
      ⟨_, (reads_render hfirst hrest).isReadingOf, ?_, ?_⟩⟩
    · rw [Formula.clauses_joinLeft, ← clauses_linkWords]
      rfl
    · exact fun v => eval_joinLeft_linkWords v first rest
    · have hid (f : Formula) : (id f).clauses = [] ++ f.clauses := rfl
      rw [Formula.clauses_joinByPrecedence hid, ← clauses_linkWords]
      rfl
    · rw [← joiners_linkWords, ← Formula.forall_eval_eq_iff (.clause first.words)]
      simp only [eval_joinLeft_linkWords]

/-- The plain text of a chain with a `||` before an `&&` does not mean what the grouped one means. -/
theorem meaning_of_texts_orBeforeAnd :
    let one : Binary64 := .finite ⟨false, 1023 * Nat.pow 2 52, by decide⟩
    let c : Chain := .of ⟨"errors", .above, one⟩
      [(.or, ⟨"latency", .above, one⟩), (.and, ⟨"load", .below, one⟩)]
    (c ≠ .empty ∧ ∀ x ∈ c.clauses, x.IsPlain) ∧
      (∃ f : Formula, f.IsReadingOf c.renderGrouped ∧ ∀ v, f.eval v = c.leftToRight v) ∧
      ∃ f : Formula, f.IsReadingOf c.render ∧ ¬∀ v, f.eval v = c.leftToRight v := by
  intro one c
  have hplain : ∀ x ∈ c.clauses, x.IsPlain := by
    have hmetrics : ∀ x ∈ c.clauses, Text.Unspaced x.metric.toList ∧
        '(' ∉ x.metric.toList ∧ ')' ∉ x.metric.toList := by decide
    exact fun x hx => ⟨(hmetrics x hx).1, (hmetrics x hx).2.1, (hmetrics x hx).2.2⟩
  have horder : ¬Joiner.InPrecedenceOrder c.joiners := by
    unfold Joiner.InPrecedenceOrder
    decide
  obtain ⟨⟨f, hf, -, hleft⟩, g, hg, -, hprecedence⟩ := meaning_of_texts (c := c) nofun hplain
  exact ⟨⟨nofun, hplain⟩, ⟨f, hf, hleft⟩, g, hg, fun h => horder (hprecedence.1 h)⟩

end Chain

end Alerting
