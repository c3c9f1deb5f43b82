import Mathlib.Data.List.Basic
import Alerting.Proofs.Text
import Alerting.Script.Basic

/-!
# Scripts as boolean formulas

For the language that it is written in, a script is a boolean formula over its clauses.  A clause is
three words, parentheses group, `&&` binds tighter than `||`, and both associate to the left.  A
clause has a truth value by its position in the script.

* `Formula.Reads` : the grammar.
* `Formula.Reads.unique` : a script has at most one reading.
* `Formula.evalFrom` : the truth value of a formula.
-/

namespace Alerting

/-! ### Lexemes -/

/-- A word of a script.  Parentheses are words of their own wherever they stand. -/
inductive Lexeme where
  | opening
  | closing
  | joiner (j : Joiner)
  | word (text : String)
  deriving DecidableEq

namespace Lexeme

/-- The lexeme that a word is. -/
def ofWord (w : List Char) : Lexeme :=
  if w = ['('] then .opening
  else if w = [')'] then .closing
  else
    match Joiner.ofToken? (String.ofList w) with
    | some j => .joiner j
    | none => .word (String.ofList w)

/-- Sets a parenthesis apart from what stands beside it. -/
def spaced (c : Char) : List Char := if c = '(' ∨ c = ')' then [' ', c, ' '] else [c]

/-- The lexemes of a text. -/
def ofText (cs : List Char) : List Lexeme := (Text.words (cs.flatMap spaced)).map ofWord

/-- Lexemes in parentheses. -/
def grouped (ls : List Lexeme) : List Lexeme := .opening :: ls ++ [.closing]

theorem ofText_append_space (xs ys : List Char) :
    ofText (xs ++ ' ' :: ys) = ofText xs ++ ofText ys := by
  have hspace : spaced ' ' = [' '] := rfl
  unfold ofText
  rw [List.flatMap_append, List.flatMap_cons, hspace, List.singleton_append,
    Text.words_append_blank (by decide), List.map_append]

/-- Parentheses around a text stand around its lexemes. -/
theorem ofText_group (cs : List Char) :
    ofText ('(' :: cs ++ [')']) = grouped (ofText cs) := by
  have hspaced : ('(' :: cs ++ [')']).flatMap spaced =
      [' ', '('] ++ ' ' :: (cs.flatMap spaced ++ ' ' :: [')', ' ']) := by
    rw [List.flatMap_append, List.flatMap_cons]
    rfl
  unfold ofText
  rw [hspaced, Text.words_append_blank (by decide), Text.words_append_blank (by decide),
    List.map_append, List.map_append, grouped, List.cons_append]
  rfl

/-- A word without parentheses that is no joiner. -/
theorem ofText_of_isWord {w : List Char} (h : Text.IsWord w) (hopen : '(' ∉ w) (hclose : ')' ∉ w)
    (hjoiner : ∀ j : Joiner, w ≠ j.token.toList) : ofText w = [.word (String.ofList w)] := by
  have hspaced : w.flatMap spaced = w := by
    have hplain : ∀ c ∈ w, spaced c = [c] := fun c hc =>
      if_neg fun hp => hp.elim (fun he => hopen (he ▸ hc)) fun he => hclose (he ▸ hc)
    rw [List.flatMap_congr hplain, List.flatMap_singleton']
  unfold ofText
  rw [hspaced, Text.words_of_isWord h, List.map_singleton, ofWord,
    if_neg fun he => hopen (by simp [he]), if_neg fun he => hclose (by simp [he])]
  split
  · rename_i j hj
    refine absurd ?_ (hjoiner j)
    rw [← Joiner.ofToken?_eq_some_iff.1 hj, String.toList_ofList]
  · rfl

end Lexeme

/-! ### Formulas -/

/-- The three words of a clause. -/
structure ClauseWords where
  metric : String
  comparison : String
  threshold : String
  deriving DecidableEq

/-- A boolean formula over clauses. -/
inductive Formula where
  | clause (words : ClauseWords)
  | join (j : Joiner) (left right : Formula)
  deriving DecidableEq

namespace Formula

/-- The clauses from left to right. -/
def clauses : Formula → List ClauseWords
  | .clause words => [words]
  | .join _ l r => l.clauses ++ r.clauses

/-- The truth value of a formula whose first clause has the position `i`; `v` gives the truth values
of clauses by their positions. -/
def evalFrom (v : Nat → Bool) (i : Nat) : Formula → Bool
  | .clause _ => v i
  | .join j l r => j.eval (l.evalFrom v i) (r.evalFrom v (i + l.clauses.length))

/-- The truth value of a formula whose clauses are counted from 0. -/
def eval (v : Nat → Bool) (f : Formula) : Bool := f.evalFrom v 0

/-- Clauses that agree decide the formula. -/
theorem evalFrom_of_const {v : Nat → Bool} {b : Bool} {f : Formula} {i : Nat}
    (h : ∀ k < f.clauses.length, v (i + k) = b) : f.evalFrom v i = b := by
  -- The right part of a join starts after the clauses of the left one, so the position varies.
  induction f generalizing i with
  | clause words => exact h 0 Nat.zero_lt_one
  | join j l r ihl ihr =>
    have hj : j.eval b b = b := by cases j <;> cases b <;> rfl
    have hlength : (join j l r).clauses.length = l.clauses.length + r.clauses.length :=
      List.length_append
    rw [evalFrom, ihl fun k hk => h k (by omega), ihr fun k hk => ?_, hj]
    rw [Nat.add_assoc]
    exact h _ (by omega)

/-! ### The grammar -/

/-- What a formula can be a part of. -/
inductive Level where
  | operand
  | conjunction
  | disjunction

/-- Lexemes read as a formula. -/
inductive Reads : Level → List Lexeme → Formula → Prop
  | clause (words : ClauseWords) :
    Reads .operand [.word words.metric, .word words.comparison, .word words.threshold]
      (.clause words)
  | group {ls : List Lexeme} {f : Formula} :
    Reads .disjunction ls f → Reads .operand (Lexeme.grouped ls) f
  | operand {ls : List Lexeme} {f : Formula} : Reads .operand ls f → Reads .conjunction ls f
  | and {ls ms : List Lexeme} {f g : Formula} :
    Reads .conjunction ls f → Reads .operand ms g →
      Reads .conjunction (ls ++ .joiner .and :: ms) (.join .and f g)
  | conjunction {ls : List Lexeme} {f : Formula} : Reads .conjunction ls f → Reads .disjunction ls f
  | or {ls ms : List Lexeme} {f g : Formula} :
    Reads .disjunction ls f → Reads .conjunction ms g →
      Reads .disjunction (ls ++ .joiner .or :: ms) (.join .or f g)

/-- A formula is the only reading of a script. -/
def IsReadingOf (f : Formula) (script : String) : Prop :=
  ∀ g, Reads .disjunction (Lexeme.ofText script.toList) g ↔ g = f

/-! ### Unambiguity

Lexemes are read from left to right.  What stands before the next operand in its group is kept as
two functions: one puts the operand after the factors before it, the other puts their conjunction
after the summands before that. -/

/-- What stands before an operand in its group. -/
structure Before where
  /-- Puts a conjunction after the summands. -/
  sum : Formula → Formula
  /-- Puts an operand after the factors. -/
  product : Formula → Formula

mutual

/-- Reads on where an operand is due; `outer` stands before the groups that are open. -/
def readOperand (outer : List Before) (before : Before) : List Lexeme → Option Formula
  | .opening :: ls => readOperand (before :: outer) ⟨id, id⟩ ls
  | .word m :: .word c :: .word t :: ls =>
    readJoiner outer before.sum (before.product (.clause ⟨m, c, t⟩)) ls
  | _ => none

/-- Reads on after an operand, which is the last factor of `f`. -/
def readJoiner (outer : List Before) (sum : Formula → Formula) (f : Formula) :
    List Lexeme → Option Formula
  | [] => if outer.isEmpty then some (sum f) else none
  | .joiner .and :: ls => readOperand outer ⟨sum, .join .and f⟩ ls
  | .joiner .or :: ls => readOperand outer ⟨.join .or (sum f), id⟩ ls
  | .closing :: ls =>
    match outer with
    | [] => none
    | before :: outer => readJoiner outer before.sum (before.product (sum f)) ls
  | _ => none

end

/-- How far a formula is read that ends before `rest`. -/
def IsReadAt (ls : List Lexeme) (f : Formula) : Level → Prop
  | .operand => ∀ outer before rest,
    readOperand outer before (ls ++ rest) = readJoiner outer before.sum (before.product f) rest
  | .conjunction => ∀ outer sum rest,
    readOperand outer ⟨sum, id⟩ (ls ++ rest) = readJoiner outer sum f rest
  | .disjunction => ∃ sum product, sum product = f ∧ ∀ outer rest,
    readOperand outer ⟨id, id⟩ (ls ++ rest) = readJoiner outer sum product rest

theorem Reads.isReadAt {level : Level} {ls : List Lexeme} {f : Formula} (h : Reads level ls f) :
    IsReadAt ls f level := by
  -- By the rules of the grammar.  What stands around the formula varies: an operand is read in the
  -- same way after any factors, a conjunction after any summands, a disjunction in any group.
  induction h with
  | clause words => exact fun outer before rest => rfl
  | @group ls f _ ih =>
    obtain ⟨sum, product, rfl, hread⟩ := ih
    intro outer before rest
    rw [Lexeme.grouped, List.append_assoc, List.cons_append, readOperand, hread]
    rfl
  | operand _ ih => exact fun outer sum rest => ih outer ⟨sum, id⟩ rest
  | and _ _ ihl ihr =>
    intro outer sum rest
    rw [List.append_assoc, ihl]
    exact ihr outer ⟨sum, _⟩ rest
  | @conjunction _ f _ ih => exact ⟨id, f, rfl, fun outer rest => ih outer id rest⟩
  | @or _ _ _ g _ _ ihl ihr =>
    obtain ⟨sum, product, rfl, hread⟩ := ihl
    -- The disjunction on the left is now a summand before `g`.
    refine ⟨_, g, rfl, fun outer rest => ?_⟩
    rw [List.append_assoc, hread]
    exact ihr outer (.join .or (sum product)) rest

/-- A reading is found from left to right. -/
theorem Reads.readOperand_eq {ls : List Lexeme} {f : Formula} (h : Reads .disjunction ls f) :
    readOperand [] ⟨id, id⟩ ls = some f := by
  obtain ⟨sum, product, rfl, hread⟩ := h.isReadAt
  have := hread [] []
  rwa [List.append_nil] at this

/-- **Scripts are unambiguous.** -/
theorem Reads.unique {ls : List Lexeme} {f g : Formula} (hf : Reads .disjunction ls f)
    (hg : Reads .disjunction ls g) : f = g :=
  Option.some.inj (hf.readOperand_eq.symm.trans hg.readOperand_eq)

theorem Reads.isReadingOf {script : String} {f : Formula}
    (h : Reads .disjunction (Lexeme.ofText script.toList) f) : f.IsReadingOf script :=
  fun _ => ⟨fun hg => hg.unique h, fun he => he ▸ h⟩

end Formula

end Alerting
