import Alerting.Text.Basic
import Mathlib.Data.List.DropRight

/-!
# Words, lines and ends of texts

A word is what stands between blanks.

* `Text.words_append_blank` : a blank separates the words before it from those after it.
* `Text.words_of_isWord` : a word by itself is its only word.
* `Text.isWord_of_mem_words` : the words of a text are words.
* `Text.words_eq_iff` : they are what the text splits into, in the only way in which it can.
* `Text.words_cons`, `Text.exists_words_concat` : a character that is no blank belongs to the word
  that it stands at.
* `Text.trim_eq_nil_iff` : only of blanks nothing is left.
* `Text.lines_append_newLine` : a text without new lines is the first line of what it starts.
* `Text.ofList_isPrefixOf?_iff`, `Text.ofList_isSuffixOf?_iff` : what stands after the start of a
  text, and before its end.
-/

namespace Alerting

namespace Text

/-- The visible characters of ASCII are no blanks. -/
theorem isBlank_eq_false {c : Char} (h : '!'.toNat ≤ c.toNat ∧ c.toNat ≤ '~'.toNat) :
    isBlank c = false := by
  have hmin : 33 ≤ c.toNat := h.1
  have hmax : c.toNat ≤ 126 := h.2
  unfold isBlank
  simp only [Bool.or_eq_false_iff, Bool.and_eq_false_iff, decide_eq_false_iff_not,
    beq_eq_false_iff_ne]
  omega

/-- A text without blanks. -/
def Unspaced (w : List Char) : Prop := ∀ c ∈ w, isBlank c = false

instance (w : List Char) : Decidable (Unspaced w) := List.decidableBAll _ w

/-- A word: a text without blanks that is not empty. -/
def IsWord (w : List Char) : Prop := w ≠ [] ∧ Unspaced w

theorem unspaced_nil : Unspaced [] := nofun

theorem unspaced_cons {c : Char} {w : List Char} :
    Unspaced (c :: w) ↔ isBlank c = false ∧ Unspaced w := List.forall_mem_cons

theorem unspaced_append {v w : List Char} : Unspaced (v ++ w) ↔ Unspaced v ∧ Unspaced w :=
  List.forall_mem_append

/-! ### Splitting at blanks -/

theorem words_eq (cs : List Char) : words cs = consWord (splitWord cs).1 (splitWord cs).2 := rfl

theorem splitWord_blank {c : Char} (h : isBlank c = true) (cs : List Char) :
    splitWord (c :: cs) = ([], words cs) := by
  simp only [splitWord, h, ↓reduceIte, words_eq]

theorem splitWord_nonblank {c : Char} (h : isBlank c = false) (cs : List Char) :
    splitWord (c :: cs) = (c :: (splitWord cs).1, (splitWord cs).2) := by
  simp only [splitWord, h, Bool.false_eq_true, ↓reduceIte]

theorem consWord_append (w : List Char) (vs ws : List (List Char)) :
    consWord w (vs ++ ws) = consWord w vs ++ ws := by
  unfold consWord
  split <;> rfl

/-- What follows a blank does not change the words before it. -/
theorem splitWord_append_blank {c : Char} (h : isBlank c = true) (xs ys : List Char) :
    splitWord (xs ++ c :: ys) = ((splitWord xs).1, (splitWord xs).2 ++ words ys) := by
  induction xs with
  | nil => exact splitWord_blank h ys
  | cons x xs ih =>
    rw [List.cons_append]
    cases hx : isBlank x with
    | true =>
      rw [splitWord_blank hx, splitWord_blank hx, words_eq, ih, consWord_append, ← words_eq]
    | false => rw [splitWord_nonblank hx, splitWord_nonblank hx, ih]

theorem words_append_blank {c : Char} (h : isBlank c = true) (xs ys : List Char) :
    words (xs ++ c :: ys) = words xs ++ words ys := by
  rw [words_eq, splitWord_append_blank h, consWord_append, ← words_eq]

/-! ### Words by themselves -/

theorem splitWord_of_unspaced {w : List Char} (h : Unspaced w) : splitWord w = (w, []) := by
  induction w with
  | nil => rfl
  | cons c w ih =>
    obtain ⟨hc, hw⟩ := unspaced_cons.1 h
    rw [splitWord_nonblank hc, ih hw]

/-- A text without blanks is a word, unless it is empty. -/
theorem words_of_unspaced {w : List Char} (h : Unspaced w) : words w = consWord w [] := by
  rw [words_eq, splitWord_of_unspaced h]

theorem words_of_isWord {w : List Char} (h : IsWord w) : words w = [w] := by
  rw [words_of_unspaced h.2, consWord, if_neg (by simpa using h.1)]

theorem isWord_of_mem_consWord {v w : List Char} {ws : List (List Char)} (hw : Unspaced w)
    (hws : ∀ u ∈ ws, IsWord u) (h : v ∈ consWord w ws) : IsWord v := by
  unfold consWord at h
  split at h
  · exact hws v h
  · rename_i hne
    rcases List.mem_cons.1 h with rfl | h
    · exact ⟨by simpa using hne, hw⟩
    · exact hws v h

theorem unspaced_splitWord (cs : List Char) :
    Unspaced (splitWord cs).1 ∧ ∀ w ∈ (splitWord cs).2, IsWord w := by
  induction cs with
  | nil => exact ⟨unspaced_nil, nofun⟩
  | cons c cs ih =>
    cases hc : isBlank c with
    | true =>
      rw [splitWord_blank hc]
      exact ⟨unspaced_nil, fun w hw => isWord_of_mem_consWord ih.1 ih.2 hw⟩
    | false =>
      rw [splitWord_nonblank hc]
      exact ⟨unspaced_cons.2 ⟨hc, ih.1⟩, ih.2⟩

theorem isWord_of_mem_words {w cs : List Char} (h : w ∈ words cs) : IsWord w :=
  isWord_of_mem_consWord (unspaced_splitWord cs).1 (unspaced_splitWord cs).2 h

/-! ### The ends of a text -/

/-- A character before a text belongs to its first word. -/
theorem words_cons {c : Char} (h : isBlank c = false) (cs : List Char) :
    words (c :: cs) = (c :: (splitWord cs).1) :: (splitWord cs).2 := by
  rw [words_eq, splitWord_nonblank h]
  rfl

/-- A text with blanks has a last one. -/
theorem unspaced_or_exists_lastBlank (cs : List Char) :
    Unspaced cs ∨ ∃ xs c ys, isBlank c = true ∧ Unspaced ys ∧ cs = xs ++ c :: ys := by
  induction cs with
  | nil => exact .inl unspaced_nil
  | cons x cs ih =>
    rcases ih with hcs | ⟨xs, c, ys, hc, hys, rfl⟩
    · cases hx : isBlank x with
      | true => exact .inr ⟨[], x, cs, hx, hcs, rfl⟩
      | false => exact .inl (unspaced_cons.2 ⟨hx, hcs⟩)
    · exact .inr ⟨x :: xs, c, ys, hc, hys, rfl⟩

/-- A character after a text belongs to its last word. -/
theorem exists_words_concat (cs : List Char) :
    ∃ ws w, words cs = ws ++ consWord w [] ∧
      ∀ c, isBlank c = false → words (cs ++ [c]) = ws ++ [w ++ [c]] := by
  have hword : ∀ {w c}, Unspaced w → isBlank c = false → IsWord (w ++ [c]) := fun hw hc =>
    ⟨by simp, unspaced_append.2 ⟨hw, unspaced_cons.2 ⟨hc, unspaced_nil⟩⟩⟩
  rcases unspaced_or_exists_lastBlank cs with hcs | ⟨xs, b, ys, hb, hys, rfl⟩
  · refine ⟨[], cs, words_of_unspaced hcs, fun c hc => ?_⟩
    exact words_of_isWord (hword hcs hc)
  · refine ⟨words xs, ys, ?_, fun c hc => ?_⟩
    · rw [words_append_blank hb, words_of_unspaced hys]
    · rw [List.append_assoc, List.cons_append, words_append_blank hb,
        words_of_isWord (hword hys hc)]

/-- Only of blanks nothing is left. -/
theorem trim_eq_nil_iff {cs : List Char} : trim cs = [] ↔ ∀ c ∈ cs, isBlank c = true := by
  show (cs.dropWhile isBlank).rdropWhile isBlank = [] ↔ _
  rw [List.rdropWhile_eq_nil_iff, ← List.dropWhile_eq_nil_iff, List.dropWhile_idempotent,
    List.dropWhile_eq_nil_iff]

theorem isEmpty_trim (s : String) : (trim s.toList).isEmpty = isBlankText s := by
  rw [Bool.eq_iff_iff, List.isEmpty_iff, trim_eq_nil_iff, isBlankText, List.all_eq_true]

/-! ### What the words of a text are -/

/-- A text splits into words: they stand in it one after the other, each up to a blank or the end,
and all that stands before, between and after them is blank. -/
inductive SplitsInto : List Char → List (List Char) → Prop
  | blank {gap : List Char} (hgap : ∀ c ∈ gap, isBlank c = true) : SplitsInto gap []
  | word {gap w rest : List Char} {ws : List (List Char)} (hgap : ∀ c ∈ gap, isBlank c = true)
      (hw : IsWord w) (hrest : ∀ c ∈ rest.head?, isBlank c = true) (h : SplitsInto rest ws) :
      SplitsInto (gap ++ (w ++ rest)) (w :: ws)

section SplitsInto

variable {c : Char} {cs gap w rest : List Char} {ws : List (List Char)}

theorem words_blanks_append (h : ∀ c ∈ gap, isBlank c = true) (cs : List Char) :
    words (gap ++ cs) = words cs := by
  induction gap with
  | nil => rfl
  | cons b gap ih =>
    obtain ⟨hb, hgap⟩ := List.forall_mem_cons.1 h
    exact (words_append_blank hb [] (gap ++ cs)).trans (ih hgap)

theorem words_word_append (hw : IsWord w) (hrest : ∀ c ∈ rest.head?, isBlank c = true) :
    words (w ++ rest) = w :: words rest := by
  cases rest with
  | nil => rw [List.append_nil, words_of_isWord hw]; rfl
  | cons b rest =>
    have hb : isBlank b = true := hrest b rfl
    have hskip : words (b :: rest) = words rest := words_append_blank hb [] rest
    rw [words_append_blank hb, words_of_isWord hw, hskip, List.singleton_append]

theorem SplitsInto.words_eq (h : SplitsInto cs ws) : words cs = ws := by
  induction h with
  | @blank gap hgap =>
    have hwords := words_blanks_append hgap []
    rwa [List.append_nil] at hwords
  | word hgap hw hrest _ ih => rw [words_blanks_append hgap, words_word_append hw hrest, ih]

theorem SplitsInto.cons_blank (hc : isBlank c = true) (h : SplitsInto cs ws) :
    SplitsInto (c :: cs) ws := by
  cases h with
  | blank hgap => exact .blank (List.forall_mem_cons.2 ⟨hc, hgap⟩)
  | word hgap hw hrest h =>
    exact (SplitsInto.word (List.forall_mem_cons.2 ⟨hc, hgap⟩) hw hrest h :)

theorem SplitsInto.consWord (hw : Unspaced w) (hrest : ∀ c ∈ rest.head?, isBlank c = true)
    (h : SplitsInto rest ws) : SplitsInto (w ++ rest) (consWord w ws) := by
  cases w with
  | nil => exact h
  | cons c w => exact SplitsInto.word (List.forall_mem_nil _) ⟨List.cons_ne_nil c w, hw⟩ hrest h

theorem splitsInto_words_of_splitWord (hcs : cs = (splitWord cs).1 ++ rest)
    (hrest : ∀ c ∈ rest.head?, isBlank c = true) (h : SplitsInto rest (splitWord cs).2) :
    SplitsInto cs (words cs) := by
  have hcons := h.consWord (unspaced_splitWord cs).1 hrest
  rwa [← hcs, ← words_eq] at hcons

/-- After its first word a text goes on with a blank, or it ends; its other words are those of what
follows. -/
theorem exists_splitsInto_splitWord (cs : List Char) :
    ∃ rest, cs = (splitWord cs).1 ++ rest ∧ (∀ c ∈ rest.head?, isBlank c = true) ∧
      SplitsInto rest (splitWord cs).2 := by
  induction cs with
  | nil => exact ⟨[], rfl, nofun, .blank nofun⟩
  | cons c cs ih =>
    obtain ⟨rest, hcs, hrest, h⟩ := ih
    cases hc : isBlank c with
    | true =>
      -- Nothing stands before the blank, so all words of the text follow it.
      rw [splitWord_blank hc]
      have hwords := splitsInto_words_of_splitWord hcs hrest h
      exact ⟨c :: cs, rfl, by simpa using hc, hwords.cons_blank hc⟩
    | false =>
      rw [splitWord_nonblank hc]
      exact ⟨rest, congrArg (c :: ·) hcs, hrest, h⟩

theorem splitsInto_words (cs : List Char) : SplitsInto cs (words cs) := by
  obtain ⟨rest, hcs, hrest, h⟩ := exists_splitsInto_splitWord cs
  exact splitsInto_words_of_splitWord hcs hrest h

/-- A text has one splitting, into its words. -/
theorem words_eq_iff : words cs = ws ↔ SplitsInto cs ws :=
  ⟨fun h => h ▸ splitsInto_words cs, SplitsInto.words_eq⟩

end SplitsInto

/-! ### Lines -/

theorem linesFrom_append_newLine {cs : List Char} (h : '\n' ∉ cs) (line rest : List Char) :
    linesFrom line (cs ++ '\n' :: rest) = (line.reverse ++ cs) :: lines rest := by
  induction cs generalizing line with
  | nil => simp [linesFrom, lines]
  | cons c cs ih =>
    rw [List.mem_cons, not_or] at h
    rw [List.cons_append, linesFrom, if_neg (Ne.symm h.1), ih h.2, List.reverse_cons,
      List.append_assoc, List.singleton_append]

/-- A text without new lines is the first line of what it starts. -/
theorem lines_append_newLine {cs : List Char} (h : '\n' ∉ cs) (rest : List Char) :
    lines (cs ++ '\n' :: rest) = cs :: lines rest :=
  linesFrom_append_newLine h [] rest

/-! ### Texts without a start or an end -/

section Affixes

variable {start stop rest text : String}

theorem ofList_isPrefixOf?_iff :
    (start.toList.isPrefixOf? text.toList).map String.ofList = some rest ↔
      text = start ++ rest := by
  simp only [Option.map_eq_some_iff, List.isPrefixOf?_eq_some_iff_append_eq]
  constructor
  · rintro ⟨cs, hcs, rfl⟩
    rw [← String.toList_inj, String.toList_append, String.toList_ofList, hcs]
  · rintro rfl
    exact ⟨rest.toList, String.toList_append.symm, String.ofList_toList⟩

theorem ofList_isSuffixOf?_iff :
    (stop.toList.isSuffixOf? text.toList).map String.ofList = some rest ↔
      text = rest ++ stop := by
  simp only [Option.map_eq_some_iff, List.isSuffixOf?_eq_some_iff_append_eq]
  constructor
  · rintro ⟨cs, hcs, rfl⟩
    rw [← String.toList_inj, String.toList_append, String.toList_ofList, hcs]
  · rintro rfl
    exact ⟨rest.toList, String.toList_append.symm, String.ofList_toList⟩

theorem isPrefixOf?_append_cons {p : List Char} {s : Char} (h : s ∉ p) (xs ys : List Char) :
    p.isPrefixOf? (xs ++ s :: ys) = (p.isPrefixOf? xs).map (· ++ s :: ys) := by
  induction p generalizing xs with
  | nil => rfl
  | cons c p ih =>
    obtain ⟨hc, hp⟩ := List.ne_and_not_mem_of_not_mem_cons h
    cases xs with
    | nil => exact if_neg (by simpa using Ne.symm hc)
    | cons x xs =>
      rw [List.cons_append, List.isPrefixOf?, List.isPrefixOf?, ih hp]
      split <;> rfl

end Affixes

end Text

end Alerting
