import Alerting.Proofs.Json.Number

/-!
# Documents as indented text

A document *reads back* when its indented text is read as that document.

* `Json.readsBack_of_numbers` : a document reads back if its numbers do and its containers are
  nested no deeper than the reader allows.
* `Json.readsBack_of_floats` : integers do, so only floating-point numbers are left to look at.

The proof follows the text: `Json.readValue_prettyText` reads a document whatever follows it, with
as much fuel as two units for each character of its text.
-/

namespace Alerting

namespace Json

/-- The indented text of a document is read as that document. -/
def ReadsBack (j : Json) : Prop := parse? j.pretty = some j

mutual
/-- The numbers of a document. -/
def numbers : Json → List Number
  | .num n => [n]
  | .arr xs => numbersOfItems xs
  | .obj ms => numbersOfMembers ms
  | .null | .bool _ | .str _ => []

/-- The numbers of a list of documents. -/
def numbersOfItems : List Json → List Number
  | [] => []
  | x :: xs => x.numbers ++ numbersOfItems xs

/-- The numbers of the documents of members. -/
def numbersOfMembers : List (String × Json) → List Number
  | [] => []
  | (_, v) :: ms => v.numbers ++ numbersOfMembers ms
end

mutual
/-- How deep the containers of a document are nested. -/
def nesting : Json → Nat
  | .arr xs => nestingOfItems xs + 1
  | .obj ms => nestingOfMembers ms + 1
  | .null | .bool _ | .num _ | .str _ => 0

/-- The greatest nesting in a list of documents. -/
def nestingOfItems : List Json → Nat
  | [] => 0
  | x :: xs => max x.nesting (nestingOfItems xs)

/-- The greatest nesting in the documents of members. -/
def nestingOfMembers : List (String × Json) → Nat
  | [] => 0
  | (_, v) :: ms => max v.nesting (nestingOfMembers ms)
end

/-! ### Strings -/

theorem hexDigit?_digitChar : ∀ d < 16, hexDigit? (Nat.digitChar d) = some d := by decide

theorem readString_escapeControl {c : Char} (hc : c.toNat < 0x20) (r : List Char) :
    readString (escapeControl c ++ r) = (readString r).map fun (s, r) => (c :: s, r) := by
  unfold escapeControl
  split_ifs with h₁ h₂ h₃ h₄ h₅
  · subst h₁; simp [readString, shortEscape?]
  · subst h₂; simp [readString, shortEscape?]
  · subst h₃; simp [readString, shortEscape?]
  · subst h₄; simp [readString, shortEscape?]
  · subst h₅; simp [readString, shortEscape?]
  · have hhex : hex4? '0' '0' (Nat.digitChar (c.toNat / 16)) (Nat.digitChar (c.toNat % 16)) =
        some c.toNat := by
      have h₁ := hexDigit?_digitChar (c.toNat / 16) (by omega)
      have h₂ := hexDigit?_digitChar (c.toNat % 16) (by omega)
      have h₀ : hexDigit? '0' = some 0 := by decide
      simp only [hex4?, h₀, h₁, h₂, Option.bind_eq_bind, Option.bind_some, Option.pure_def,
        Option.some.injEq]
      omega
    have hunit : unitChar? c.toNat = some c := by
      have : ¬ (0xD800 ≤ c.toNat) := by omega
      simp [unitChar?, this, Char.ofNat_toNat]
    simp only [List.cons_append, List.nil_append, readString, hhex, hunit]

theorem readString_escape (c : Char) (r : List Char) :
    readString (escape c ++ r) = (readString r).map fun (s, r) => (c :: s, r) := by
  unfold escape
  split_ifs with hquote hcontrol
  · rcases hquote with rfl | rfl <;> simp [readString, shortEscape?]
  · exact readString_escapeControl hcontrol r
  · rw [not_or] at hquote
    show readString (c :: r) = _
    rw [readString]
    · rw [if_neg (by simp [hquote.2, hcontrol])]
    · exact hquote.1
    · simp [hquote.2]
    · simp [hquote.2]

theorem readString_text (cs r : List Char) :
    readString (cs.flatMap escape ++ '"' :: r) = some (cs, r) := by
  induction cs with
  | nil => simp [readString]
  | cons c cs ih =>
    rw [List.flatMap_cons, List.append_assoc, readString_escape, ih]
    rfl

/-! ### Blanks -/

theorem skipSpace_newLine (depth : Nat) (r : List Char) :
    skipSpace (newLine depth ++ r) = skipSpace r := by
  have hblank : ∀ c ∈ newLine depth, isSpace c = true := by
    intro c hc
    rcases List.mem_cons.1 hc with rfl | hc
    · rfl
    · rw [List.eq_of_mem_replicate hc]; rfl
  rw [skipSpace, List.dropWhile_append_of_pos hblank]
  rfl

theorem skipSpace_cons {c : Char} (h : isSpace c = false) (r : List Char) :
    skipSpace (c :: r) = c :: r := by
  simp [skipSpace, h]

/-- A document starts with no blank, and with no end of a container. -/
def StartsDocument (c : Char) : Prop := isSpace c = false ∧ c ≠ ']' ∧ c ≠ '}'

instance (c : Char) : Decidable (StartsDocument c) := inferInstanceAs (Decidable (_ ∧ _))

theorem startsDocument_of_isDigit {c : Char} (h : c.isDigit = true) : StartsDocument c := by
  refine ⟨?_, ?_, ?_⟩
  · by_contra hs
    simp only [isSpace, Bool.or_eq_true, beq_iff_eq, Bool.not_eq_false] at hs
    rcases hs with ((rfl | rfl) | rfl) | rfl <;> exact absurd h (by decide)
  · rintro rfl; exact absurd h (by decide)
  · rintro rfl; exact absurd h (by decide)

theorem Number.ReadsBack.text_cons {n : Number} (h : n.ReadsBack) :
    ∃ c r, n.text = c :: r ∧ StartsDocument c := by
  obtain ⟨c, r, htext, hc⟩ := head_of_readNumber h
  refine ⟨c, r, htext, ?_⟩
  rcases hc with rfl | hc
  · decide
  · exact startsDocument_of_isDigit hc

theorem prettyText_cons {j : Json} (hn : ∀ n ∈ j.numbers, n.ReadsBack) (depth : Nat) :
    ∃ c r, prettyText depth j = c :: r ∧ StartsDocument c := by
  match j with
  | .null => exact ⟨_, _, rfl, by decide⟩
  | .bool true | .bool false => exact ⟨_, _, rfl, by decide⟩
  | .num n => exact (hn n (by simp [numbers])).text_cons
  | .str s => exact ⟨_, _, rfl, by decide⟩
  | .arr [] | .arr (_ :: _) => exact ⟨_, _, rfl, by decide⟩
  | .obj [] | .obj (_ :: _) => exact ⟨_, _, rfl, by decide⟩

theorem readValue_number {cs r : List Char} {n : Number} (h : readNumber cs = some (n, r))
    (depth fuel : Nat) : readValue depth (fuel + 1) cs = some (.num n, r) := by
  obtain ⟨c, cs, rfl, hc⟩ := head_of_readNumber h
  have hne (d : Char) (hd : d ≠ '-' ∧ d.isDigit = false) : c ≠ d := by
    rintro rfl
    rcases hc with hc | hc
    · exact hd.1 hc
    · rw [hd.2] at hc; cases hc
  rw [readValue, h]
  · rfl
  · intro r hr; exact hne 'n' (by decide) (List.cons.inj hr).1
  · intro r hr; exact hne 't' (by decide) (List.cons.inj hr).1
  · intro r hr; exact hne 'f' (by decide) (List.cons.inj hr).1
  · intro r hr; exact hne '"' (by decide) (List.cons.inj hr).1
  · intro r hr; exact hne '[' (by decide) (List.cons.inj hr).1
  · intro r hr; exact hne '{' (by decide) (List.cons.inj hr).1

/-! ### Documents -/

theorem readName_text (k : String) {c : Char} (hc : StartsDocument c) (r : List Char) :
    readName (stringText k ++ ':' :: ' ' :: c :: r) = some (k, c :: r) := by
  simp only [stringText, List.cons_append, List.append_assoc, List.nil_append, readName,
    readString_text, Option.bind_eq_bind, Option.bind_some]
  rw [skipSpace_cons (by decide)]
  have hspace : skipSpace (' ' :: c :: r) = c :: r := by
    rw [skipSpace, List.dropWhile_cons_of_pos (by decide)]
    exact skipSpace_cons hc.1 r
  simp only [hspace, String.ofList_toList, Option.pure_def]

theorem delimited_prettyItems (level : Nat) (xs : List Json) (rest : List Char) :
    Delimited (prettyItems level xs ++ rest) := by
  cases xs with
  | nil => exact delimited_cons (.inr rfl)
  | cons x xs => exact delimited_cons (.inl rfl)

theorem delimited_prettyMembers (level : Nat) (ms : List (String × Json)) (rest : List Char) :
    Delimited (prettyMembers level ms ++ rest) := by
  cases ms with
  | nil => exact delimited_cons (.inr rfl)
  | cons m ms => exact delimited_cons (.inl rfl)

-- The induction is on the fuel, which goes down in every call of the reader; a container passes
-- what its text leaves of it on to its items.
mutual
/-- A document is read from its text, whatever follows it. -/
theorem readValue_prettyText : ∀ (fuel : Nat) (j : Json) (level depth : Nat) (rest : List Char),
    2 * (prettyText level j).length ≤ fuel → j.nesting ≤ depth →
    (∀ n ∈ j.numbers, n.ReadsBack) → Delimited rest →
    readValue depth fuel (prettyText level j ++ rest) = some (j, rest)
  | 0, j, level, _, _, hf, _, hn, _ => by
    obtain ⟨c, r, htext, -⟩ := prettyText_cons hn level
    rw [htext, List.length_cons] at hf
    omega
  | _ + 1, .null, _, _, _, _, _, _, _ => rfl
  | _ + 1, .bool true, _, _, _, _, _, _, _ | _ + 1, .bool false, _, _, _, _, _, _, _ => rfl
  | fuel + 1, .num n, _, depth, _, _, _, hn, hr =>
    readValue_number (readNumber_append hr (hn n (by simp [numbers]))) depth fuel
  | fuel + 1, .str s, _, _, _, _, _, _, _ => by
    simp [prettyText, stringText, readValue, readString_text]
  | _ + 1, .arr _, _, 0, _, _, hd, _, _ | _ + 1, .obj _, _, 0, _, _, hd, _, _ => by
    simp [nesting] at hd
  | fuel + 1, .arr [], _, depth + 1, rest, _, _, _, _ => by
    simp only [prettyText, List.cons_append, List.nil_append, readValue]
    rw [skipSpace_cons (by decide)]
    rfl
  | fuel + 1, .arr (x :: xs), level, depth + 1, rest, hf, hd, hn, _ => by
    have hitems := readItems_prettyText fuel x xs level depth rest
      (by simp only [prettyText, List.cons_append, List.length_cons, List.length_append] at hf
          omega)
      (by simpa [nesting] using hd) hn
    obtain ⟨c, r, htext, hc⟩ := prettyText_cons (j := x)
      (fun n h => hn n (by simp [numbers, numbersOfItems, h])) (level + 1)
    simp only [prettyText, List.cons_append, List.append_assoc, readValue] at hitems ⊢
    rw [skipSpace_newLine]
    rw [htext, List.cons_append] at hitems ⊢
    rw [skipSpace_cons hc.1]
    split
    · rename_i h
      exact absurd (List.cons.inj h).1 hc.2.1
    · rw [hitems]
      rfl
  | fuel + 1, .obj [], _, depth + 1, rest, _, _, _, _ => by
    simp only [prettyText, List.cons_append, List.nil_append, readValue]
    rw [skipSpace_cons (by decide)]
    rfl
  | fuel + 1, .obj ((k, v) :: ms), level, depth + 1, rest, hf, hd, hn, _ => by
    have hmembers := readMembers_prettyText fuel k v ms level depth rest
      (by simp only [prettyText, List.cons_append, List.length_cons, List.length_append] at hf
          omega)
      (by simpa [nesting] using hd) hn
    simp only [prettyText, List.cons_append, List.append_assoc, readValue] at hmembers ⊢
    rw [skipSpace_newLine]
    simp only [stringText, List.cons_append] at hmembers ⊢
    rw [skipSpace_cons (by decide)]
    show (readMembers depth fuel _).map _ = _
    rw [hmembers]
    rfl

theorem readItems_prettyText : ∀ (fuel : Nat) (x : Json) (xs : List Json) (level depth : Nat)
    (rest : List Char),
    2 * ((prettyText (level + 1) x).length + (prettyItems level xs).length) ≤ fuel →
    nestingOfItems (x :: xs) ≤ depth → (∀ n ∈ numbersOfItems (x :: xs), n.ReadsBack) →
    readItems depth fuel (prettyText (level + 1) x ++ (prettyItems level xs ++ rest)) =
      some (x :: xs, rest)
  | 0, x, xs, level, _, _, hf, _, _ => by
    cases xs <;> simp [prettyItems] at hf
  | fuel + 1, x, xs, level, depth, rest, hf, hd, hn => by
    -- What follows `x` is not empty, so one unit of fuel is left for it.
    have hpos : 0 < (prettyItems level xs).length := by cases xs <;> simp [prettyItems]
    have hx := readValue_prettyText fuel x (level + 1) depth (prettyItems level xs ++ rest)
      (by omega) (le_trans (le_max_left _ _) hd)
      (fun n h => hn n (by simp [numbersOfItems, h])) (delimited_prettyItems level xs rest)
    simp only [readItems, hx, Option.bind_eq_bind, Option.bind_some]
    cases xs with
    | nil =>
      simp only [prettyItems, List.append_assoc, skipSpace_newLine]
      rw [List.cons_append, List.nil_append, skipSpace_cons (by decide)]
      rfl
    | cons y ys =>
      have hys := readItems_prettyText fuel y ys level depth rest
        (by simp only [prettyItems, List.cons_append, List.length_cons, List.length_append] at hf
            omega)
        (le_trans (le_max_right _ _) hd) (fun n h => hn n (by
          simp only [numbersOfItems, List.mem_append] at h ⊢
          exact .inr h))
      obtain ⟨c, r, htext, hc⟩ := prettyText_cons (j := y)
        (fun n h => hn n (by simp [numbersOfItems, h])) (level + 1)
      simp only [prettyItems, List.cons_append, List.append_assoc]
      rw [skipSpace_cons (by decide)]
      -- The reader skips the new line and stops at `c`, the first character of the next item.
      rw [htext, List.cons_append] at hys ⊢
      simp only [skipSpace_newLine, skipSpace_cons hc.1, hys, Option.bind_some]
      rfl

theorem readMembers_prettyText : ∀ (fuel : Nat) (k : String) (v : Json)
    (ms : List (String × Json)) (level depth : Nat) (rest : List Char),
    2 * ((prettyText (level + 1) v).length + (prettyMembers level ms).length) ≤ fuel →
    nestingOfMembers ((k, v) :: ms) ≤ depth →
    (∀ n ∈ numbersOfMembers ((k, v) :: ms), n.ReadsBack) →
    readMembers depth fuel (stringText k ++ ':' :: ' ' ::
      (prettyText (level + 1) v ++ (prettyMembers level ms ++ rest))) = some ((k, v) :: ms, rest)
  | 0, _, v, ms, level, _, _, hf, _, _ => by
    cases ms <;> simp [prettyMembers] at hf
  | fuel + 1, k, v, ms, level, depth, rest, hf, hd, hn => by
    have hpos : 0 < (prettyMembers level ms).length := by cases ms <;> simp [prettyMembers]
    have hv := readValue_prettyText fuel v (level + 1) depth (prettyMembers level ms ++ rest)
      (by omega) (le_trans (le_max_left _ _) hd)
      (fun n h => hn n (by simp [numbersOfMembers, h])) (delimited_prettyMembers level ms rest)
    obtain ⟨c, r, htext, hc⟩ := prettyText_cons (j := v)
      (fun n h => hn n (by simp [numbersOfMembers, h])) (level + 1)
    rw [htext, List.cons_append] at hv ⊢
    simp only [readMembers, readName_text k hc, hv, Option.bind_eq_bind, Option.bind_some]
    cases ms with
    | nil =>
      simp only [prettyMembers, List.append_assoc, skipSpace_newLine]
      rw [List.cons_append, List.nil_append, skipSpace_cons (by decide)]
      rfl
    | cons m ms =>
      obtain ⟨l, w⟩ := m
      have hms := readMembers_prettyText fuel l w ms level depth rest
        (by simp only [prettyMembers, List.cons_append, List.length_cons, List.length_append] at hf
            omega)
        (le_trans (le_max_right _ _) hd) (fun n h => hn n (by
          simp only [numbersOfMembers, List.mem_append] at h ⊢
          exact .inr h))
      simp only [prettyMembers, List.cons_append, List.append_assoc]
      rw [skipSpace_cons (by decide)]
      simp only [stringText, List.cons_append, List.append_assoc, List.nil_append] at hms ⊢
      simp only [skipSpace_newLine, skipSpace_cons (c := '"') (by decide), hms, Option.bind_some]
      rfl
end

/-- **A document reads back** if its numbers do and it is nested no deeper than the reader
allows. -/
theorem readsBack_of_numbers {j : Json} (hd : j.nesting ≤ maxDepth)
    (hn : ∀ n ∈ j.numbers, n.ReadsBack) : j.ReadsBack := by
  obtain ⟨c, r, htext, hc⟩ := prettyText_cons hn 0
  have hread := readValue_prettyText (2 * j.pretty.length + 1) j 0 maxDepth []
    (by rw [pretty, String.length_ofList]; omega) hd hn (by simp [Delimited])
  rw [List.append_nil] at hread
  rw [ReadsBack, parse?, parseWhole?]
  have hspace : skipSpace j.pretty.toList = prettyText 0 j := by
    rw [pretty, String.toList_ofList, htext, skipSpace_cons hc.1]
  rw [hspace, hread]
  rfl

/-- The floating-point numbers of a document. -/
def floats (j : Json) : List Finite64 :=
  j.numbers.filterMap fun
    | .float x => some x
    | .int _ _ => none

/-- A document reads back if its floating-point numbers do and it is nested no deeper than the
reader allows. -/
theorem readsBack_of_floats {j : Json} (hd : j.nesting ≤ maxDepth)
    (hf : ∀ x ∈ j.floats, (Number.float x).ReadsBack) : j.ReadsBack := by
  refine readsBack_of_numbers hd fun n hn => ?_
  cases n with
  | int n fits => exact Number.readsBack_int fits
  | float x => exact hf x (List.mem_filterMap.2 ⟨.float x, hn, rfl⟩)

end Json

end Alerting
