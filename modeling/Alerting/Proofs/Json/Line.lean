import Alerting.Json.Printer
import Alerting.Proofs.Binary64.Text

/-!
# Compact text stands on one line

No character of compact text is a control character below the space: strings escape them, numerals
have none, and no blanks stand between the parts of a document.

* `Json.printable_compactText` : so every character stands at the space or after it.
* `Json.newLine_notMem_compactText` : in particular none is a new line.
-/

namespace Alerting

/-- All characters of a text stand at the space or after it. -/
def Text.Printable (cs : List Char) : Prop := ∀ c ∈ cs, ' '.toNat ≤ c.toNat

namespace Text

instance (cs : List Char) : Decidable (Printable cs) :=
  List.decidableBAll (fun c : Char => ' '.toNat ≤ c.toNat) cs

theorem printable_nil : Printable [] := nofun

theorem printable_cons {c : Char} {cs : List Char} :
    Printable (c :: cs) ↔ ' '.toNat ≤ c.toNat ∧ Printable cs := List.forall_mem_cons

theorem printable_append {cs ds : List Char} :
    Printable (cs ++ ds) ↔ Printable cs ∧ Printable ds := List.forall_mem_append

theorem printable_of_digits {cs : List Char} (h : ∀ c ∈ cs, c.isDigit = true) : Printable cs :=
  fun c hc => Nat.le_trans (by decide) (Char.isDigit_iff_toNat.1 (h c hc)).1

end Text

open Text

/-! ### Numerals -/

theorem printable_toDigits (n : Nat) : Printable (Nat.toDigits 10 n) :=
  printable_of_digits fun _ hc => Numeral.isDigit_of_mem_toDigits hc

theorem printable_signed {negative : Bool} {cs : List Char} (h : Printable cs) :
    Printable (signed negative cs) := by
  cases negative with
  | true => exact printable_cons.2 ⟨by decide, h⟩
  | false => exact h

namespace Decimal

theorem printable_fractionText (d : Decimal) : Printable d.fractionText := by
  obtain ⟨-, hwhole, hfraction⟩ := d.positional_digits
  unfold fractionText
  split
  · rename_i whole hp
    rw [hp] at hwhole
    exact printable_append.2 ⟨printable_of_digits hwhole, by decide⟩
  · rename_i whole fraction _ hp
    rw [hp] at hwhole hfraction
    exact printable_append.2 ⟨printable_of_digits hwhole,
      printable_cons.2 ⟨by decide, printable_of_digits hfraction⟩⟩

theorem printable_scientificText (d : Decimal) : Printable d.scientificText := by
  have hdigits : Printable d.digitText := printable_toDigits d.digits
  have hexponent : Printable (Nat.toDigits 10 d.leading.natAbs) := printable_toDigits _
  unfold scientificText
  refine printable_append.2 ⟨?_, printable_cons.2 ⟨by decide, printable_cons.2 ⟨?_, hexponent⟩⟩⟩
  · split
    · exact printable_nil
    · rename_i hd
      exact hd ▸ hdigits
    · rename_i hd
      rw [hd, printable_cons] at hdigits
      exact printable_cons.2 ⟨hdigits.1, printable_cons.2 ⟨by decide, hdigits.2⟩⟩
  · split <;> decide

end Decimal

namespace Json

theorem printable_number (n : Number) : Printable n.text := by
  cases n with
  | int n fits => exact printable_signed (printable_toDigits _)
  | float x =>
    refine printable_signed ?_
    split
    · exact Decimal.printable_fractionText _
    · exact Decimal.printable_scientificText _

/-! ### Strings -/

theorem printable_digitChar : ∀ d < 16, ' '.toNat ≤ (Nat.digitChar d).toNat := by decide

theorem printable_escapeControl {c : Char} (hc : c.toNat < 0x20) : Printable (escapeControl c) := by
  have hhigh := printable_digitChar (c.toNat / 16) (by omega)
  have hlow := printable_digitChar (c.toNat % 16) (by omega)
  unfold escapeControl
  iterate 5
    split
    · decide
  have hlead : Printable ['\\', 'u', '0', '0'] := by decide
  exact printable_append.2 ⟨hlead,
    printable_cons.2 ⟨hhigh, printable_cons.2 ⟨hlow, printable_nil⟩⟩⟩

theorem printable_escape (c : Char) : Printable (escape c) := by
  unfold escape
  split
  · rename_i h
    rcases h with rfl | rfl <;> decide
  · split
    · rename_i hc
      exact printable_escapeControl hc
    · rename_i hc
      exact printable_cons.2 ⟨Nat.le_of_not_lt hc, printable_nil⟩

theorem printable_stringText (s : String) : Printable (stringText s) := by
  refine printable_cons.2 ⟨by decide, printable_append.2 ⟨fun c hc => ?_, by decide⟩⟩
  obtain ⟨d, -, hc⟩ := List.mem_flatMap.1 hc
  exact printable_escape d c hc

/-! ### Documents -/

theorem printable_member (k : String) {cs : List Char} (h : Printable cs) :
    Printable (stringText k ++ ':' :: cs) :=
  printable_append.2 ⟨printable_stringText k, printable_cons.2 ⟨by decide, h⟩⟩

mutual
theorem printable_compactText : ∀ j : Json, Printable j.compactText
  | .null => by decide
  | .bool b => by cases b <;> decide
  | .num n => printable_number n
  | .str s => printable_stringText s
  | .arr [] => by decide
  | .arr (x :: xs) =>
    printable_cons.2 ⟨by decide,
      printable_append.2 ⟨printable_compactText x, printable_compactItems xs⟩⟩
  | .obj [] => by decide
  | .obj ((k, v) :: ms) =>
    printable_cons.2 ⟨by decide,
      printable_append.2 ⟨printable_member k (printable_compactText v),
        printable_compactMembers ms⟩⟩

theorem printable_compactItems : ∀ xs : List Json, Printable (compactItems xs)
  | [] => by decide
  | x :: xs =>
    printable_cons.2 ⟨by decide,
      printable_append.2 ⟨printable_compactText x, printable_compactItems xs⟩⟩

theorem printable_compactMembers : ∀ ms : List (String × Json), Printable (compactMembers ms)
  | [] => by decide
  | (k, v) :: ms =>
    printable_cons.2 ⟨by decide,
      printable_append.2 ⟨printable_member k (printable_compactText v),
        printable_compactMembers ms⟩⟩
end

theorem newLine_notMem_compactText (j : Json) : '\n' ∉ j.compactText :=
  fun h => absurd (printable_compactText j _ h) (by decide)

end Json

end Alerting
