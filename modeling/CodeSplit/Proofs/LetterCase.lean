/-
Module: CodeSplit.Proofs.LetterCase
Purpose: what lower-casing leaves as it is, and what it cannot make.
Main exports:
  Text.lowerCode_cases, Text.mem_of_mem_lowerChars, Text.lowerChar_of_isBlank,
  Text.head?_lowerChars, Text.getLast?_lowerChars
-/
import CodeSplit.Text.Blank
import CodeSplit.Text.LetterCase
import Mathlib.Tactic.SplitIfs

namespace CodeSplit.Text

/-!
Lower-casing looks at the letters around a `Σ`, so it is no map on characters.
Still, what it writes is a small letter of ASCII, a character outside ASCII, or
the character that it reads.  The signs of markup are none of the first two and
therefore come from themselves alone.
-/

/-! ### Single characters -/

/-- The table leads out of ASCII, but for the sign of the kelvin, which becomes
a `k`. -/
theorem lower_of_mem_lowerRows : ∀ row ∈ lowerRows,
    0x80 ≤ row.lower ∨ row.lower = 0x6B ∧ row.first = row.last := by
  decide +kernel

/-- A code point becomes itself, a small letter of ASCII or one outside
ASCII. -/
theorem lowerCode_cases (code : Nat) :
    lowerCode code = code ∨
      0x61 ≤ lowerCode code ∧ lowerCode code ≤ 0x7A ∨
      0x80 ≤ lowerCode code := by
  unfold lowerCode
  split
  · split
    · rename_i capital
      simp only [Bool.and_eq_true, decide_eq_true_eq] at capital
      omega
    · exact Or.inl rfl
  · cases found : lowerRows.find? (·.holds code) with
    | none => exact Or.inl rfl
    | some row =>
        have holds := List.find?_some found
        simp only [CaseRow.holds, Bool.and_eq_true, decide_eq_true_eq] at holds
        have range := lower_of_mem_lowerRows row (List.mem_of_find?_eq_some found)
        simp only
        omega

/-- Only the code point of a character gives the character, but for the one that
stands for what is no code point. -/
theorem eq_toNat_of_ofNat_eq {code : Nat} {c : Char} (not_nul : c ≠ '\x00')
    (same : Char.ofNat code = c) : code = c.toNat := by
  by_cases valid : code.isValidChar
  · rw [← same, Char.ofNat, dif_pos valid]
    rfl
  · rw [Char.ofNat, dif_neg valid] at same
    exact absurd same.symm not_nul

/-- A character that is no letter of ASCII: what lower-casing writes is such a
character only if it reads it. -/
def IsSign (c : Char) : Prop :=
  c.toNat < 0x80 ∧ c ≠ '\x00' ∧ ¬ (0x61 ≤ c.toNat ∧ c.toNat ≤ 0x7A)

instance (c : Char) : Decidable (IsSign c) :=
  inferInstanceAs (Decidable (_ ∧ _ ∧ _))

theorem eq_of_mem_lowerChar {c d : Char} (sign : IsSign c)
    (found : c ∈ lowerChar d) : d = c := by
  obtain ⟨ascii, not_nul, not_small⟩ := sign
  unfold lowerChar at found
  split at found
  · simp only [List.mem_cons, List.not_mem_nil, or_false] at found
    rcases found with rfl | rfl
    · exact absurd (by decide) not_small
    · exact absurd ascii (by decide)
  · have written := eq_toNat_of_ofNat_eq not_nul (List.mem_singleton.mp found).symm
    rcases lowerCode_cases d.toNat with own | small | beyond
    · exact Char.toNat_inj.mp (own.symm.trans written)
    · omega
    · omega

/-- No blank is in the table. -/
theorem blanks_apart_lowerRows : ∀ span ∈ blanks, ∀ row ∈ lowerRows,
    row.last < span.first ∨ span.last < row.first := by
  decide +kernel

/-- No blank is a capital letter of ASCII. -/
theorem blanks_apart_capitals : ∀ span ∈ blanks,
    span.last < 0x41 ∨ 0x5A < span.first := by
  decide

/-- A blank is its own lower-case form. -/
theorem lowerChar_of_isBlank {c : Char} (blank : isBlank c = true) :
    lowerChar c = [c] := by
  obtain ⟨span, among, first, last⟩ := CharClass.holds_iff.mp blank
  have own : lowerCode c.toNat = c.toNat := by
    unfold lowerCode
    split
    · rw [if_neg]
      have apart := blanks_apart_capitals span among
      simp only [Bool.and_eq_true, decide_eq_true_eq]
      omega
    · have none : lowerRows.find? (·.holds c.toNat) = none := by
        rw [List.find?_eq_none]
        intro row found holds
        have apart := blanks_apart_lowerRows span among row found
        simp only [CaseRow.holds, Bool.and_eq_true, decide_eq_true_eq] at holds
        omega
      rw [none]
  rw [lowerChar, if_neg, own, Char.ofNat_toNat]
  rintro rfl
  exact absurd blank (by decide)

/-! ### Texts -/

/-- A sign in the lower-case form of a text was in the text. -/
theorem mem_of_mem_lowerCharsFrom {before text : List Char} {c : Char}
    (sign : IsSign c) (found : c ∈ lowerCharsFrom before text) : c ∈ text := by
  induction text generalizing before with
  | nil => cases found
  | cons d rest ih =>
      rw [lowerCharsFrom, List.mem_append] at found
      rcases found with here | later
      · split at here
        · have beyond : ¬ IsSign c := by
            rw [List.mem_singleton.mp here]
            split <;> decide
          exact absurd sign beyond
        · exact List.mem_cons.mpr (Or.inl (eq_of_mem_lowerChar sign here).symm)
      · exact List.mem_cons_of_mem d (ih later)

theorem mem_of_mem_lowerChars {text : List Char} {c : Char} (sign : IsSign c)
    (found : c ∈ lowerChars text) : c ∈ text :=
  mem_of_mem_lowerCharsFrom sign found

/-- A blank in front of a text stays there. -/
theorem lowerCharsFrom_cons_of_isBlank {c : Char} (blank : isBlank c = true)
    (before rest : List Char) :
    lowerCharsFrom before (c :: rest) = c :: lowerCharsFrom (c :: before) rest := by
  have no_sigma : c ≠ 'Σ' := by
    rintro rfl
    exact absurd blank (by decide)
  rw [lowerCharsFrom, if_neg no_sigma, lowerChar_of_isBlank blank]
  rfl

/-- A text that starts with a blank does so in lower case. -/
theorem head?_lowerChars {text : List Char} {c : Char}
    (blank : isBlank c = true) (starts : text.head? = some c) :
    (lowerChars text).head? = some c := by
  obtain ⟨rest, rfl⟩ := List.head?_eq_some_iff.mp starts
  rw [lowerChars, lowerCharsFrom_cons_of_isBlank blank]
  rfl

/-- A blank behind a text stays there, whatever it is behind. -/
theorem exists_lowerCharsFrom_concat {c : Char} (blank : isBlank c = true)
    (before text : List Char) :
    ∃ front, lowerCharsFrom before (text ++ [c]) = front ++ [c] := by
  induction text generalizing before with
  | nil => exact ⟨[], lowerCharsFrom_cons_of_isBlank blank before []⟩
  | cons d rest ih =>
      obtain ⟨front, later⟩ := ih (d :: before)
      rw [List.cons_append, lowerCharsFrom, later, ← List.append_assoc]
      exact ⟨_, rfl⟩

/-- A text that ends with a blank does so in lower case. -/
theorem getLast?_lowerChars {text : List Char} {c : Char}
    (blank : isBlank c = true) (ends : text.getLast? = some c) :
    (lowerChars text).getLast? = some c := by
  obtain ⟨front, rfl⟩ := List.getLast?_eq_some_iff.mp ends
  obtain ⟨front, lowered⟩ := exists_lowerCharsFrom_concat blank [] front
  exact List.getLast?_eq_some_iff.mpr ⟨front, lowered⟩

end CodeSplit.Text
