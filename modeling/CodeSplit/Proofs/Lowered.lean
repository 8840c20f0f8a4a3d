/-
Module: CodeSplit.Proofs.Lowered
Purpose: lower-casing changes nothing that it made and makes no blanks, and it
  takes capital and small letters of ASCII for the same.
Main exports:
  Text.IsSmall, Text.lowerChars_lowerChars, Text.eq_of_mem_lowerAt,
  Text.Unblanked, Text.trimChars_lowerChars_trimChars,
  Text.lowerChars_map_toLower
-/
import CodeSplit.Proofs.LetterCase
import Mathlib.Data.List.DropRight

namespace CodeSplit.Text

/-!
The small letter of a capital letter is never a capital letter itself, not even
where the two alternate.  Since the table is no inverse of anything, this is a
fact about every two of its rows.
-/

/-! ### Code points -/

/-- What `row` leads to is nothing that `other` holds: the spans lie apart, or
capital and small letters alternate in the span of `other`. -/
def CaseRow.misses (row other : CaseRow) : Bool :=
  Nat.blt (row.lower + (row.last - row.first)) other.first ||
    Nat.blt other.last row.lower ||
    other.stride == 2 && (row.lower + other.first) % 2 == 1 &&
      (row.stride == 2 || row.first == row.last)

/-- No row leads to what a row holds. -/
theorem lowerRows_misses :
    (lowerRows.all fun row => lowerRows.all row.misses) = true := by
  decide +kernel

theorem CaseRow.holds_eq_false_of_misses {row other : CaseRow} {code : Nat}
    (missed : row.misses other = true) (held : row.holds code = true) :
    other.holds (row.lower + (code - row.first)) = false := by
  simp only [CaseRow.misses, Nat.blt_eq, Bool.or_eq_true, Bool.and_eq_true,
    beq_iff_eq] at missed
  simp only [CaseRow.holds, Bool.and_eq_true, decide_eq_true_eq,
    beq_iff_eq] at held
  rw [Bool.eq_false_iff]
  simp only [CaseRow.holds, ne_eq, Bool.and_eq_true, decide_eq_true_eq,
    beq_iff_eq]
  rcases missed with (below | above) | ⟨⟨stride, odd⟩, even | only⟩
  · omega
  · omega
  · rw [even] at held
    rw [stride]
    omega
  · rw [stride]
    omega

theorem lowerCode_of_find? {row : CaseRow} {code : Nat} (beyond : 0x80 ≤ code)
    (found : lowerRows.find? (·.holds code) = some row) :
    lowerCode code = row.lower + (code - row.first) := by
  rw [lowerCode, if_neg (by omega), found]

theorem lowerCode_of_none {code : Nat} (beyond : 0x80 ≤ code)
    (none : lowerRows.find? (·.holds code) = none) : lowerCode code = code := by
  rw [lowerCode, if_neg (by omega), none]

theorem lowerCode_of_ascii {code : Nat} (ascii : code < 0x80)
    (not_capital : ¬ (0x41 ≤ code ∧ code ≤ 0x5A)) : lowerCode code = code := by
  rw [lowerCode, if_pos ascii, if_neg (by simpa using not_capital)]

theorem lowerCode_of_capital {code : Nat} (first : 0x41 ≤ code)
    (last : code ≤ 0x5A) : lowerCode code = code + 0x20 := by
  rw [lowerCode, if_pos (by omega), if_pos (by simp [first, last])]

/-- A small letter is its own small letter. -/
theorem lowerCode_lowerCode (code : Nat) :
    lowerCode (lowerCode code) = lowerCode code := by
  by_cases ascii : code < 0x80
  · by_cases capital : 0x41 ≤ code ∧ code ≤ 0x5A
    · rw [lowerCode_of_capital capital.1 capital.2]
      apply lowerCode_of_ascii <;> omega
    · rw [lowerCode_of_ascii ascii capital]
      exact lowerCode_of_ascii ascii capital
  · have beyond : 0x80 ≤ code := by omega
    cases found : lowerRows.find? (·.holds code) with
    | none =>
        rw [lowerCode_of_none beyond found]
        exact lowerCode_of_none beyond found
    | some row =>
        have among := List.mem_of_find?_eq_some found
        have held := List.find?_some found
        have missed := List.all_eq_true.mp lowerRows_misses row among
        rw [lowerCode_of_find? beyond found]
        rcases lower_of_mem_lowerRows row among with outside | ⟨kelvin, single⟩
        · apply lowerCode_of_none (by omega)
          rw [List.find?_eq_none]
          intro other among'
          rw [Bool.not_eq_true]
          exact CaseRow.holds_eq_false_of_misses
            (List.all_eq_true.mp missed other among') held
        · simp only [CaseRow.holds, Bool.and_eq_true, decide_eq_true_eq] at held
          apply lowerCode_of_ascii <;> omega

/-- A code point to which no row leads, and which is no small letter of ASCII,
comes from itself alone. -/
theorem eq_of_lowerCode_eq {code target : Nat}
    (not_small : ¬ (0x61 ≤ target ∧ target ≤ 0x7A))
    (apart : ∀ row ∈ lowerRows, row.lower + (row.last - row.first) < target ∨
      target < row.lower)
    (same : lowerCode code = target) : code = target := by
  by_cases ascii : code < 0x80
  · by_cases capital : 0x41 ≤ code ∧ code ≤ 0x5A
    · rw [lowerCode_of_capital capital.1 capital.2] at same
      omega
    · rwa [lowerCode_of_ascii ascii capital] at same
  · have beyond : 0x80 ≤ code := by omega
    cases found : lowerRows.find? (·.holds code) with
    | none => rwa [lowerCode_of_none beyond found] at same
    | some row =>
        have held := List.find?_some found
        have outside := apart row (List.mem_of_find?_eq_some found)
        rw [lowerCode_of_find? beyond found] at same
        simp only [CaseRow.holds, Bool.and_eq_true, decide_eq_true_eq] at held
        omega

/-! ### Characters -/

/-- Lower-casing leaves a character as it is, wherever it stands. -/
structure IsSmall (c : Char) : Prop where
  own : lowerChar c = [c]
  not_sigma : c ≠ 'Σ'

/-- No row leads to one of the two characters that need more than a look-up. -/
theorem apart_dotted : ∀ row ∈ lowerRows,
    row.lower + (row.last - row.first) < 'İ'.toNat ∨ 'İ'.toNat < row.lower := by
  decide +kernel

theorem apart_sigma : ∀ row ∈ lowerRows,
    row.lower + (row.last - row.first) < 'Σ'.toNat ∨ 'Σ'.toNat < row.lower := by
  decide +kernel

/-- What stands for a capital letter is small, unless the letter needs more than
a look-up. -/
theorem isSmall_ofNat_lowerCode {c : Char} (not_dotted : c ≠ 'İ')
    (not_sigma : c ≠ 'Σ') : IsSmall (Char.ofNat (lowerCode c.toNat)) := by
  have apart {d : Char} (other : c ≠ d) (not_nul : d ≠ '\x00')
      (not_small : ¬ (0x61 ≤ d.toNat ∧ d.toNat ≤ 0x7A))
      (outside : ∀ row ∈ lowerRows,
        row.lower + (row.last - row.first) < d.toNat ∨ d.toNat < row.lower) :
      Char.ofNat (lowerCode c.toNat) ≠ d := by
    intro same
    have written := eq_toNat_of_ofNat_eq not_nul same
    exact other (Char.toNat_inj.mp (eq_of_lowerCode_eq not_small outside written))
  refine ⟨?_, apart not_sigma (by decide) (by decide) apart_sigma⟩
  rw [lowerChar, if_neg (apart not_dotted (by decide) (by decide) apart_dotted)]
  by_cases nul : Char.ofNat (lowerCode c.toNat) = '\x00'
  · rw [nul]
    decide
  · rw [← eq_toNat_of_ofNat_eq nul rfl, lowerCode_lowerCode]

theorem isSmall_of_mem_lowerChar {c d : Char} (not_sigma : d ≠ 'Σ')
    (found : c ∈ lowerChar d) : IsSmall c := by
  unfold lowerChar at found
  split at found
  · rcases List.mem_pair.mp found with rfl | rfl
    · exact ⟨by decide +kernel, by decide⟩
    · exact ⟨by decide +kernel, by decide⟩
  · rename_i not_dotted
    rw [List.mem_singleton.mp found]
    exact isSmall_ofNat_lowerCode not_dotted not_sigma

/-- No row leads to a blank. -/
theorem blanks_apart_lowered : ∀ span ∈ blanks, ∀ row ∈ lowerRows,
    row.lower + (row.last - row.first) < span.first ∨
      span.last < row.lower := by
  decide +kernel

/-- No blank is a small letter of ASCII. -/
theorem blanks_apart_small : ∀ span ∈ blanks,
    span.last < 0x61 ∨ 0x7A < span.first := by
  decide

/-- A blank in lower case comes from itself. -/
theorem eq_of_mem_lowerChar_of_isBlank {c d : Char} (blank : isBlank c = true)
    (found : c ∈ lowerChar d) : d = c := by
  rcases CharClass.holds_iff.mp blank with ⟨span, among, first, last⟩
  have not_nul : c ≠ '\x00' := by
    rintro rfl
    exact absurd blank (by decide)
  unfold lowerChar at found
  split at found
  · rcases List.mem_pair.mp found with rfl | rfl
    · exact absurd blank (by decide)
    · exact absurd blank (by decide)
  · have written := eq_toNat_of_ofNat_eq not_nul (List.mem_singleton.mp found).symm
    apply Char.toNat_inj.mp
    apply eq_of_lowerCode_eq _ _ written
    · have outside := blanks_apart_small span among
      omega
    · intro row among'
      have outside := blanks_apart_lowered span among row among'
      omega

/-! ### Texts -/

/-- What is written for a character between others, of which `before` holds the
earlier ones, nearest first. -/
def lowerAt (before : List Char) (c : Char) (after : List Char) : List Char :=
  if c = 'Σ' then
    [if meetsCased before && !meetsCased after then 'ς' else 'σ']
  else
    lowerChar c

theorem lowerCharsFrom_cons (before : List Char) (c : Char)
    (after : List Char) :
    lowerCharsFrom before (c :: after) =
      lowerAt before c after ++ lowerCharsFrom (c :: before) after := rfl

variable {before after text : List Char} {c d : Char}

theorem lowerAt_ne_nil : lowerAt before c after ≠ [] := by
  unfold lowerAt lowerChar
  split
  · simp
  · split <;> simp

theorem isSmall_of_mem_lowerAt (found : c ∈ lowerAt before d after) :
    IsSmall c := by
  unfold lowerAt at found
  split at found
  · rw [List.mem_singleton.mp found]
    split
    · exact ⟨by decide +kernel, by decide⟩
    · exact ⟨by decide +kernel, by decide⟩
  · rename_i not_sigma
    exact isSmall_of_mem_lowerChar not_sigma found

theorem eq_of_mem_lowerAt (blank : isBlank c = true)
    (found : c ∈ lowerAt before d after) : d = c := by
  unfold lowerAt at found
  split at found
  · rw [List.mem_singleton.mp found] at blank
    split at blank
    · exact absurd blank (by decide)
    · exact absurd blank (by decide)
  · exact eq_of_mem_lowerChar_of_isBlank blank found

/-- Every character of a text in lower case is small. -/
theorem isSmall_of_mem_lowerCharsFrom
    (found : c ∈ lowerCharsFrom before text) : IsSmall c := by
  induction text generalizing before with
  | nil => cases found
  | cons d rest ih =>
      rw [lowerCharsFrom_cons, List.mem_append] at found
      rcases found with here | later
      · exact isSmall_of_mem_lowerAt here
      · exact ih later

/-- A text of small characters is in lower case. -/
theorem lowerCharsFrom_of_isSmall (small : ∀ c ∈ text, IsSmall c) :
    lowerCharsFrom before text = text := by
  induction text generalizing before with
  | nil => rfl
  | cons d rest ih =>
      have first := small d List.mem_cons_self
      rw [lowerCharsFrom_cons, lowerAt, if_neg first.not_sigma, first.own,
        ih fun c found => small c (List.mem_cons_of_mem d found)]
      rfl

/-- Lower-casing twice is lower-casing once. -/
theorem lowerChars_lowerChars (text : List Char) :
    lowerChars (lowerChars text) = lowerChars text := by
  apply lowerCharsFrom_of_isSmall
  intro c found
  exact isSmall_of_mem_lowerCharsFrom found

/-! ### Blanks at the ends -/

/-- No blank stands at either end. -/
structure Unblanked (text : List Char) : Prop where
  head : ∀ c ∈ text.head?, isBlank c = false
  last : ∀ c ∈ text.getLast?, isBlank c = false

theorem trimChars_eq_rdropWhile (text : List Char) :
    trimChars text = (text.dropWhile isBlank).rdropWhile isBlank := rfl

theorem unblanked_trimChars (text : List Char) :
    Unblanked (trimChars text) := by
  rw [trimChars_eq_rdropWhile]
  constructor
  · intro c starts
    have within := List.rdropWhile_prefix isBlank (text.dropWhile isBlank)
    obtain ⟨rest, whole⟩ := within
    have first := List.head?_dropWhile_not isBlank text
    rw [← whole, List.head?_append, Option.mem_def.mp starts] at first
    exact first
  · intro c ends
    obtain ⟨nonempty, rfl⟩ := List.mem_getLast?_eq_getLast ends
    rw [← Bool.not_eq_true]
    exact List.rdropWhile_last_not isBlank _ nonempty

/-- Trimming leaves a text as it is that has no blank at either end. -/
theorem Unblanked.trimChars_eq (unblanked : Unblanked text) :
    trimChars text = text := by
  have front : text.dropWhile isBlank = text := by
    cases text with
    | nil => rfl
    | cons c rest =>
        apply List.dropWhile_cons_of_neg
        rw [unblanked.head c rfl]
        exact Bool.false_ne_true
  rw [trimChars_eq_rdropWhile, front, List.rdropWhile_eq_self_iff]
  intro nonempty
  rw [unblanked.last _ (List.getLast?_eq_some_getLast nonempty)]
  exact Bool.false_ne_true

/-- The last character is written behind all others. -/
theorem exists_lowerCharsFrom_append_singleton (before front : List Char)
    (c : Char) :
    ∃ written earlier, lowerCharsFrom before (front ++ [c]) =
      written ++ lowerAt earlier c [] := by
  induction front generalizing before with
  | nil => exact ⟨[], before, by simp [lowerCharsFrom_cons, lowerCharsFrom]⟩
  | cons d rest ih =>
      obtain ⟨written, earlier, later⟩ := ih (d :: before)
      refine ⟨lowerAt before d (rest ++ [c]) ++ written, earlier, ?_⟩
      rw [List.cons_append, lowerCharsFrom_cons, later, List.append_assoc]

/-- Lower-casing puts no blank at an end. -/
theorem Unblanked.lowerChars (unblanked : Unblanked text) :
    Unblanked (lowerChars text) := by
  constructor
  · intro c starts
    cases text with
    | nil => cases starts
    | cons d rest =>
        rw [Text.lowerChars, lowerCharsFrom_cons,
          List.head?_append_of_ne_nil _ lowerAt_ne_nil] at starts
        rw [Bool.eq_false_iff]
        intro blank
        obtain rfl := eq_of_mem_lowerAt blank (List.mem_of_head? starts)
        exact absurd blank (by simp [unblanked.head d rfl])
  · intro c ends
    rcases List.eq_nil_or_concat' text with rfl | ⟨front, d, rfl⟩
    · cases ends
    · rcases exists_lowerCharsFrom_append_singleton [] front d with
        ⟨written, earlier, shape⟩
      rw [Text.lowerChars, shape,
        List.getLast?_append_of_ne_nil _ lowerAt_ne_nil] at ends
      rw [Bool.eq_false_iff]
      intro blank
      obtain rfl := eq_of_mem_lowerAt blank (List.mem_of_getLast? ends)
      exact absurd blank (by simp [unblanked.last d (by simp)])

/-- A trimmed text stays trimmed in lower case. -/
theorem trimChars_lowerChars_trimChars (text : List Char) :
    trimChars (lowerChars (trimChars text)) = lowerChars (trimChars text) :=
  (unblanked_trimChars text).lowerChars.trimChars_eq

/-! ### Capital and small letters of ASCII -/

/-- A capital letter of ASCII. -/
def IsCapital (c : Char) : Prop :=
  0x41 ≤ c.toNat ∧ c.toNat ≤ 0x5A

theorem toLower_of_not_isCapital (other : ¬ IsCapital c) : c.toLower = c := by
  unfold Char.toLower
  apply dif_neg
  intro capital
  exact other ⟨UInt32.le_iff_toNat_le.mp capital.1,
    UInt32.le_iff_toNat_le.mp capital.2⟩

theorem toNat_toLower_of_isCapital (capital : IsCapital c) :
    c.toLower.toNat = c.toNat + 0x20 := by
  have inRange : c.val ≥ 'A'.val ∧ c.val ≤ 'Z'.val :=
    ⟨UInt32.le_iff_toNat_le.mpr capital.1, UInt32.le_iff_toNat_le.mpr capital.2⟩
  have small : c.toNat + 0x20 < 2 ^ 32 := by
    have last := capital.2
    omega
  unfold Char.toLower
  rw [dif_pos inRange]
  show (c.val + 0x20).toNat = c.val.toNat + 0x20
  rw [UInt32.toNat_add]
  exact Nat.mod_eq_of_lt small

/-- A character that is no letter of ASCII is the small form of itself alone. -/
theorem toLower_eq_iff (outside : 0x7A < d.toNat) : c.toLower = d ↔ c = d := by
  by_cases capital : IsCapital c
  · have small := toNat_toLower_of_isCapital capital
    have last := capital.2
    apply iff_of_false
    · rintro rfl
      omega
    · rintro rfl
      omega
  · rw [toLower_of_not_isCapital capital]

theorem lowerChar_toLower (c : Char) : lowerChar c.toLower = lowerChar c := by
  by_cases capital : IsCapital c
  · have not_dotted : c ≠ 'İ' := by
      rintro rfl
      exact absurd capital.2 (by decide)
    have not_dotted' : c.toLower ≠ 'İ' :=
      fun same => not_dotted ((toLower_eq_iff (by decide)).mp same)
    have own : lowerCode (c.toNat + 0x20) = c.toNat + 0x20 := by
      obtain ⟨first, last⟩ := capital
      apply lowerCode_of_ascii <;> omega
    rw [lowerChar, lowerChar, if_neg not_dotted, if_neg not_dotted',
      toNat_toLower_of_isCapital capital, own,
      lowerCode_of_capital capital.1 capital.2]
  · rw [toLower_of_not_isCapital capital]

/-- No letter of ASCII is case-ignorable. -/
theorem caseIgnorable_apart_letters : ∀ span ∈ caseIgnorable,
    span.last < 0x41 ∨ 0x5A < span.first ∧ span.last < 0x61 ∨
      0x7A < span.first := by
  decide +kernel

theorem caseIgnorable_toLower (c : Char) :
    caseIgnorable.holds c.toLower = caseIgnorable.holds c := by
  by_cases capital : IsCapital c
  · have small := toNat_toLower_of_isCapital capital
    obtain ⟨first, last⟩ := capital
    rw [Bool.eq_iff_iff, CharClass.holds_iff, CharClass.holds_iff]
    apply iff_of_false
    · rintro ⟨span, among, inside⟩
      have apart := caseIgnorable_apart_letters span among
      omega
    · rintro ⟨span, among, inside⟩
      have apart := caseIgnorable_apart_letters span among
      omega
  · rw [toLower_of_not_isCapital capital]

theorem cased_toLower (c : Char) :
    cased.holds c.toLower = cased.holds c := by
  by_cases capital : IsCapital c
  · have small := toNat_toLower_of_isCapital capital
    obtain ⟨first, last⟩ := capital
    rw [Bool.eq_iff_iff, CharClass.holds_iff, CharClass.holds_iff]
    apply iff_of_true
    · refine ⟨⟨0x61, 0x7A⟩, by simp [cased], ?_⟩
      dsimp only
      omega
    · exact ⟨⟨0x41, 0x5A⟩, by simp [cased], first, last⟩
  · rw [toLower_of_not_isCapital capital]

theorem meetsCased_map_toLower (text : List Char) :
    meetsCased (text.map Char.toLower) = meetsCased text := by
  have same : caseIgnorable.holds ∘ Char.toLower = caseIgnorable.holds :=
    funext caseIgnorable_toLower
  rw [meetsCased, meetsCased, List.dropWhile_map, same]
  cases text.dropWhile caseIgnorable.holds with
  | nil => rfl
  | cons c rest => exact cased_toLower c

theorem lowerAt_map_toLower (before : List Char) (c : Char)
    (after : List Char) :
    lowerAt (before.map Char.toLower) c.toLower (after.map Char.toLower) =
      lowerAt before c after := by
  have sigma : c.toLower = 'Σ' ↔ c = 'Σ' := toLower_eq_iff (by decide)
  simp only [lowerAt, sigma, meetsCased_map_toLower, lowerChar_toLower]

/-- Capital letters of ASCII may be made small before a text is lower-cased. -/
theorem lowerCharsFrom_map_toLower (before text : List Char) :
    lowerCharsFrom (before.map Char.toLower) (text.map Char.toLower) =
      lowerCharsFrom before text := by
  induction text generalizing before with
  | nil => rfl
  | cons c rest ih =>
      rw [List.map_cons, lowerCharsFrom_cons, lowerCharsFrom_cons,
        lowerAt_map_toLower, ← List.map_cons, ih]

theorem lowerChars_map_toLower (text : List Char) :
    lowerChars (text.map Char.toLower) = lowerChars text :=
  lowerCharsFrom_map_toLower [] text

end CodeSplit.Text
