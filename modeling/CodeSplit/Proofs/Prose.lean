/-
Module: CodeSplit.Proofs.Prose
Purpose: which tags a text without markup mentions.
Main exports:
  Markup.IsProse, Markup.FitsTag, Markup.mentions_prose_iff,
  Markup.mentions_prose_table
-/
import CodeSplit.Proofs.LetterCase
import CodeSplit.Proofs.Mentions
import Mathlib.Data.List.Basic

namespace CodeSplit.Markup

/-!
Prose has no markup character, so two of the rewritings that make its normal form
leave it as it is, and a word in it has a blank on either side.  The signs of the
normal form are printable characters, however, and prose may hold them: a `|`
that is written in the text, as between the cells of a table, is taken for the
markup in front of a tag.  This is the only way in which prose mentions one.
-/

/-- Text without markup, with a blank at either end. -/
structure IsProse (text : List Char) : Prop where
  /-- No character is markup. -/
  unmarked : ∀ c ∈ text, isMarkup c = false
  /-- The first character is a blank. -/
  starts : ∃ c, text.head? = some c ∧ Text.isBlank c = true
  /-- The last character is a blank. -/
  ends : ∃ c, text.getLast? = some c ∧ Text.isBlank c = true

/-- A character that a tag may hold to stand in prose at all: neither blank nor
markup, and no sign of the normal form. -/
def FitsTag (c : Char) : Prop :=
  Text.isBlank c = false ∧ isMarkup c = false ∧ c ∉ ['|', '~']

instance (c : Char) : Decidable (FitsTag c) :=
  inferInstanceAs (Decidable (_ ∧ _ ∧ _))

/-- Whether a text is prose can be checked. -/
instance (text : List Char) : Decidable (IsProse text) :=
  decidable_of_iff ((text.all fun c => !isMarkup c) = true ∧
      text.head?.any Text.isBlank = true ∧
      text.getLast?.any Text.isBlank = true) <| by
    simp only [List.all_eq_true, Bool.not_eq_true', Option.any_eq_true]
    exact ⟨fun given => ⟨given.1, given.2.1, given.2.2⟩,
      fun prose => ⟨prose.unmarked, prose.starts, prose.ends⟩⟩

/-- Whether the characters of a tag fit can be checked. -/
theorem fits_of_all {tag : String}
    (checked : (tag.toList.all fun c => decide (FitsTag c)) = true) :
    ∀ c ∈ tag.toList, FitsTag c := by
  simpa only [List.all_eq_true, decide_eq_true_eq] using checked

/-! ### The normal form of prose -/

theorem isSign_of_isMarkup {c : Char} (markup : isMarkup c = true) :
    Text.IsSign c := by
  simp only [isMarkup, Bool.or_eq_true, decide_eq_true_eq] at markup
  rcases markup with ((((rfl | rfl) | rfl) | rfl) | rfl) | rfl <;> decide

/-- Prose is prose in lower case. -/
theorem IsProse.lowerChars {text : List Char} (prose : IsProse text) :
    IsProse (Text.lowerChars text) where
  unmarked := by
    intro c found
    rw [Bool.eq_false_iff]
    intro markup
    have there := Text.mem_of_mem_lowerChars (isSign_of_isMarkup markup) found
    rw [prose.unmarked c there] at markup
    cases markup
  starts := by
    obtain ⟨c, first, blank⟩ := prose.starts
    exact ⟨c, Text.head?_lowerChars blank first, blank⟩
  ends := by
    obtain ⟨c, last, blank⟩ := prose.ends
    exact ⟨c, Text.getLast?_lowerChars blank last, blank⟩

/-- Without slashes there are no pairs of them. -/
theorem replaceSlashPairs_eq_self {text : List Char} (none : '/' ∉ text) :
    replaceSlashPairs text = text := by
  induction text with
  | nil => rfl
  | cons c rest ih =>
      obtain ⟨other, later⟩ := not_or.mp (List.mem_cons.not.mp none)
      rw [replaceSlashPairs_cons (Ne.symm other), ih later]

theorem replaceMarkup_eq_self {text : List Char}
    (unmarked : ∀ c ∈ text, isMarkup c = false) : replaceMarkup text = text := by
  have kept : ∀ c ∈ text, markupSign c = c := by
    intro c found
    rw [markupSign, if_neg (by simp [unmarked c found])]
  exact (List.map_congr_left kept).trans text.map_id

/-- Only the blanks of unmarked text are rewritten. -/
theorem inner_eq_replaceBlanks {text : List Char}
    (unmarked : ∀ c ∈ text, isMarkup c = false) :
    inner text = replaceBlanks false text := by
  have none : '/' ∉ text := fun found => absurd (unmarked _ found) (by decide)
  rw [inner, Function.comp_apply, Function.comp_apply,
    replaceSlashPairs_eq_self none, replaceMarkup_eq_self unmarked]

/-! ### Tags in prose -/

/-- A tag in prose has a character in front of it and one behind it. -/
theorem IsProse.exists_around {tag before after : List Char}
    (prose : IsProse (before ++ tag ++ after)) (some_char : tag ≠ [])
    (fits : ∀ c ∈ tag, FitsTag c) : before ≠ [] ∧ after ≠ [] := by
  have solid {c : Char} (found : c ∈ tag) (blank : Text.isBlank c = true) :
      False := by
    rw [(fits c found).1] at blank
    cases blank
  constructor
  · rintro rfl
    obtain ⟨c, first, blank⟩ := prose.starts
    rw [List.nil_append, List.head?_append_of_ne_nil _ some_char] at first
    exact solid (List.mem_of_head? first) blank
  · rintro rfl
    obtain ⟨c, last, blank⟩ := prose.ends
    rw [List.append_nil, List.getLast?_append_of_ne_nil _ some_char] at last
    exact solid (List.mem_of_getLast? last) blank

/-- Behind unmarked text a tag is mentioned only if the text ends with `|`. -/
theorem getLast?_cons_replaceBlanks_iff {before : List Char}
    (some_char : before ≠ []) :
    (markupBoundary :: replaceBlanks false before).getLast? =
        some markupBoundary ↔
      ∃ front, before = front ++ ['|'] := by
  have kept : replaceBlanks false before ≠ [] :=
    (replaceBlanks_eq_nil_iff before).not.mpr some_char
  rw [← List.singleton_append, List.getLast?_append_of_ne_nil _ kept,
    carries_markupBoundary.getLast?_eq_some_iff replaceBlanks_eq_nil_iff,
    List.getLast?_eq_some_iff]
  rfl

/-- In front of unmarked text a tag is mentioned only if the text starts with a
blank or a sign of the normal form. -/
theorem head?_replaceBlanks_concat_iff {after : List Char}
    (some_char : after ≠ []) :
    ((replaceBlanks false after ++ [markupBoundary]).head? =
          some markupBoundary ∨
        (replaceBlanks false after ++ [markupBoundary]).head? =
          some blankBoundary) ↔
      ∃ c back, after = c :: back ∧
        (Text.isBlank c = true ∨ c = '|' ∨ c = '~') := by
  have kept : replaceBlanks false after ≠ [] :=
    (replaceBlanks_eq_nil_iff after).not.mpr some_char
  obtain ⟨c, back, rfl⟩ := List.exists_cons_of_ne_nil some_char
  rw [List.head?_append_of_ne_nil _ kept,
    carries_markupBoundary.head?_eq_some_iff replaceBlanks_eq_nil_iff,
    blankBoundary, head?_replaceBlanks_eq_tilde_iff]
  simp only [List.head?_cons, Option.some.injEq, List.cons.injEq,
    markupBoundary]
  constructor
  · rintro (rfl | ⟨_, rfl, sign⟩)
    · exact ⟨_, back, ⟨rfl, rfl⟩, Or.inr (Or.inl rfl)⟩
    · exact ⟨_, back, ⟨rfl, rfl⟩, sign.imp_right Or.inr⟩
  · rintro ⟨_, _, ⟨rfl, rfl⟩, blank | rfl | rfl⟩
    · exact Or.inr ⟨_, rfl, Or.inl blank⟩
    · exact Or.inl rfl
    · exact Or.inr ⟨_, rfl, Or.inr rfl⟩

/-- Characters that fit are carried over when blanks are replaced. -/
theorem carries_replaceBlanks_of_fits {tag : List Char} (some_char : tag ≠ [])
    (fits : ∀ c ∈ tag, FitsTag c) : Carries (replaceBlanks false) tag := by
  refine Carries.ofChars replaceBlanks_eq_nil_iff some_char fun c found => ?_
  obtain ⟨solid, _, unmade⟩ := fits c found
  apply carries_replaceBlanks solid
  rintro rfl
  exact unmade (by decide)

/-- Prose mentions a tag where the tag stands between two signs. -/
theorem IsProse.mentions_iff {text tag : String} (prose : IsProse text.toList)
    (some_char : tag ≠ "") (fits : ∀ c ∈ tag.toList, FitsTag c) :
    mentions text tag = true ↔ ∃ before c after,
      (Text.lowerCase text).toList =
        before ++ '|' :: tag.toList ++ c :: after ∧
      (Text.isBlank c = true ∨ c = '|' ∨ c = '~') := by
  have some_part : tag.toList ≠ [] := by
    rwa [ne_eq, String.toList_eq_nil_iff]
  have carried := carries_replaceBlanks_of_fits some_part fits
  rw [mentions_iff_exists some_char, Text.lowerCase, String.toList_ofList,
    inner_eq_replaceBlanks prose.lowerChars.unmarked]
  constructor
  · intro given
    obtain ⟨_, _, split, opens, closes⟩ := given
    obtain ⟨before, after, lower, rfl, rfl⟩ := (carried _ _ _).mp split
    obtain ⟨behind, ahead⟩ :=
      (lower ▸ prose.lowerChars).exists_around some_part fits
    obtain ⟨front, rfl⟩ := (getLast?_cons_replaceBlanks_iff behind).mp opens
    obtain ⟨c, back, rfl, sign⟩ :=
      (head?_replaceBlanks_concat_iff ahead).mp closes
    exact ⟨front, c, back, by simpa using lower, sign⟩
  · intro given
    obtain ⟨front, c, back, lower, sign⟩ := given
    refine ⟨_, _, (carried _ _ _).mpr ⟨front ++ ['|'], c :: back, ?_, rfl, rfl⟩,
      ?_, ?_⟩
    · simpa using lower
    · exact (getLast?_cons_replaceBlanks_iff (by simp)).mpr ⟨front, rfl⟩
    · exact (head?_replaceBlanks_concat_iff (by simp)).mpr ⟨c, back, rfl, sign⟩

/-- Prose mentions a tag exactly where a `|` is written in front of the tag and a
blank, a `|` or a `~` behind it.  Prose without a `|` mentions no tag. -/
theorem mentions_prose_iff {text tag : String} (prose : IsProse text.toList)
    (fits : ∀ c ∈ tag.toList, FitsTag c) :
    (mentions text tag = true ↔ tag ≠ "" ∧
      ∃ before c after, (Text.lowerCase text).toList =
          before ++ '|' :: tag.toList ++ c :: after ∧
        (Text.isBlank c = true ∨ c = '|' ∨ c = '~')) ∧
    ('|' ∉ text.toList → mentions text tag = false) := by
  by_cases empty : tag = ""
  · simp [empty, mentions_empty]
  have stands := prose.mentions_iff empty fits
  refine ⟨by rw [stands, and_iff_right empty], fun none => ?_⟩
  rw [Bool.eq_false_iff, ne_eq, stands]
  intro given
  obtain ⟨before, c, after, lower, _⟩ := given
  rw [Text.lowerCase, String.toList_ofList] at lower
  have there : '|' ∈ Text.lowerChars text.toList := by
    rw [lower]
    simp
  exact none (Text.mem_of_mem_lowerChars (by decide) there)

/-- A list item with its blanks is prose, and mentions no tag. -/
theorem mentions_prose_iff_list_item :
    IsProse "\n* shop-app\n".toList ∧
      mentions "\n* shop-app\n" "shop-app" = false := by
  have prose : IsProse "\n* shop-app\n".toList := by decide
  have fits : ∀ c ∈ "shop-app".toList, FitsTag c := fits_of_all (by decide)
  exact ⟨prose, (mentions_prose_iff prose fits).2 (by decide)⟩

/-- The row of a table is prose, and mentions the tags in its cells. -/
theorem mentions_prose_table :
    ¬ ∀ text tag : String, IsProse text.toList →
      (∀ c ∈ tag.toList, FitsTag c) → mentions text tag = false := by
  intro never
  have prose : IsProse "\n|shop-app|shop-menu|\n".toList := by decide
  have fits : ∀ c ∈ "shop-app".toList, FitsTag c := fits_of_all (by decide)
  have none := never "\n|shop-app|shop-menu|\n" "shop-app" prose fits
  have found : mentions "\n|shop-app|shop-menu|\n" "shop-app" = true := by
    decide +kernel
  rw [none] at found
  cases found

end CodeSplit.Markup
