/-
Module: CodeSplit.Markup
Purpose: which component tags a source text mentions.
Main exports:
  Markup.normalize, Markup.mentions, Markup.mentionedTags
-/
import CodeSplit.Ascending
import CodeSplit.Text.Blank
import CodeSplit.Text.LetterCase

namespace CodeSplit.Markup

/-!
No source text is parsed.  It is brought into a normal form in which every
character that can stand next to a tag in markup or in a string literal is a
`|`, and every run of blanks is a `~`.  A text mentions a tag when its normal
form holds the tag right behind a `|` and right before a `|` or a `~`.  This
finds `<my-tag>`, `<my-tag/>`, `</my-tag>`, `h('my-tag')` and tags whose
attributes start on the next line; a word of prose has a blank in front of it
and is never found.
-/

/-- Stands for the markup characters. -/
def markupBoundary : Char := '|'

/-- Stands for a run of blanks. -/
def blankBoundary : Char := '~'

/-- The characters that surround a tag in markup and in string literals. -/
def isMarkup (c : Char) : Bool :=
  c = '<' || c = '>' || c = '/' || c = '\'' || c = '"' || c = '\x60'

/-- Write `_` for every two slashes, from the left, so that a line comment
opens no tag. -/
def replaceSlashPairs : List Char → List Char
  | '/' :: '/' :: rest => '_' :: replaceSlashPairs rest
  | c :: rest => c :: replaceSlashPairs rest
  | [] => []

/-- Write `|` for every markup character. -/
def replaceMarkup (cs : List Char) : List Char :=
  cs.map fun c => if isMarkup c then markupBoundary else c

/-- Write `~` for every run of blanks; `inRun` tells whether a run has already
been written. -/
def replaceBlanks (inRun : Bool) : List Char → List Char
  | [] => []
  | c :: rest =>
      if Text.isBlank c then
        if inRun then replaceBlanks true rest
        else blankBoundary :: replaceBlanks true rest
      else
        c :: replaceBlanks false rest

/-- The normal form of the characters of a text. -/
def normalizeChars (cs : List Char) : List Char :=
  markupBoundary ::
    replaceBlanks false
      (replaceMarkup (replaceSlashPairs (Text.lowerChars cs))) ++
    [markupBoundary]

/-- The normal form of a text. -/
def normalize (text : String) : String :=
  String.ofList (normalizeChars text.toList)

/-- Whether `part` stands somewhere in the characters. -/
def occursIn (part : List Char) : List Char → Bool
  | [] => part.isEmpty
  | c :: rest => part.isPrefixOf (c :: rest) || occursIn part rest

/-- Whether characters in normal form mention a tag, which is compared as it
is. -/
def mentionsIn (normal : List Char) (tag : List Char) : Bool :=
  !tag.isEmpty &&
    (occursIn (markupBoundary :: tag ++ [markupBoundary]) normal ||
      occursIn (markupBoundary :: tag ++ [blankBoundary]) normal)

/-- Whether a text mentions a tag, which is given in lower case. -/
def mentions (text tag : String) : Bool :=
  mentionsIn (normalizeChars text.toList) tag.toList

/-- The tags among `candidates` that a text mentions, in lower case and
ascending order. -/
def mentionedTags (candidates : List String) (text : String) : List String :=
  if text = "" then []
  else
    let normal := normalizeChars text.toList
    ascending ((candidates.map Text.lowerCase).filter fun tag =>
      mentionsIn normal tag.toList)

/-- No text mentions the empty tag. -/
theorem mentions_empty (text : String) : mentions text "" = false := by
  simp [mentions, mentionsIn]

/-- The part occurs exactly when characters can be put around it to give the
whole. -/
theorem occursIn_iff {part whole : List Char} :
    occursIn part whole = true ↔
      ∃ before after, whole = before ++ part ++ after := by
  induction whole with
  | nil =>
      simp only [occursIn, List.isEmpty_iff]
      constructor
      · rintro rfl
        exact ⟨[], [], rfl⟩
      · rintro ⟨before, after, whole⟩
        simp_all
  | cons c rest ih =>
      simp only [occursIn, Bool.or_eq_true, List.isPrefixOf_iff_prefix, ih]
      constructor
      · rintro (⟨after, found⟩ | ⟨before, after, found⟩)
        · exact ⟨[], after, by simp [found]⟩
        · exact ⟨c :: before, after, by simp [found]⟩
      · rintro ⟨before, after, found⟩
        cases before with
        | nil => exact Or.inl ⟨after, by simpa using found.symm⟩
        | cons b before =>
            refine Or.inr ⟨before, after, ?_⟩
            simp only [List.cons_append, List.cons.injEq] at found
            exact found.2

end CodeSplit.Markup
