/-
Module: CodeSplit.Proofs.CaselessSearch
Purpose: the search of a text for tags looks neither at the case of letters of
  ASCII nor at the order and the repetitions of the candidates.
Main exports:
  Text.SameLetters, Markup.SameCandidates, Markup.mentionedTags_caseless
-/
import CodeSplit.Proofs.Lowered
import CodeSplit.Proofs.SourceEdges

namespace CodeSplit

/-! ### Texts in another case -/

namespace Text

/-- Texts that differ in nothing but the case of letters of ASCII. -/
def SameLetters (one other : String) : Prop :=
  one.toList.map Char.toLower = other.toList.map Char.toLower

namespace SameLetters

instance (one other : String) : Decidable (SameLetters one other) :=
  inferInstanceAs (Decidable (_ = _))

variable {one other : String}

/-- Such texts are one text in lower case, although a `Σ` in them is written by
the letters around it. -/
theorem lowerChars_eq (same : SameLetters one other) :
    lowerChars one.toList = lowerChars other.toList := by
  rw [← lowerChars_map_toLower one.toList, same, lowerChars_map_toLower]

theorem lowerCase_eq (same : SameLetters one other) :
    lowerCase one = lowerCase other := by
  rw [lowerCase, same.lowerChars_eq, lowerCase]

end SameLetters

end Text

/-! ### The search -/

namespace Markup

/-- Lists with the same candidates, but for the order and the repetitions of
these and the case of their letters of ASCII. -/
structure SameCandidates (one other : List String) : Prop where
  found : ∀ candidate ∈ one, ∃ spelled ∈ other,
    Text.SameLetters candidate spelled
  found_back : ∀ candidate ∈ other, ∃ spelled ∈ one,
    Text.SameLetters candidate spelled

variable {text text' : String} {candidates candidates' : List String}

/-- Texts that differ in the case of their letters have one normal form. -/
theorem normalizeChars_of_sameLetters (texts : Text.SameLetters text text') :
    normalizeChars text.toList = normalizeChars text'.toList := by
  rw [normalizeChars, texts.lowerChars_eq, normalizeChars]

theorem mentions_of_sameLetters (texts : Text.SameLetters text text')
    (tag : String) : mentions text tag = mentions text' tag := by
  rw [mentions, normalizeChars_of_sameLetters texts, mentions]

/-- Spelled in another case, candidates are the same in lower case. -/
theorem exists_lowerCase_of_found
    (found : ∀ candidate ∈ candidates, ∃ spelled ∈ candidates',
      Text.SameLetters candidate spelled) {tag : String}
    (among : ∃ candidate ∈ candidates, Text.lowerCase candidate = tag) :
    ∃ candidate ∈ candidates', Text.lowerCase candidate = tag := by
  rcases among with ⟨candidate, listed, rfl⟩
  rcases found candidate listed with ⟨spelled, listed', same⟩
  exact ⟨spelled, listed', same.lowerCase_eq.symm⟩

theorem SameCandidates.exists_lowerCase_iff
    (lists : SameCandidates candidates candidates') {tag : String} :
    (∃ candidate ∈ candidates, Text.lowerCase candidate = tag) ↔
      ∃ candidate ∈ candidates', Text.lowerCase candidate = tag :=
  ⟨exists_lowerCase_of_found lists.found,
    exists_lowerCase_of_found lists.found_back⟩

/-- The case of letters of ASCII, in the text and in the candidates, and the order
and the repetitions of the candidates change nothing in what is found: the
candidates in lower case that the text mentions, in strictly ascending order. -/
theorem mentionedTags_caseless (texts : Text.SameLetters text text')
    (lists : SameCandidates candidates candidates') :
    mentionedTags candidates text = mentionedTags candidates' text' ∧
    (mentionedTags candidates text).Pairwise (· < ·) ∧
    ∀ tag, tag ∈ mentionedTags candidates text ↔
      (∃ candidate ∈ candidates, Text.lowerCase candidate = tag) ∧
        mentions text tag = true := by
  have ascends := mentionedTags_pairwise candidates text
  refine ⟨?_, ascends, fun tag => mem_mentionedTags⟩
  apply ascends.eq_of_mem_iff (mentionedTags_pairwise candidates' text')
  intro tag
  rw [mem_mentionedTags, mem_mentionedTags, lists.exists_lowerCase_iff,
    mentions_of_sameLetters texts]

/-- The letter in front of a `Σ` decides how it is written in lower case, but
capital letters do so like small ones. -/
theorem mentionedTags_caseless_sigma :
    Text.SameLetters "h('ShopΣ')" "H('sHOPΣ')" ∧
    SameCandidates ["SHOPΣ", "shop-app"] ["shop-APP", "shopΣ", "ShopΣ"] ∧
    mentionedTags ["SHOPΣ", "shop-app"] "h('ShopΣ')" = ["shopς"] ∧
    mentionedTags ["shop-APP", "shopΣ", "ShopΣ"] "H('sHOPΣ')" = ["shopς"] := by
  have texts : Text.SameLetters "h('ShopΣ')" "H('sHOPΣ')" := by decide
  have lists : SameCandidates ["SHOPΣ", "shop-app"]
      ["shop-APP", "shopΣ", "ShopΣ"] := ⟨by decide, by decide⟩
  have found : mentionedTags ["SHOPΣ", "shop-app"] "h('ShopΣ')" =
      ["shopς"] := by
    decide +kernel
  refine ⟨texts, lists, found, ?_⟩
  rw [← (mentionedTags_caseless texts lists).1, found]

end Markup

end CodeSplit
