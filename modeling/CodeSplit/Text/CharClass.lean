/-
Module: CodeSplit.Text.CharClass
Purpose: sets of characters given as spans of code points.
Main exports:
  CodeSpan, CharClass, CharClass.holds
-/

namespace CodeSplit.Text

/-- The code points from `first` to `last`, both included. -/
structure CodeSpan where
  first : Nat
  last : Nat
deriving Repr, DecidableEq

/-- Whether a code point lies in the span. -/
def CodeSpan.holds (span : CodeSpan) (code : Nat) : Bool :=
  span.first ≤ code && code ≤ span.last

/-- A set of characters, as the spans that cover it. -/
abbrev CharClass := List CodeSpan

/-- Whether a character belongs to the class. -/
def CharClass.holds (spans : CharClass) (c : Char) : Bool :=
  spans.any (·.holds c.toNat)

/-- A character is in a class exactly when one of the spans holds it. -/
theorem CharClass.holds_iff {spans : CharClass} {c : Char} :
    CharClass.holds spans c = true ↔
      ∃ span ∈ spans, span.first ≤ c.toNat ∧ c.toNat ≤ span.last := by
  simp [CharClass.holds, CodeSpan.holds]

end CodeSplit.Text
