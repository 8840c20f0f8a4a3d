/-
Module: CodeSplit.Proofs.Mentions
Purpose: what it takes for a text to mention a tag, said of the text itself and
  not of its normal form.
Main exports:
  Markup.OpensTag, Markup.ClosesTag, Markup.Carries, Markup.mentions_iff_stands
-/
import CodeSplit.Markup
import Mathlib.Tactic.SplitIfs
import Mathlib.Tactic.Tauto

namespace CodeSplit.Markup

/-!
The normal form of a text is made in four rewritings.  Each of them carries a
plain tag over: it neither changes the tag nor makes one, and rewrites what is in
front of the tag and behind it as if the tag were not there.  So a place of the
tag in the normal form is a place in the lower-cased text, and what remains is to
say which texts are rewritten to something that ends with `|`, and which to
something that starts with `|` or `~`.
-/

/-! ### What may stand around a tag -/

/-- The characters that a tag may stand next to on either side, besides the
slash. -/
def delimiters : List Char := ['<', '>', '\'', '"', '\x60', '|']

/-- The number of slashes that the text ends with. -/
def slashesAtEnd (text : List Char) : Nat :=
  (text.reverse.takeWhile (· = '/')).length

/-- The number of slashes that the text starts with. -/
def slashesAtStart (text : List Char) : Nat :=
  (text.takeWhile (· = '/')).length

/-- A tag is mentioned only behind such a text: an empty one, or one that ends
with a delimiter or with an odd number of slashes. -/
def OpensTag (before : List Char) : Prop :=
  before = [] ∨ (∃ c, before.getLast? = some c ∧ c ∈ delimiters) ∨
    slashesAtEnd before % 2 = 1

/-- A tag is mentioned only in front of such a text: an empty one, or one that
starts with a blank, a delimiter, `~` or exactly one slash. -/
def ClosesTag (after : List Char) : Prop :=
  after = [] ∨
    (∃ c, after.head? = some c ∧
      (Text.isBlank c = true ∨ c ∈ delimiters ∨ c = '~')) ∨
    slashesAtStart after = 1

/-- A character is plain when it is neither blank nor markup, and stands for
neither in a normal form. -/
def IsPlain (c : Char) : Prop :=
  Text.isBlank c = false ∧ isMarkup c = false ∧ c ∉ ['|', '~', '_']

instance (c : Char) : Decidable (IsPlain c) :=
  inferInstanceAs (Decidable (_ ∧ _ ∧ _))

/-! ### Rewritings that carry a part over -/

/-- A rewriting carries a part over: wherever the part stands in the result it
stood in the text, and what is in front of it and behind it is rewritten on its
own. -/
def Carries (rewrite : List Char → List Char) (part : List Char) : Prop :=
  ∀ text front back, rewrite text = front ++ part ++ back ↔
    ∃ before after, text = before ++ part ++ after ∧
      rewrite before = front ∧ rewrite after = back

namespace Carries

variable {first second rewrite : List Char → List Char} {part : List Char}

/-- What two rewritings carry over, one after the other does. -/
theorem comp (carried : Carries first part) (carried' : Carries second part) :
    Carries (second ∘ first) part := by
  intro text front back
  rw [Function.comp_apply, carried']
  constructor
  · intro given
    obtain ⟨before, after, split, rfl, rfl⟩ := given
    obtain ⟨before, after, rfl, rfl, rfl⟩ := (carried text _ _).mp split
    exact ⟨before, after, rfl, rfl, rfl⟩
  · intro given
    obtain ⟨before, after, rfl, rfl, rfl⟩ := given
    exact ⟨_, _, (carried _ _ _).mpr ⟨before, after, rfl, rfl, rfl⟩, rfl, rfl⟩

/-- A part is carried over when each of its characters is, unless the rewriting
can lose a whole text. -/
theorem ofChars (kept : ∀ text, rewrite text = [] ↔ text = [])
    (some_char : part ≠ []) (chars : ∀ c ∈ part, Carries rewrite [c]) :
    Carries rewrite part := by
  induction part with
  | nil => exact absurd rfl some_char
  | cons c rest ih =>
      have own := chars c List.mem_cons_self
      by_cases last : rest = []
      · subst last
        exact own
      have carried := ih last fun d found => chars d (List.mem_cons_of_mem _ found)
      intro text front back
      have shift (before after : List Char) :
          before ++ c :: rest ++ after = before ++ [c] ++ ([] ++ rest ++ after) := by
        simp
      rw [shift, own]
      constructor
      · intro given
        obtain ⟨before, middle, rfl, rfl, split⟩ := given
        obtain ⟨gap, after, rfl, none, rfl⟩ := (carried _ _ _).mp split
        rw [kept] at none
        subst none
        exact ⟨before, after, (shift before after).symm, rfl, rfl⟩
      · intro given
        obtain ⟨before, after, rfl, rfl, rfl⟩ := given
        refine ⟨before, _, shift before after, rfl, ?_⟩
        exact (carried _ _ _).mpr ⟨[], after, rfl, (kept []).mpr rfl, rfl⟩

/-- A character that is carried over ends the result where it ends the text. -/
theorem getLast?_eq_some_iff (kept : ∀ text, rewrite text = [] ↔ text = [])
    {c : Char} (carried : Carries rewrite [c]) (text : List Char) :
    (rewrite text).getLast? = some c ↔ text.getLast? = some c := by
  rw [List.getLast?_eq_some_iff, List.getLast?_eq_some_iff]
  constructor
  · intro given
    obtain ⟨front, split⟩ := given
    rw [← List.append_nil (front ++ [c])] at split
    obtain ⟨before, after, rfl, _, none⟩ := (carried _ _ _).mp split
    rw [kept] at none
    exact ⟨before, by rw [none, List.append_nil]⟩
  · intro given
    obtain ⟨before, rfl⟩ := given
    refine ⟨rewrite before, ?_⟩
    rw [← List.append_nil (rewrite before ++ [c]), carried]
    exact ⟨before, [], by simp, rfl, (kept []).mpr rfl⟩

/-- A character that is carried over starts the result where it starts the
text. -/
theorem head?_eq_some_iff (kept : ∀ text, rewrite text = [] ↔ text = [])
    {c : Char} (carried : Carries rewrite [c]) (text : List Char) :
    (rewrite text).head? = some c ↔ text.head? = some c := by
  rw [List.head?_eq_some_iff, List.head?_eq_some_iff]
  constructor
  · intro given
    obtain ⟨back, split⟩ := given
    obtain ⟨before, after, rfl, none, _⟩ := (carried text [] back).mp split
    rw [kept] at none
    exact ⟨after, by rw [none]; rfl⟩
  · intro given
    obtain ⟨after, rfl⟩ := given
    refine ⟨rewrite after, (carried _ [] _).mpr ⟨[], after, rfl, ?_, rfl⟩⟩
    exact (kept []).mpr rfl

end Carries

/-! ### Pairs of slashes -/

theorem replaceSlashPairs_cons {c : Char} (other : c ≠ '/')
    (rest : List Char) :
    replaceSlashPairs (c :: rest) = c :: replaceSlashPairs rest :=
  replaceSlashPairs.eq_2 c rest fun _ same _ => other same

theorem replaceSlashPairs_eq_nil_iff (text : List Char) :
    replaceSlashPairs text = [] ↔ text = [] := by
  fun_cases replaceSlashPairs text <;> simp

/-- Any character but the two that are looked at or written is carried over. -/
theorem carries_replaceSlashPairs {c : Char} (other : c ≠ '/')
    (unmade : c ≠ '_') : Carries replaceSlashPairs [c] := by
  intro text front back
  constructor
  · intro split
    fun_induction replaceSlashPairs text generalizing front with
    | case1 rest ih =>
        cases front with
        | nil => simp [Ne.symm unmade] at split
        | cons d front =>
            simp only [List.cons_append, List.cons.injEq] at split
            obtain ⟨rfl, split⟩ := split
            obtain ⟨before, after, rfl, rfl, rfl⟩ := ih front split
            exact ⟨'/' :: '/' :: before, after, rfl, by rw [replaceSlashPairs],
              rfl⟩
    | case2 d rest single ih =>
        cases front with
        | nil =>
            simp only [List.nil_append, List.cons_append, List.cons.injEq]
              at split
            obtain ⟨rfl, rfl⟩ := split
            exact ⟨[], rest, rfl, by rw [replaceSlashPairs], rfl⟩
        | cons e front =>
            simp only [List.cons_append, List.cons.injEq] at split
            obtain ⟨rfl, split⟩ := split
            obtain ⟨before, after, rfl, rfl, rfl⟩ := ih front split
            refine ⟨d :: before, after, rfl, ?_, rfl⟩
            refine replaceSlashPairs.eq_2 d before fun others same begins => ?_
            exact single (others ++ [c] ++ after) same (by rw [begins]; rfl)
    | case3 => simp at split
  · intro given
    obtain ⟨before, after, rfl, rfl, rfl⟩ := given
    fun_induction replaceSlashPairs before with
    | case1 rest ih =>
        show replaceSlashPairs ('/' :: '/' :: (rest ++ [c] ++ after)) = _
        rw [replaceSlashPairs, ih]
        rfl
    | case2 d rest single ih =>
        have still : ∀ others, d = '/' →
            rest ++ [c] ++ after = '/' :: others → False := by
          intro others same begins
          cases rest with
          | nil => exact other (List.cons.inj begins).1
          | cons e rest =>
              exact single rest same (by rw [(List.cons.inj begins).1])
        show replaceSlashPairs (d :: (rest ++ [c] ++ after)) = _
        rw [replaceSlashPairs.eq_2 d _ still, ih]
        rfl
    | case3 => exact replaceSlashPairs_cons other after

theorem slashesAtEnd_le_length (text : List Char) :
    slashesAtEnd text ≤ text.length := by
  rw [slashesAtEnd, ← text.length_reverse]
  exact (List.takeWhile_sublist _).length_le

/-- A character in front counts among the slashes at the end only if there is
nothing but slashes. -/
theorem slashesAtEnd_cons (c : Char) (rest : List Char) :
    slashesAtEnd (c :: rest) =
      if slashesAtEnd rest = rest.length ∧ c = '/' then rest.length + 1
      else slashesAtEnd rest := by
  have whole :=
    @List.takeWhile_append _ (fun d => decide (d = '/')) rest.reverse [c]
  rw [slashesAtEnd, slashesAtEnd, List.reverse_cons, whole,
    List.length_reverse]
  by_cases slash : c = '/' <;> split_ifs <;> simp_all

/-- What is left of a text ends with a slash where the text ends with an odd
number of them. -/
theorem getLast?_replaceSlashPairs_eq_slash_iff (text : List Char) :
    (replaceSlashPairs text).getLast? = some '/' ↔
      slashesAtEnd text % 2 = 1 := by
  fun_induction replaceSlashPairs text with
  | case1 rest ih =>
      have bound := slashesAtEnd_le_length rest
      have ends : ('_' :: replaceSlashPairs rest).getLast? = some '/' ↔
          (replaceSlashPairs rest).getLast? = some '/' := by
        rw [List.getLast?_cons]
        cases (replaceSlashPairs rest).getLast? <;> simp
      have parity : slashesAtEnd ('/' :: '/' :: rest) % 2 =
          slashesAtEnd rest % 2 := by
        simp only [slashesAtEnd_cons, and_true, List.length_cons]
        split_ifs <;> omega
      rw [ends, parity, ih]
  | case2 c rest single ih =>
      cases rest with
      | nil => by_cases slash : c = '/' <;> simp [slashesAtEnd, slash,
          replaceSlashPairs]
      | cons d rest =>
          have ends : (c :: replaceSlashPairs (d :: rest)).getLast? =
              (replaceSlashPairs (d :: rest)).getLast? := by
            cases left : replaceSlashPairs (d :: rest) with
            | nil => simp [replaceSlashPairs_eq_nil_iff] at left
            | cons e others => rw [List.getLast?_cons_cons]
          have count : slashesAtEnd (c :: d :: rest) =
              slashesAtEnd (d :: rest) := by
            rw [slashesAtEnd_cons]
            apply if_neg
            intro given
            obtain ⟨all, slash⟩ := given
            have bound := slashesAtEnd_le_length rest
            rw [slashesAtEnd_cons] at all
            split_ifs at all with begins
            · exact single rest slash (by rw [begins.2])
            · simp only [List.length_cons] at all
              omega
          rw [ends, count, ih]
  | case3 => simp [slashesAtEnd]

/-- What is left of a text starts with a slash where the text starts with exactly
one. -/
theorem head?_replaceSlashPairs_eq_slash_iff (text : List Char) :
    (replaceSlashPairs text).head? = some '/' ↔ slashesAtStart text = 1 := by
  fun_cases replaceSlashPairs text with
  | case1 rest => simp [slashesAtStart]
  | case2 c rest single =>
      by_cases slash : c = '/'
      · cases rest with
        | nil => simp [slashesAtStart, slash]
        | cons d rest =>
            have other : d ≠ '/' := fun same =>
              single rest slash (by rw [same])
            simp [slashesAtStart, slash, other]
      · simp [slashesAtStart, slash]
  | case3 => simp [slashesAtStart]

/-! ### Markup and blanks -/

/-- What stands for a character once markup is replaced. -/
def markupSign (c : Char) : Char :=
  if isMarkup c then markupBoundary else c

theorem replaceMarkup_eq_nil_iff (text : List Char) :
    replaceMarkup text = [] ↔ text = [] :=
  List.map_eq_nil_iff

/-- Any character but the markup and what is written for it is carried over. -/
theorem carries_replaceMarkup {c : Char} (other : isMarkup c = false)
    (unmade : c ≠ '|') : Carries replaceMarkup [c] := by
  have sign_eq (d : Char) : markupSign d = c ↔ d = c := by
    unfold markupSign
    constructor
    · intro same
      split at same
      · exact absurd same.symm unmade
      · exact same
    · rintro rfl
      rw [if_neg (by simp [other])]
  intro text front back
  show text.map markupSign = _ ↔ _
  rw [List.map_eq_append_iff]
  constructor
  · intro given
    obtain ⟨middle, after, rfl, split, rfl⟩ := given
    obtain ⟨before, own, rfl, rfl, single⟩ := List.map_eq_append_iff.mp split
    obtain ⟨d, rfl, same⟩ := List.map_eq_singleton_iff.mp single
    rw [sign_eq] at same
    exact ⟨before, after, by rw [same], rfl, rfl⟩
  · intro given
    obtain ⟨before, after, rfl, rfl, rfl⟩ := given
    refine ⟨before ++ [c], after, rfl, ?_, rfl⟩
    rw [List.map_append, List.map_singleton, (sign_eq c).mpr rfl]
    rfl

theorem replaceBlanks_eq_nil_iff (text : List Char) :
    replaceBlanks false text = [] ↔ text = [] := by
  cases text with
  | nil => simp [replaceBlanks]
  | cons c rest => by_cases blank : Text.isBlank c <;>
      simp [replaceBlanks, blank]

/-- Any character but a blank and what is written for blanks is carried over. -/
theorem carries_replaceBlanks {c : Char} (solid : Text.isBlank c = false)
    (unmade : c ≠ '~') : Carries (replaceBlanks false) [c] := by
  -- Behind a blank the text goes on as a run, so both states are looked at.
  suffices carried : ∀ inRun text front back,
      replaceBlanks inRun text = front ++ [c] ++ back ↔
        ∃ before after, text = before ++ [c] ++ after ∧
          replaceBlanks inRun before = front ∧
          replaceBlanks false after = back from
    carried false
  intro inRun text front back
  constructor
  · intro split
    induction text generalizing inRun front with
    | nil => simp [replaceBlanks] at split
    | cons d rest ih =>
        rw [replaceBlanks] at split
        split_ifs at split with blank seen
        · obtain ⟨before, after, rfl, rfl, rfl⟩ := ih true front split
          exact ⟨d :: before, after, rfl, by simp [replaceBlanks, blank, seen],
            rfl⟩
        · cases front with
          | nil => exact absurd (List.cons.inj split).1.symm unmade
          | cons e front =>
              obtain ⟨rfl, later⟩ := List.cons.inj split
              obtain ⟨before, after, rfl, rfl, rfl⟩ := ih true front later
              exact ⟨d :: before, after, rfl,
                by simp [replaceBlanks, blank, seen], rfl⟩
        · cases front with
          | nil =>
              obtain ⟨rfl, rfl⟩ := List.cons.inj split
              exact ⟨[], rest, rfl, by rw [replaceBlanks], rfl⟩
          | cons e front =>
              obtain ⟨rfl, later⟩ := List.cons.inj split
              obtain ⟨before, after, rfl, rfl, rfl⟩ := ih false front later
              exact ⟨d :: before, after, rfl, by simp [replaceBlanks, blank],
                rfl⟩
  · intro given
    obtain ⟨before, after, rfl, rfl, rfl⟩ := given
    induction before generalizing inRun with
    | nil => simp [replaceBlanks, solid]
    | cons d rest ih =>
        have step := ih true
        have step' := ih false
        simp only [List.append_assoc, List.cons_append, List.nil_append]
          at step step'
        by_cases blank : Text.isBlank d = true <;> cases inRun <;>
          simp [replaceBlanks, blank, step, step']

/-- What is left of a text starts with `~` where the text starts with it or with
a blank. -/
theorem head?_replaceBlanks_eq_tilde_iff (text : List Char) :
    (replaceBlanks false text).head? = some '~' ↔
      ∃ c, text.head? = some c ∧ (Text.isBlank c = true ∨ c = '~') := by
  cases text with
  | nil => simp [replaceBlanks]
  | cons c rest => by_cases blank : Text.isBlank c = true <;>
      simp [replaceBlanks, blank, blankBoundary]

/-! ### The normal form between its ends -/

/-- The normal form without the `|` at either end. -/
def inner : List Char → List Char :=
  replaceBlanks false ∘ replaceMarkup ∘ replaceSlashPairs

theorem normalizeChars_eq (text : List Char) :
    normalizeChars text =
      markupBoundary :: inner (Text.lowerChars text) ++ [markupBoundary] := rfl

theorem inner_eq_nil_iff (text : List Char) : inner text = [] ↔ text = [] := by
  rw [inner, Function.comp_apply, replaceBlanks_eq_nil_iff,
    Function.comp_apply, replaceMarkup_eq_nil_iff,
    replaceSlashPairs_eq_nil_iff]

/-- A plain tag is carried over into the normal form. -/
theorem carries_inner {tag : List Char} (some_char : tag ≠ [])
    (plain : ∀ c ∈ tag, IsPlain c) : Carries inner tag := by
  refine Carries.ofChars inner_eq_nil_iff some_char fun c found => ?_
  obtain ⟨solid, other, unmade⟩ := plain c found
  simp only [List.mem_cons, List.not_mem_nil, or_false, not_or] at unmade
  have not_slash : c ≠ '/' := by
    rintro rfl
    exact absurd other (by decide)
  exact ((carries_replaceSlashPairs not_slash unmade.2.2).comp
    (carries_replaceMarkup other unmade.1)).comp
      (carries_replaceBlanks solid unmade.2.1)

theorem markupSign_eq_markupBoundary_iff (c : Char) :
    markupSign c = markupBoundary ↔ c = '/' ∨ c ∈ delimiters := by
  simp only [markupSign, markupBoundary, isMarkup, delimiters]
  split_ifs <;> simp_all
  grind

/-- Replacing markup makes no blanks and no `~`. -/
theorem isBlank_markupSign_iff (c : Char) :
    Text.isBlank (markupSign c) = true ∨ markupSign c = blankBoundary ↔
      Text.isBlank c = true ∨ c = blankBoundary := by
  have own (d : Char) (markup : isMarkup d = true) :
      Text.isBlank d = false ∧ d ≠ blankBoundary := by
    simp only [isMarkup, Bool.or_eq_true, decide_eq_true_eq] at markup
    rcases markup with ((((rfl | rfl) | rfl) | rfl) | rfl) | rfl <;> decide
  unfold markupSign
  split_ifs with markup
  · have none := own c markup
    refine iff_of_false (by decide) (not_or.mpr ⟨?_, none.2⟩)
    simp [none.1]
  · exact Iff.rfl

/-- A character that may stand next to a tag is not one that two slashes make. -/
theorem not_written_of_delimiter {c : Char} (found : c ∈ delimiters) :
    c ≠ '/' ∧ c ≠ '_' := by
  simp only [delimiters, List.mem_cons, List.not_mem_nil, or_false] at found
  obtain rfl | rfl | rfl | rfl | rfl | rfl := found <;> decide

/-- A sign at the end of a rewritten text is a slash that is left there, or a
character that the rewriting leaves at that end. -/
theorem exists_sign_iff {rewritten own : Option Char} {allowed : Char → Prop}
    (same : ∀ c, allowed c → (rewritten = some c ↔ own = some c)) :
    (∃ c, rewritten = some c ∧ (c = '/' ∨ allowed c)) ↔
      (∃ c, own = some c ∧ allowed c) ∨ rewritten = some '/' := by
  constructor
  · intro given
    obtain ⟨c, there, rfl | fits⟩ := given
    · exact Or.inr there
    · exact Or.inl ⟨c, (same c fits).mp there, fits⟩
  · intro given
    rcases given with ⟨c, there, fits⟩ | there
    · exact ⟨c, (same c fits).mpr there, Or.inr fits⟩
    · exact ⟨'/', there, Or.inl rfl⟩

theorem carries_markupBoundary :
    Carries (replaceBlanks false) [markupBoundary] :=
  carries_replaceBlanks (by decide) (by decide)

/-- The normal form of a text ends with `|` where a slash or a delimiter is left
at its end. -/
theorem getLast?_inner_eq_markupBoundary_iff (before : List Char) :
    (inner before).getLast? = some markupBoundary ↔
      ∃ c, (replaceSlashPairs before).getLast? = some c ∧
        (c = '/' ∨ c ∈ delimiters) := by
  rw [inner, Function.comp_apply,
    carries_markupBoundary.getLast?_eq_some_iff replaceBlanks_eq_nil_iff]
  show ((replaceSlashPairs before).map markupSign).getLast? = _ ↔ _
  rw [List.getLast?_map, Option.map_eq_some_iff]
  simp only [markupSign_eq_markupBoundary_iff]

/-- The normal form of a text starts with `|` where a slash or a delimiter is
left at its start. -/
theorem head?_inner_eq_markupBoundary_iff (after : List Char) :
    (inner after).head? = some markupBoundary ↔
      ∃ c, (replaceSlashPairs after).head? = some c ∧
        (c = '/' ∨ c ∈ delimiters) := by
  rw [inner, Function.comp_apply,
    carries_markupBoundary.head?_eq_some_iff replaceBlanks_eq_nil_iff]
  show ((replaceSlashPairs after).map markupSign).head? = _ ↔ _
  rw [List.head?_map, Option.map_eq_some_iff]
  simp only [markupSign_eq_markupBoundary_iff]

/-- The normal form of a text starts with `~` where a blank or a `~` is left at
its start. -/
theorem head?_inner_eq_blankBoundary_iff (after : List Char) :
    (inner after).head? = some blankBoundary ↔
      ∃ c, (replaceSlashPairs after).head? = some c ∧
        (Text.isBlank c = true ∨ c = blankBoundary) := by
  rw [inner, Function.comp_apply]
  apply (head?_replaceBlanks_eq_tilde_iff _).trans
  show (∃ c, ((replaceSlashPairs after).map markupSign).head? = _ ∧ _) ↔ _
  rw [List.head?_map]
  simp only [Option.map_eq_some_iff]
  constructor
  · rintro ⟨_, ⟨c, there, rfl⟩, sign⟩
    exact ⟨c, there, (isBlank_markupSign_iff c).mp sign⟩
  · rintro ⟨c, there, sign⟩
    exact ⟨_, ⟨c, there, rfl⟩, (isBlank_markupSign_iff c).mpr sign⟩

/-- What is behind a text in the normal form follows a `|` exactly when a tag may
stand behind the text. -/
theorem opensTag_iff (before : List Char) :
    (markupBoundary :: inner before).getLast? = some markupBoundary ↔
      OpensTag before := by
  have ends : (markupBoundary :: inner before).getLast? = some markupBoundary ↔
      before = [] ∨ (inner before).getLast? = some markupBoundary := by
    rw [List.getLast?_cons, Option.some.injEq, ← inner_eq_nil_iff before]
    cases inner before <;> simp [List.getLast?_cons]
  rw [ends, getLast?_inner_eq_markupBoundary_iff, OpensTag,
    ← getLast?_replaceSlashPairs_eq_slash_iff]
  apply or_congr_right
  apply exists_sign_iff
  intro c found
  obtain ⟨other, unmade⟩ := not_written_of_delimiter found
  exact (carries_replaceSlashPairs other unmade).getLast?_eq_some_iff
    replaceSlashPairs_eq_nil_iff before

/-- What is in front of a text in the normal form precedes a `|` or a `~` exactly
when a tag may stand in front of the text. -/
theorem closesTag_iff (after : List Char) :
    ((inner after ++ [markupBoundary]).head? = some markupBoundary ∨
      (inner after ++ [markupBoundary]).head? = some blankBoundary) ↔
      ClosesTag after := by
  have starts :
      ((inner after ++ [markupBoundary]).head? = some markupBoundary ∨
        (inner after ++ [markupBoundary]).head? = some blankBoundary) ↔
      after = [] ∨ (inner after).head? = some markupBoundary ∨
        (inner after).head? = some blankBoundary := by
    rw [← inner_eq_nil_iff after]
    cases inner after <;> simp
  have either : ((inner after).head? = some markupBoundary ∨
        (inner after).head? = some blankBoundary) ↔
      ∃ c, (replaceSlashPairs after).head? = some c ∧ (c = '/' ∨
        (Text.isBlank c = true ∨ c ∈ delimiters ∨ c = '~')) := by
    rw [head?_inner_eq_markupBoundary_iff, head?_inner_eq_blankBoundary_iff,
      ← exists_or]
    refine exists_congr fun c => ?_
    rw [← and_or_left, blankBoundary]
    tauto
  rw [starts, either, ClosesTag, ← head?_replaceSlashPairs_eq_slash_iff]
  apply or_congr_right
  apply exists_sign_iff
  intro c fits
  have passed : c ≠ '/' ∧ c ≠ '_' := by
    rcases fits with blank | found | rfl
    · constructor <;> rintro rfl <;> exact absurd blank (by decide)
    · exact not_written_of_delimiter found
    · decide
  exact (carries_replaceSlashPairs passed.1 passed.2).head?_eq_some_iff
    replaceSlashPairs_eq_nil_iff after

/-! ### What a text mentions -/

/-- A part with a `|` in front of it and a sign behind it stands in a text that
is put between two `|` where the part stands in the text itself, behind a `|` and
in front of the sign. -/
theorem occursIn_wrapped_iff {part whole : List Char} {sign : Char} :
    occursIn (markupBoundary :: part ++ [sign])
        (markupBoundary :: whole ++ [markupBoundary]) = true ↔
      ∃ front back, whole = front ++ part ++ back ∧
        (markupBoundary :: front).getLast? = some markupBoundary ∧
        (back ++ [markupBoundary]).head? = some sign := by
  rw [occursIn_iff]
  constructor
  · intro given
    obtain ⟨before, after, split⟩ := given
    -- The part can hold neither the first `|` nor the last one.
    obtain ⟨front, opens⟩ : ∃ front,
        before ++ [markupBoundary] = markupBoundary :: front := by
      cases before with
      | nil => exact ⟨[], rfl⟩
      | cons c before =>
          exact ⟨before ++ [markupBoundary], by rw [(List.cons.inj split).1]; rfl⟩
    obtain ⟨back, last, closes⟩ : ∃ back last,
        sign :: after = back ++ [last] := by
      rcases List.eq_nil_or_concat (sign :: after) with none | closes
      · cases none
      · simpa using closes
    have whole_split : markupBoundary :: (whole ++ [markupBoundary]) =
        markupBoundary :: ((front ++ part ++ back) ++ [last]) := by
      calc markupBoundary :: (whole ++ [markupBoundary])
          = (before ++ [markupBoundary]) ++ part ++ (sign :: after) := by
            simpa using split
        _ = (markupBoundary :: front) ++ part ++ (back ++ [last]) := by
            rw [opens, closes]
        _ = markupBoundary :: ((front ++ part ++ back) ++ [last]) := by simp
    obtain ⟨rfl, same⟩ := List.append_inj' (List.cons.inj whole_split).2 rfl
    refine ⟨front, back, rfl, ?_, ?_⟩
    · exact List.getLast?_eq_some_iff.mpr ⟨before, opens.symm⟩
    · rw [same, ← closes]
      rfl
  · intro given
    obtain ⟨front, back, rfl, opens, closes⟩ := given
    obtain ⟨before, opens⟩ := List.getLast?_eq_some_iff.mp opens
    obtain ⟨after, closes⟩ := List.head?_eq_some_iff.mp closes
    refine ⟨before, after, ?_⟩
    calc markupBoundary :: (front ++ part ++ back) ++ [markupBoundary]
        = (markupBoundary :: front) ++ part ++ (back ++ [markupBoundary]) := by
          simp
      _ = (before ++ [markupBoundary]) ++ part ++ (sign :: after) := by
          rw [opens, closes]
      _ = before ++ (markupBoundary :: part ++ [sign]) ++ after := by simp

/-- A tag is mentioned where it stands in the text between its ends, behind a `|`
and in front of a `|` or a `~` of the normal form. -/
theorem mentions_iff_exists {text tag : String} (some_char : tag ≠ "") :
    mentions text tag = true ↔
      ∃ front back, inner (Text.lowerChars text.toList) =
          front ++ tag.toList ++ back ∧
        (markupBoundary :: front).getLast? = some markupBoundary ∧
        ((back ++ [markupBoundary]).head? = some markupBoundary ∨
          (back ++ [markupBoundary]).head? = some blankBoundary) := by
  have not_empty : tag.toList.isEmpty = false := by
    rw [Bool.eq_false_iff, ne_eq, List.isEmpty_iff, String.toList_eq_nil_iff]
    exact some_char
  rw [mentions, mentionsIn, not_empty, Bool.not_false, Bool.true_and,
    Bool.or_eq_true, normalizeChars_eq, occursIn_wrapped_iff,
    occursIn_wrapped_iff, ← exists_or]
  simp only [← exists_or, ← and_or_left]

/-- Replacing blanks leaves none, and makes nothing but `~`. -/
theorem mem_replaceBlanks {inRun : Bool} {text : List Char} {c : Char}
    (found : c ∈ replaceBlanks inRun text) :
    Text.isBlank c = false ∧ (c = blankBoundary ∨ c ∈ text) := by
  induction text generalizing inRun with
  | nil => simp [replaceBlanks] at found
  | cons d rest ih =>
      have later {inRun : Bool} (there : c ∈ replaceBlanks inRun rest) :
          Text.isBlank c = false ∧ (c = blankBoundary ∨ c ∈ d :: rest) :=
        ⟨(ih there).1, (ih there).2.imp_right (List.mem_cons_of_mem d)⟩
      rw [replaceBlanks] at found
      split_ifs at found with blank seen
      · exact later found
      · rcases List.mem_cons.mp found with rfl | there
        · exact ⟨by decide, Or.inl rfl⟩
        · exact later there
      · rcases List.mem_cons.mp found with rfl | there
        · exact ⟨by simpa using blank, Or.inr List.mem_cons_self⟩
        · exact later there

/-- The normal form holds neither blanks nor markup. -/
theorem solid_of_mem_normalizeChars {text : List Char} {c : Char}
    (found : c ∈ normalizeChars text) :
    Text.isBlank c = false ∧ isMarkup c = false := by
  rw [normalizeChars_eq, List.mem_append, List.mem_cons,
    List.mem_singleton] at found
  rcases found with (rfl | there) | rfl
  · decide
  · obtain ⟨solid, rfl | there⟩ := mem_replaceBlanks there
    · decide
    · obtain ⟨d, _, rfl⟩ := List.mem_map.mp there
      refine ⟨solid, ?_⟩
      split_ifs with markup
      · decide
      · simpa using markup
  · decide

/-- A tag with a blank or a markup character is mentioned nowhere. -/
theorem not_mentions_of_mem {text tag : String} {c : Char}
    (found : c ∈ tag.toList)
    (unfit : Text.isBlank c = true ∨ isMarkup c = true) :
    mentions text tag = false := by
  have nowhere (sign : Char) : occursIn
      (markupBoundary :: tag.toList ++ [sign])
      (normalizeChars text.toList) = false := by
    rw [Bool.eq_false_iff, ne_eq, occursIn_iff]
    intro given
    obtain ⟨before, after, split⟩ := given
    have there : c ∈ normalizeChars text.toList := by
      rw [split]
      simp [found]
    have solid := solid_of_mem_normalizeChars there
    rcases unfit with blank | markup
    · exact absurd solid.1 (by simp [blank])
    · exact absurd solid.2 (by simp [markup])
  rw [mentions, mentionsIn, nowhere, nowhere, Bool.or_false, Bool.and_false]

/-- A text mentions a plain tag exactly where its lower-case form holds the tag
behind something that opens a tag and in front of something that closes one.  A
tag with a blank or a markup character is mentioned nowhere. -/
theorem mentions_iff_stands :
    (∀ text tag : String, tag ≠ "" → (∀ c ∈ tag.toList, IsPlain c) →
      (mentions text tag = true ↔
        ∃ before after, (Text.lowerCase text).toList =
            before ++ tag.toList ++ after ∧
          OpensTag before ∧ ClosesTag after)) ∧
    ∀ text tag : String,
      (∃ c ∈ tag.toList, Text.isBlank c = true ∨ isMarkup c = true) →
        mentions text tag = false := by
  constructor
  · intro text tag some_char plain
    have some_part : tag.toList ≠ [] := by
      rwa [ne_eq, String.toList_eq_nil_iff]
    rw [mentions_iff_exists some_char, Text.lowerCase, String.toList_ofList]
    constructor
    · intro given
      obtain ⟨_, _, split, opens, closes⟩ := given
      obtain ⟨before, after, lower, rfl, rfl⟩ :=
        (carries_inner some_part plain _ _ _).mp split
      exact ⟨before, after, lower, (opensTag_iff before).mp opens,
        (closesTag_iff after).mp closes⟩
    · intro given
      obtain ⟨before, after, lower, opens, closes⟩ := given
      refine ⟨inner before, inner after, ?_, (opensTag_iff before).mpr opens,
        (closesTag_iff after).mpr closes⟩
      exact (carries_inner some_part plain _ _ _).mpr
        ⟨before, after, lower, rfl, rfl⟩
  · intro text tag given
    obtain ⟨c, found, unfit⟩ := given
    exact not_mentions_of_mem found unfit

/-- The odd slash of three opens a tag, and a single one closes it; a name with a
blank in it is mentioned nowhere, not even where it stands. -/
theorem mentions_iff_stands_shop :
    mentions "see ///Shop-App/." "shop-app" = true ∧
    mentions "<shop app>" "shop app" = false := by
  constructor
  · have checked : ("shop-app".toList.all fun c => decide (IsPlain c)) = true := by
      decide
    have plain : ∀ c ∈ "shop-app".toList, IsPlain c := by
      simpa only [List.all_eq_true, decide_eq_true_eq] using checked
    refine (mentions_iff_stands.1 _ _ (by decide) plain).mpr
      ⟨"see ///".toList, "/.".toList, by decide +kernel, ?_, ?_⟩
    · exact Or.inr (Or.inr (by decide))
    · exact Or.inr (Or.inr (by decide))
  · exact mentions_iff_stands.2 _ _ ⟨' ', by decide, Or.inl (by decide)⟩

end CodeSplit.Markup
