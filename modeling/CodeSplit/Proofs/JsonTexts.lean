/-
Module: CodeSplit.Proofs.JsonTexts
Purpose: how JSON writes the characters of texts, and how they are read.
Main exports:
  Json.Shows, Json.Quotes, Json.unquote?, Json.unquote?_eq_some_iff,
  Json.shows_escapeChar
-/
import CodeSplit.Json.Printer
import CodeSplit.Toml.Number
import Mathlib.Data.List.Basic

namespace CodeSplit.Json

open Toml (digitValue? ofDigits)

/-!
Between quotes most characters stand for themselves.  A backslash starts an
escape, which is a letter or the code of a character in UTF-16: four hexadecimal
digits, or twice four where the character has two code units.
-/

/-! ### Notation -/

/-- Whether a character may stand for itself. -/
def isPlain (c : Char) : Bool :=
  ' ' ≤ c && c ≠ '"' && c ≠ '\\'

/-- The character that a letter behind a backslash stands for. -/
def escaped? : Char → Option Char
  | '"' => some '"'
  | '\\' => some '\\'
  | '/' => some '/'
  | 'b' => some '\x08'
  | 'f' => some '\x0c'
  | 'n' => some '\n'
  | 'r' => some '\r'
  | 't' => some '\t'
  | _ => none

/-- The code unit that four hexadecimal digits stand for. -/
def unit? (a b c d : Char) : Option Nat :=
  ([a, b, c, d].mapM (digitValue? 16)).map (ofDigits 16)

/-- Whether a code unit is the first of two. -/
def isHighUnit (unit : Nat) : Bool :=
  0xd800 ≤ unit && unit < 0xdc00

/-- Whether a code unit is the second of two. -/
def isLowUnit (unit : Nat) : Bool :=
  0xdc00 ≤ unit && unit < 0xe000

/-- The character that has two code units. -/
def ofUnits (high low : Nat) : Char :=
  Char.ofNat (0x10000 + (high - 0xd800) * 0x400 + (low - 0xdc00))

/-- How one character of a text is written. -/
inductive Shows : List Char → Char → Prop where
  | plain {c : Char} (plain : isPlain c) : Shows [c] c
  | letter {letter c : Char} (known : escaped? letter = some c) :
      Shows ['\\', letter] c
  | code {a b c d : Char} {unit : Nat} (code : unit? a b c d = some unit)
      (single : unit.isValidChar) :
      Shows ['\\', 'u', a, b, c, d] (Char.ofNat unit)
  | codes {a b c d e f g h : Char} {high low : Nat}
      (first : unit? a b c d = some high) (isHigh : isHighUnit high)
      (second : unit? e f g h = some low) (isLow : isLowUnit low) :
      Shows ['\\', 'u', a, b, c, d, '\\', 'u', e, f, g, h] (ofUnits high low)

/-- How the characters of a text are written between quotes. -/
inductive Quotes : List Char → List Char → Prop where
  | nil : Quotes [] []
  | cons {front body : List Char} {c : Char} {cs : List Char}
      (shown : Shows front c) (rest : Quotes body cs) :
      Quotes (front ++ body) (c :: cs)

/-- A code unit is written with digits only. -/
theorem isSome_digitValue?_of_unit? {a b c d : Char} {unit : Nat}
    (code : unit? a b c d = some unit) :
    ∀ digit ∈ [a, b, c, d], (digitValue? 16 digit).isSome := by
  obtain ⟨values, read, -⟩ := Option.map_eq_some_iff.mp code
  simp only [List.mapM_cons, List.mapM_nil, Option.bind_eq_bind,
    Option.bind_eq_some_iff] at read
  obtain ⟨_, first, _,
    ⟨_, second, _, ⟨_, third, _, ⟨_, fourth, _⟩, _⟩, _⟩, _⟩ := read
  simp [first, second, third, fourth]

/-! ### Reading -/

/-- The characters that stand between quotes. -/
def unquote? : List Char → Option (List Char)
  | [] => some []
  | '\\' :: 'u' :: a :: b :: c :: d :: rest =>
      match unit? a b c d with
      | none => none
      | some unit =>
          if isHighUnit unit then
            match rest with
            | '\\' :: 'u' :: e :: f :: g :: h :: rest =>
                match unit? e f g h with
                | none => none
                | some low =>
                    if isLowUnit low then
                      (unquote? rest).map (ofUnits unit low :: ·)
                    else
                      none
            | _ => none
          else if unit.isValidChar then
            (unquote? rest).map (Char.ofNat unit :: ·)
          else
            none
  | '\\' :: letter :: rest =>
      match escaped? letter with
      | none => none
      | some c => (unquote? rest).map (c :: ·)
  | c :: rest =>
      if isPlain c then (unquote? rest).map (c :: ·) else none

/-- A code unit that is the first of two is no character. -/
theorem not_isValidChar_of_isHighUnit {unit : Nat} (high : isHighUnit unit) :
    ¬ unit.isValidChar := by
  simp [isHighUnit, Nat.isValidChar] at *
  omega

/-- A character is read in any way in which it can be written. -/
theorem unquote?_append {front : List Char} {c : Char} (shown : Shows front c)
    (body : List Char) :
    unquote? (front ++ body) = (unquote? body).map (c :: ·) := by
  cases shown with
  | plain plain =>
      have no_backslash : c ≠ '\\' := by
        rintro rfl
        cases plain
      simp [unquote?, no_backslash, plain]
  | @letter letter c known =>
      have no_code : letter ≠ 'u' := by
        rintro rfl
        cases known
      simp [unquote?, no_code, known]
  | @code a b c d unit code single =>
      have not_high : isHighUnit unit = false := by
        by_contra high
        exact not_isValidChar_of_isHighUnit (by simpa using high) single
      simp [unquote?, code, not_high, single]
  | codes first isHigh second isLow =>
      simp [unquote?, first, isHigh, second, isLow]

theorem Quotes.of_map {front body cs : List Char} {c : Char}
    (shown : Shows front c)
    (rest : ∀ {cs : List Char}, unquote? body = some cs → Quotes body cs)
    (read : (unquote? body).map (c :: ·) = some cs) :
    Quotes (front ++ body) cs := by
  obtain ⟨others, others_read, rfl⟩ := Option.map_eq_some_iff.mp read
  exact .cons shown (rest others_read)

/-- Reading what stands between quotes gives the characters that it shows. -/
theorem unquote?_eq_some_iff {body cs : List Char} :
    unquote? body = some cs ↔ Quotes body cs := by
  constructor
  · intro read
    fun_induction unquote? body generalizing cs with
    | case1 =>
        obtain rfl := Option.some.inj read
        exact .nil
    | case4 a b c d high first isHigh e f g h rest low second isLow ih =>
        exact .of_map (.codes first isHigh second isLow) ih read
    | case7 a b c d rest unit code not_high single ih =>
        exact .of_map (.code code single) ih read
    | case10 letter rest _ c known ih => exact .of_map (.letter known) ih read
    | case11 c rest _ _ plain ih => exact .of_map (.plain plain) ih read
    | case2 | case3 | case5 | case6 | case8 | case9 | case12 => cases read
  · intro quotes
    induction quotes with
    | nil => rfl
    | cons shown rest ih => rw [unquote?_append shown, ih, Option.map_some]

/-! ### Printed texts -/

/-- The controls that have no letter are written by their codes. -/
theorem unit?_of_control {code : Nat} (control : code < 0x20) :
    unit? '0' '0' (hexDigit (code / 16)) (hexDigit (code % 16)) =
      some code := by
  have all : ∀ code < 0x20,
      unit? '0' '0' (hexDigit (code / 16)) (hexDigit (code % 16)) =
        some code := by
    decide
  exact all code control

/-- Every character is written so that it can be read. -/
theorem shows_escapeChar (c : Char) : Shows (escapeChar c) c := by
  rw [escapeChar]
  split
  case isTrue quote =>
    subst quote
    exact .letter rfl
  split
  case isTrue backslash =>
    subst backslash
    exact .letter rfl
  split
  case isTrue backspace =>
    subst backspace
    exact .letter rfl
  split
  case isTrue formFeed =>
    subst formFeed
    exact .letter rfl
  split
  case isTrue lineFeed =>
    subst lineFeed
    exact .letter rfl
  split
  case isTrue carriageReturn =>
    subst carriageReturn
    exact .letter rfl
  split
  case isTrue tab =>
    subst tab
    exact .letter rfl
  split
  case isTrue control =>
    have code := unit?_of_control control
    have shown := Shows.code code (Or.inl (by omega))
    rwa [Char.ofNat_toNat] at shown
  case isFalse no_quote no_backslash _ _ _ _ _ printable =>
    refine .plain ?_
    have from_blank : ' ' ≤ c := by
      rw [Char.le_def, UInt32.le_iff_toNat_le]
      exact Nat.not_lt.mp printable
    simp [isPlain, no_quote, no_backslash, from_blank]

theorem quotes_flatMap_escapeChar (cs : List Char) :
    Quotes (cs.flatMap escapeChar) cs := by
  induction cs with
  | nil => exact .nil
  | cons c rest ih =>
      rw [List.flatMap_cons]
      exact .cons (shows_escapeChar c) ih

end CodeSplit.Json
