/-
Module: CodeSplit.Proofs.JsonNumerals
Purpose: how JSON writes numbers, and how they are read.
Main exports:
  Json.Numeral, Json.Numeral.Valid, Json.Numeral.ofChars?,
  Json.Numeral.ofChars?_eq_some_iff, Json.Numeral.ofNumber
-/
import CodeSplit.Json.Printer
import Mathlib

namespace CodeSplit.Json

/-!
A number is written with a sign if it is negative, with digits of which the
first is zero only where it is the only one, and then, each if it is wanted,
with a point that has digits behind it and with an exponent.  What characters
may be is seen by taking them apart at the first character of every part and
then checking the parts.
-/

/-! ### Notation -/

/-- The exponent of a number as it is written. -/
structure Exponent where
  /-- `e` or `E`. -/
  mark : Char
  sign? : Option Char
  digits : List Char
deriving Repr, DecidableEq

/-- A number as it is written. -/
structure Numeral where
  negative : Bool
  /-- The digits in front of the point. -/
  whole : List Char
  /-- The digits behind the point.  Without them there is no point. -/
  fraction : List Char
  exponent? : Option Exponent
deriving Repr, DecidableEq

namespace Exponent

/-- The characters of an exponent. -/
def chars (exponent : Exponent) : List Char :=
  exponent.mark :: (exponent.sign?.toList ++ exponent.digits)

/-- The number that an exponent stands for. -/
def value (exponent : Exponent) : Int :=
  let magnitude := Nat.ofDigitChars 10 exponent.digits 0
  if exponent.sign? = some '-' then -magnitude else magnitude

/-- JSON allows the exponent. -/
structure Valid (exponent : Exponent) : Prop where
  mark : exponent.mark = 'e' ∨ exponent.mark = 'E'
  sign : ∀ sign ∈ exponent.sign?, sign = '+' ∨ sign = '-'
  some_digit : exponent.digits ≠ []
  digits : ∀ c ∈ exponent.digits, c.isDigit

instance (exponent : Exponent) : Decidable exponent.Valid :=
  decidable_of_iff
    ((exponent.mark = 'e' ∨ exponent.mark = 'E') ∧
      (∀ sign ∈ exponent.sign?, sign = '+' ∨ sign = '-') ∧
      exponent.digits ≠ [] ∧ ∀ c ∈ exponent.digits, c.isDigit)
    ⟨fun ⟨mark, sign, some_digit, digits⟩ => ⟨mark, sign, some_digit, digits⟩,
      fun ⟨mark, sign, some_digit, digits⟩ => ⟨mark, sign, some_digit, digits⟩⟩

end Exponent

namespace Numeral

/-- The sign of a number, if there is one. -/
def signChars (numeral : Numeral) : List Char :=
  if numeral.negative then ['-'] else []

/-- The point and the digits behind it, if there are any. -/
def fractionChars (numeral : Numeral) : List Char :=
  if numeral.fraction = [] then [] else '.' :: numeral.fraction

/-- The exponent, if there is one. -/
def exponentChars (numeral : Numeral) : List Char :=
  (numeral.exponent?.map Exponent.chars).getD []

/-- The characters of a number. -/
def chars (numeral : Numeral) : List Char :=
  numeral.signChars ++ (numeral.whole ++
    (numeral.fractionChars ++ numeral.exponentChars))

/-- The power of ten that the exponent stands for. -/
def power (numeral : Numeral) : Int :=
  (numeral.exponent?.map Exponent.value).getD 0

/-- The decimal places that are left when the exponent has moved the point. -/
def scale (numeral : Numeral) : Nat :=
  (numeral.fraction.length - numeral.power).toNat

/-- The number without its decimal places, which is `mantissa / 10 ^ scale`. -/
def mantissa (numeral : Numeral) : Int :=
  let digits := Nat.ofDigitChars 10 (numeral.whole ++ numeral.fraction) 0
  let shift := (numeral.power - numeral.fraction.length).toNat
  let magnitude := digits * 10 ^ shift
  if numeral.negative then -magnitude else magnitude

/-- JSON allows the number. -/
structure Valid (numeral : Numeral) : Prop where
  some_digit : numeral.whole ≠ []
  whole : ∀ c ∈ numeral.whole, c.isDigit
  no_leading_zero : numeral.whole.head? = some '0' → numeral.whole = ['0']
  fraction : ∀ c ∈ numeral.fraction, c.isDigit
  exponent : ∀ exponent ∈ numeral.exponent?, exponent.Valid

instance (numeral : Numeral) : Decidable numeral.Valid :=
  decidable_of_iff
    (numeral.whole ≠ [] ∧ (∀ c ∈ numeral.whole, c.isDigit) ∧
      (numeral.whole.head? = some '0' → numeral.whole = ['0']) ∧
      (∀ c ∈ numeral.fraction, c.isDigit) ∧
      ∀ exponent ∈ numeral.exponent?, exponent.Valid)
    ⟨fun ⟨some_digit, whole, zero, fraction, exponent⟩ =>
        ⟨some_digit, whole, zero, fraction, exponent⟩,
      fun ⟨some_digit, whole, zero, fraction, exponent⟩ =>
        ⟨some_digit, whole, zero, fraction, exponent⟩⟩

end Numeral

/-! ### Taking numbers apart -/

/-- The parts of an exponent, if there is one. -/
def Exponent.split? : List Char → Option Exponent
  | [] => none
  | mark :: '+' :: digits => some ⟨mark, some '+', digits⟩
  | mark :: '-' :: digits => some ⟨mark, some '-', digits⟩
  | mark :: digits => some ⟨mark, none, digits⟩

namespace Numeral

/-- Whether there is a minus sign, and what follows it. -/
def splitSign : List Char → Bool × List Char
  | '-' :: rest => (true, rest)
  | cs => (false, cs)

/-- The digits behind a point, and what follows them. -/
def splitFraction : List Char → List Char × List Char
  | '.' :: rest => rest.span Char.isDigit
  | cs => ([], cs)

/-- The parts of a number. -/
def split (cs : List Char) : Numeral :=
  let (negative, unsigned) := splitSign cs
  let (whole, behind) := unsigned.span Char.isDigit
  let (fraction, ending) := splitFraction behind
  { negative := negative
    whole := whole
    fraction := fraction
    exponent? := Exponent.split? ending }

/-- The number that characters write. -/
def ofChars? (cs : List Char) : Option Numeral :=
  let numeral := split cs
  if numeral.Valid ∧ numeral.chars = cs then some numeral else none

end Numeral

/-- Digits end where something else follows. -/
theorem span_digits {digits behind : List Char}
    (all : ∀ c ∈ digits, c.isDigit)
    (stops : ∀ c ∈ behind.head?, c.isDigit = false) :
    (digits ++ behind).span Char.isDigit = (digits, behind) := by
  have none_first : behind.takeWhile Char.isDigit = [] := by
    cases behind with
    | nil => rfl
    | cons c rest => simp [stops c rfl]
  have all_behind : behind.dropWhile Char.isDigit = behind := by
    cases behind with
    | nil => rfl
    | cons c rest => simp [stops c rfl]
  rw [List.span_eq_takeWhile_dropWhile, List.takeWhile_append_of_pos all,
    List.dropWhile_append_of_pos all, none_first, all_behind, List.append_nil]

theorem Exponent.Valid.split?_chars {exponent : Exponent}
    (valid : exponent.Valid) : split? exponent.chars = some exponent := by
  obtain ⟨mark, sign?, digits⟩ := exponent
  obtain ⟨-, sign, some_digit, all⟩ := valid
  cases sign? with
  | some c => obtain rfl | rfl := sign c rfl <;> rfl
  | none =>
      cases digits with
      | nil => exact absurd rfl some_digit
      | cons digit rest =>
          have numeric : digit.isDigit := all digit List.mem_cons_self
          have no_plus : digit ≠ '+' := by
            rintro rfl
            cases numeric
          have no_minus : digit ≠ '-' := by
            rintro rfl
            cases numeric
          simp [chars, split?, no_plus, no_minus]

namespace Numeral

variable {numeral : Numeral} {cs : List Char}

/-- An exponent starts with its mark. -/
theorem Valid.head?_exponentChars (valid : numeral.Valid) :
    ∀ c ∈ numeral.exponentChars.head?, c = 'e' ∨ c = 'E' := by
  intro c first
  rw [exponentChars] at first
  cases given : numeral.exponent? with
  | none => simp [given] at first
  | some exponent =>
      obtain rfl : exponent.mark = c := by
        simpa [given, Exponent.chars] using first
      exact (valid.exponent exponent given).mark

/-- No digit follows the digits in front of the point. -/
theorem Valid.head?_behind (valid : numeral.Valid) :
    ∀ c ∈ (numeral.fractionChars ++ numeral.exponentChars).head?,
      c.isDigit = false := by
  intro c first
  rw [fractionChars] at first
  split at first
  · obtain rfl | rfl := valid.head?_exponentChars c first <;> rfl
  · obtain rfl : '.' = c := Option.some.inj first
    rfl

theorem Valid.splitSign_chars (valid : numeral.Valid) :
    splitSign numeral.chars =
      (numeral.negative,
        numeral.whole ++ (numeral.fractionChars ++ numeral.exponentChars)) := by
  rw [chars, signChars]
  cases numeral.negative with
  | true => rfl
  | false =>
      obtain ⟨digit, rest, starts⟩ :=
        List.exists_cons_of_ne_nil valid.some_digit
      have numeric : digit.isDigit :=
        valid.whole digit (starts ▸ List.mem_cons_self)
      have no_minus : digit ≠ '-' := by
        rintro rfl
        cases numeric
      simp [starts, splitSign, no_minus]

theorem Valid.splitFraction_chars (valid : numeral.Valid) :
    splitFraction (numeral.fractionChars ++ numeral.exponentChars) =
      (numeral.fraction, numeral.exponentChars) := by
  have ends := valid.head?_exponentChars
  rw [fractionChars]
  split
  · rename_i no_point
    rw [no_point, List.nil_append]
    cases given : numeral.exponentChars with
    | nil => rfl
    | cons c rest =>
        rw [given] at ends
        obtain rfl | rfl := ends c rfl <;> rfl
  · rw [List.cons_append, splitFraction, span_digits valid.fraction]
    intro c first
    obtain rfl | rfl := ends c first <;> rfl

theorem Valid.split?_exponentChars (valid : numeral.Valid) :
    Exponent.split? numeral.exponentChars = numeral.exponent? := by
  rw [exponentChars]
  cases given : numeral.exponent? with
  | none => rfl
  | some exponent => exact (valid.exponent exponent given).split?_chars

/-- The parts of a number are found in its characters. -/
theorem Valid.split_chars (valid : numeral.Valid) :
    split numeral.chars = numeral := by
  simp only [split, valid.splitSign_chars,
    span_digits valid.whole valid.head?_behind, valid.splitFraction_chars,
    valid.split?_exponentChars]

/-- The number that characters write is the one that has these characters. -/
theorem ofChars?_eq_some_iff :
    ofChars? cs = some numeral ↔ numeral.Valid ∧ numeral.chars = cs := by
  constructor
  · intro read
    rw [ofChars?] at read
    split at read
    · rename_i checked
      obtain rfl := Option.some.inj read
      exact checked
    · cases read
  · rintro ⟨valid, rfl⟩
    rw [ofChars?, valid.split_chars]
    exact if_pos ⟨valid, rfl⟩

/-- The characters of numbers. -/
def isNumeric (c : Char) : Bool :=
  c.isDigit || c ∈ ['-', '+', '.', 'e', 'E']

theorem Valid.isNumeric_of_mem_chars (valid : numeral.Valid) :
    ∀ c ∈ numeral.chars, isNumeric c := by
  have numeric {c : Char} (digit : c.isDigit) : isNumeric c := by
    simp [isNumeric, digit]
  intro c among
  simp only [chars, List.mem_append] at among
  obtain among | among | among | among := among
  · rw [signChars] at among
    split at among
    · obtain rfl := List.mem_singleton.mp among
      rfl
    · cases among
  · exact numeric (valid.whole c among)
  · rw [fractionChars] at among
    split at among
    · cases among
    · obtain rfl | among := List.mem_cons.mp among
      · rfl
      · exact numeric (valid.fraction c among)
  · rw [exponentChars] at among
    cases given : numeral.exponent? with
    | none => simp [given] at among
    | some exponent =>
        obtain ⟨mark, sign, -, digits⟩ := valid.exponent exponent given
        simp only [given, Option.map_some, Option.getD_some, Exponent.chars,
          List.mem_cons, List.mem_append, Option.mem_toList] at among
        obtain rfl | signed | among := among
        · obtain e | e := mark <;> simp [isNumeric, e]
        · obtain rfl | rfl := sign c signed <;> rfl
        · exact numeric (digits c among)

/-! ### Printed numbers -/

/-- The digits of a number with decimal places. -/
def paddedDigits (value scale : Nat) : List Char :=
  let digits := Nat.toDigits 10 value
  List.replicate (scale + 1 - digits.length) '0' ++ digits

/-- How the number `mantissa / 10 ^ scale` is printed. -/
def ofNumber (mantissa : Int) (scale : Nat) : Numeral :=
  let digits := paddedDigits mantissa.natAbs scale
  { negative := decide (mantissa < 0)
    whole := digits.take (digits.length - scale)
    fraction := digits.drop (digits.length - scale)
    exponent? := none }

theorem lt_length_paddedDigits (value scale : Nat) :
    scale < (paddedDigits value scale).length := by
  simp only [paddedDigits, List.length_append, List.length_replicate]
  omega

theorem isDigit_of_mem_paddedDigits {value scale : Nat} {c : Char}
    (among : c ∈ paddedDigits value scale) : c.isDigit := by
  obtain among | among := List.mem_append.mp among
  · obtain rfl := List.eq_of_mem_replicate among
    rfl
  · exact Nat.isDigit_of_mem_toDigits (by decide) (by decide) among

/-- Zeros in front do not change what digits stand for. -/
theorem ofDigitChars_paddedDigits (value scale : Nat) :
    Nat.ofDigitChars 10 (paddedDigits value scale) 0 = value := by
  have zeros (count : Nat) :
      Nat.ofDigitChars 10 (List.replicate count '0') 0 = 0 := by
    induction count with
    | zero => rfl
    | succ count ih => exact ih
  rw [paddedDigits, Nat.ofDigitChars_append, zeros,
    Nat.ofDigitChars_toDigits (by decide) (by decide)]

/-- The digits of a number start with zero only for zero itself. -/
theorem eq_zero_of_head?_toDigits {value : Nat}
    (zero : (Nat.toDigits 10 value).head? = some '0') : value = 0 := by
  induction value using Nat.strongRecOn with
  | ind value ih =>
      by_cases small : value < 10
      · rw [Nat.toDigits_of_lt_base small] at zero
        interval_cases value <;> simp_all [Nat.digitChar]
      · rw [Nat.toDigits_of_base_le (by decide) (by omega),
          List.head?_append_of_ne_nil _ Nat.toDigits_ne_nil] at zero
        have := ih (value / 10) (by omega) zero
        omega

/-- Where there are digits enough, none are put in front. -/
theorem paddedDigits_of_lt {value scale : Nat}
    (long : scale < (Nat.toDigits 10 value).length) :
    paddedDigits value scale = Nat.toDigits 10 value := by
  have none_missing : scale + 1 - (Nat.toDigits 10 value).length = 0 := by omega
  rw [paddedDigits, none_missing, List.replicate_zero, List.nil_append]

theorem chars_ofNumber (mantissa : Int) (scale : Nat) :
    (ofNumber mantissa scale).chars = numberChars mantissa scale := by
  have sign : (ofNumber mantissa scale).signChars =
      if mantissa < 0 then ['-'] else [] := by
    simp [signChars, ofNumber]
  have no_exponent : (ofNumber mantissa scale).exponentChars = [] := rfl
  rw [chars, sign, no_exponent, List.append_nil, numberChars]
  by_cases integral : scale = 0
  · subst integral
    have plain : paddedDigits mantissa.natAbs 0 =
        Nat.toDigits 10 mantissa.natAbs :=
      paddedDigits_of_lt Nat.length_toDigits_pos
    simp [ofNumber, fractionChars, plain]
  · have long := lt_length_paddedDigits mantissa.natAbs scale
    have some_fraction : (ofNumber mantissa scale).fraction ≠ [] := by
      apply List.ne_nil_of_length_pos
      simp only [ofNumber, List.length_drop]
      omega
    rw [fractionChars, if_neg some_fraction, if_neg integral, List.append_assoc]
    rfl

theorem mantissa_ofNumber (mantissa : Int) (scale : Nat) :
    (ofNumber mantissa scale).mantissa = mantissa := by
  have digits := ofDigitChars_paddedDigits mantissa.natAbs scale
  have unshifted (count : Nat) : ((0 : Int) - count).toNat = 0 := by omega
  simp only [Numeral.mantissa, ofNumber, List.take_append_drop, digits, power,
    Option.map_none, Option.getD_none, unshifted, pow_zero, mul_one,
    decide_eq_true_eq]
  split <;> omega

theorem scale_ofNumber (mantissa : Int) (scale : Nat) :
    (ofNumber mantissa scale).scale = scale := by
  have long := lt_length_paddedDigits mantissa.natAbs scale
  simp only [Numeral.scale, ofNumber, power, List.length_drop,
    Option.map_none, Option.getD_none]
  omega

/-- Zero comes first only where no other digit stands before the point. -/
theorem whole_ofNumber_of_head? {mantissa : Int} {scale : Nat}
    (zero : (ofNumber mantissa scale).whole.head? = some '0') :
    (ofNumber mantissa scale).whole = ['0'] := by
  have long := lt_length_paddedDigits mantissa.natAbs scale
  have single : (ofNumber mantissa scale).whole.length = 1 := by
    by_cases enough : scale < (Nat.toDigits 10 mantissa.natAbs).length
    · have plain := paddedDigits_of_lt enough
      have first : (Nat.toDigits 10 mantissa.natAbs).head? = some '0' := by
        have some_taken :
            (paddedDigits mantissa.natAbs scale).length - scale ≠ 0 := by omega
        rwa [ofNumber, List.head?_take, if_neg some_taken, plain] at zero
      have no_other : (Nat.toDigits 10 mantissa.natAbs).length = 1 := by
        rw [eq_zero_of_head?_toDigits first]
        rfl
      simp only [ofNumber, plain, List.length_take]
      omega
    · simp only [ofNumber, paddedDigits, List.length_take, List.length_append,
        List.length_replicate]
      omega
  obtain ⟨digit, whole⟩ := List.length_eq_one_iff.mp single
  rw [whole] at zero ⊢
  obtain rfl := Option.some.inj zero
  rfl

theorem valid_ofNumber (mantissa : Int) (scale : Nat) :
    (ofNumber mantissa scale).Valid where
  some_digit := by
    have long := lt_length_paddedDigits mantissa.natAbs scale
    apply List.ne_nil_of_length_pos
    simp only [ofNumber, List.length_take]
    omega
  whole _ among := isDigit_of_mem_paddedDigits (List.mem_of_mem_take among)
  no_leading_zero := whole_ofNumber_of_head?
  fraction _ among := isDigit_of_mem_paddedDigits (List.mem_of_mem_drop among)
  exponent _ given := by cases given

end Numeral

end CodeSplit.Json
