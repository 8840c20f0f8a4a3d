/-
Module: CodeSplit.Toml.Number
Purpose: the notation of whole numbers and of numbers in floating point.
Main exports:
  Toml.integer?, Toml.real?
-/
import CodeSplit.Separated
import CodeSplit.Toml.Value

namespace CodeSplit.Toml

/-!
Digits may be parted by single underscores.  A whole number is decimal, with an
optional sign and no leading zero, or it has one of the marks `0x`, `0o` and
`0b` in front and no sign.  A number in floating point has a fraction, an
exponent or both behind a decimal number.
-/

/-! ### Digits -/

/-- The value of a digit in a base up to sixteen. -/
def digitValue? (base : Nat) (c : Char) : Option Nat :=
  let value? :=
    if '0' ≤ c ∧ c ≤ '9' then some (c.toNat - '0'.toNat)
    else if 'a' ≤ c ∧ c ≤ 'f' then some (c.toNat - 'a'.toNat + 10)
    else if 'A' ≤ c ∧ c ≤ 'F' then some (c.toNat - 'A'.toNat + 10)
    else none
  value?.filter (· < base)

/-- The digits of a number, without the underscores between them. -/
def digits? (base : Nat) (cs : List Char) : Option (List Nat) :=
  let groups := splitWhere (fun c => decide (c = '_')) cs
  if groups.any (·.isEmpty) then none
  else groups.flatten.mapM (digitValue? base)

/-- The number that digits stand for. -/
def ofDigits (base : Nat) (digits : List Nat) : Nat :=
  digits.foldl (fun value digit => value * base + digit) 0

/-- The number that characters stand for in a base. -/
def natural? (base : Nat) (cs : List Char) : Option Nat :=
  (digits? base cs).map (ofDigits base)

/-- A decimal number without a leading zero. -/
def decimal? (cs : List Char) : Option Nat :=
  match cs with
  | '0' :: _ :: _ => none
  | _ => natural? 10 cs

/-- Whether the characters start with a minus sign, and what follows their
sign. -/
def signed : List Char → Bool × List Char
  | '-' :: rest => (true, rest)
  | '+' :: rest => (false, rest)
  | cs => (false, cs)

/-- The number with a minus sign or without one. -/
def withSign (negative : Bool) (value : Nat) : Int :=
  if negative then -value else value

/-! ### Numbers -/

/-- A whole number. -/
def integer? : List Char → Option Int
  | '0' :: 'x' :: rest => (natural? 16 rest).map Int.ofNat
  | '0' :: 'o' :: rest => (natural? 8 rest).map Int.ofNat
  | '0' :: 'b' :: rest => (natural? 2 rest).map Int.ofNat
  | cs =>
      let (negative, rest) := signed cs
      (decimal? rest).map (withSign negative)

/-- The exponent of a number, which may have leading zeros. -/
def exponent? (cs : List Char) : Option Int :=
  let (negative, rest) := signed cs
  (natural? 10 rest).map (withSign negative)

/-- A number without a sign whose whole part, fraction and exponent are given,
as far as it has them. -/
def assemble? (negative : Bool) (whole : List Char)
    (fraction? exponent : Option (List Char)) : Option Real := do
  let front ← decimal? whole
  let behind ← digits? 10 (fraction?.getD ['0'])
  let power ← exponent? (exponent.getD ['0'])
  let digits := behind.foldl (fun value digit => value * 10 + digit) front
  return .finite negative digits (power - behind.length)

/-- A number in floating point, whose sign has been read. -/
def unsignedReal? (negative : Bool) (cs : List Char) : Option Real :=
  if cs = ['i', 'n', 'f'] then some (.infinite negative)
  else if cs = ['n', 'a', 'n'] then some .notANumber
  else
    match splitWhere (fun c => c = 'e' || c = 'E') cs with
    | [number] =>
        match splitWhere (fun c => decide (c = '.')) number with
        | [whole, fraction] => assemble? negative whole (some fraction) none
        | _ => none
    | [number, exponent] =>
        match splitWhere (fun c => decide (c = '.')) number with
        | [whole] => assemble? negative whole none (some exponent)
        | [whole, fraction] =>
            assemble? negative whole (some fraction) (some exponent)
        | _ => none
    | _ => none

/-- A number in floating point. -/
def real? (cs : List Char) : Option Real :=
  let (negative, rest) := signed cs
  unsignedReal? negative rest

example : integer? "1_000".toList = some 1000 := by decide
example : integer? "-0xFF".toList = none := by decide
example : integer? "007".toList = none := by decide
example : real? "-1.50e+2".toList = some (.finite true 150 0) := by decide
example : real? "1.".toList = none := by decide

end CodeSplit.Toml
