/-
Module: CodeSplit.Toml.Double
Purpose: numbers in floating point as a machine keeps them, and their text.
Main exports:
  Toml.Double, Toml.Double.nearest?, Toml.Double.shortest, Toml.Real.text?
-/
import CodeSplit.Json.Printer
import CodeSplit.Toml.Value

namespace CodeSplit.Toml

/-!
A machine keeps a number in floating point with 53 binary digits.  The number
that is written is rounded to the nearest of these; a tie goes to the one whose
last binary digit is zero.  Its text has the fewest decimal digits that are
rounded to the same number again, and of these the nearest.
-/

/-- The number `mantissa * 2 ^ exponent`. -/
structure Double where
  mantissa : Nat
  exponent : Int
deriving Repr, DecidableEq

namespace Double

/-- The least exponent. -/
def leastExponent : Int := -1074

/-- The greatest exponent. -/
def greatestExponent : Int := 971

/-- The least mantissa with 53 binary digits. -/
def leastMantissa : Nat := 0x10000000000000

/-- The whole number nearest to a quotient; a tie goes to the even one. -/
def roundHalfEven (numerator denominator : Nat) : Nat :=
  let below := numerator / denominator
  let twice := 2 * (numerator % denominator)
  if twice < denominator then below
  else if denominator < twice then below + 1
  else below + below % 2

/-- A quotient without a remainder is not changed by rounding. -/
theorem roundHalfEven_mul (value : Nat) {denominator : Nat}
    (positive : 0 < denominator) :
    roundHalfEven (value * denominator) denominator = value := by
  simp [roundHalfEven, Nat.mul_div_cancel _ positive, positive]

/-- A quotient divided by a power of `base`, as a quotient. -/
def unscale (base : Nat) (numerator denominator : Nat) :
    Int → Nat × Nat
  | .ofNat power => (numerator, denominator * Nat.pow base power)
  | .negSucc power => (numerator * Nat.pow base (power + 1), denominator)

/-- The exponent with which a quotient has 53 binary digits before the point, or
the least one. -/
def exponentFor (numerator denominator : Nat) : Int :=
  let guess : Int := numerator.log2 - denominator.log2 - 52
  let (top, bottom) := unscale 2 numerator denominator guess
  max leastExponent
    (if top < leastMantissa * bottom then guess - 1 else guess)

/-- The nearest double to a quotient, or `none` where it is too large. -/
def nearest? (numerator denominator : Nat) : Option Double :=
  let exponent := exponentFor numerator denominator
  let (top, bottom) := unscale 2 numerator denominator exponent
  let mantissa := roundHalfEven top bottom
  let rounded : Double :=
    if mantissa = 2 * leastMantissa then ⟨leastMantissa, exponent + 1⟩
    else ⟨mantissa, exponent⟩
  if greatestExponent < rounded.exponent then none else some rounded

/-- The ends of the interval of numbers that are rounded to a double, in units
of a quarter of its last binary digit.  Below a power of two the doubles are
closer together. -/
def interval (double : Double) : Nat × Nat :=
  let middle := 4 * double.mantissa
  let closer :=
    double.mantissa = leastMantissa && leastExponent < double.exponent
  (if closer then middle - 1 else middle - 2, middle + 2)

/-- The multiple of `10 ^ place` nearest to a double among those that are
rounded to it, divided by `10 ^ place`. -/
def multiple? (double : Double) (place : Int) : Option Nat :=
  let (lowest, highest) := double.interval
  let even := double.mantissa % 2 = 0
  let (unit, one) := unscale 2 1 1 (2 - double.exponent)
  let (unit, one) := unscale 10 unit one place
  let middle := 4 * double.mantissa * unit
  let holds (count : Nat) : Bool :=
    if even then lowest * unit ≤ count * one && count * one ≤ highest * unit
    else lowest * unit < count * one && count * one < highest * unit
  let below := middle / one
  match holds below, holds (below + 1) with
  | true, true =>
      if 2 * (middle % one) ≤ one then some below else some (below + 1)
  | true, false => some below
  | false, true => some (below + 1)
  | false, false => none

/-- The places at which the first digits of a double can stand, greatest
first. -/
def places : List Int :=
  (List.range 640).map fun (step : Nat) => 309 - (step : Int)

/-- The shortest digits that are rounded to a double, with the place of the last
one. -/
def shortest (double : Double) : Nat × Int :=
  (places.findSome? fun place =>
    (double.multiple? place).map fun digits => (digits, place)).getD (0, 0)

/-- The text of a double: always with a point, and never with an exponent. -/
def text (double : Double) : List Char :=
  match double.shortest with
  | (digits, .ofNat power) =>
      Json.numberChars (digits * Nat.pow 10 power) 0 ++ ['.', '0']
  | (digits, .negSucc power) => Json.numberChars digits (power + 1)

end Double

namespace Real

/-- The nearest double to `digits * 10 ^ exponent`, or `none` where it is too
large.  Numbers whose size settles the answer are not computed. -/
def nearest? (digits : Nat) (exponent : Int) : Option Double :=
  let size := (Nat.toDigits 10 digits).length + exponent
  if digits = 0 ∨ size < -330 then some ⟨0, 0⟩
  else if 320 < size then none
  else
    let (numerator, denominator) := Double.unscale 10 digits 1 (-exponent)
    Double.nearest? numerator denominator

/-- The text of a number, or `none` where it is too large to be kept. -/
def text? : Real → Option String
  | .notANumber => some "NaN"
  | .infinite negative => some (if negative then "-inf" else "inf")
  | .finite negative digits exponent =>
      (nearest? digits exponent).map fun double =>
        let sign := if negative then ['-'] else []
        let body := if double.mantissa = 0 then ['0', '.', '0'] else double.text
        String.ofList (sign ++ body)

end Real

end CodeSplit.Toml
