/-
Module: CodeSplit.Toml.Value
Purpose: what a TOML document holds.
Main exports:
  Toml.Real, Toml.Value, Toml.Table
-/

namespace CodeSplit.Toml

/-- A number in floating point notation, as it is written. -/
inductive Real where
  /-- The number `digits * 10 ^ exponent`, below zero if `negative`. -/
  | finite (negative : Bool) (digits : Nat) (exponent : Int)
  | infinite (negative : Bool)
  | notANumber
deriving Repr, DecidableEq

/-- A value of a TOML document. -/
inductive Value where
  | text (value : String)
  | integer (value : Int)
  | real (value : Real)
  | boolean (value : Bool)
  /-- A date, a time of day, or both, as it is written. -/
  | moment (written : String)
  | array (items : List Value)
  /-- Values by key, in the order in which the keys first occur. -/
  | table (entries : List (String × Value))
deriving Repr, Inhabited

/-- Values by key. -/
abbrev Table := List (String × Value)

end CodeSplit.Toml
