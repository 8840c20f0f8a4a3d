/-
Module: CodeSplit.Json
Purpose: JSON values.
Main exports:
  Json
-/

namespace CodeSplit

/-- A JSON value.  The members of an object keep their order. -/
inductive Json where
  | null
  | boolean (value : Bool)
  /-- The number `mantissa / 10 ^ scale`. -/
  | number (mantissa : Int) (scale : Nat)
  | text (value : String)
  | array (items : List Json)
  | object (members : List (String × Json))
deriving Repr, Inhabited

end CodeSplit
