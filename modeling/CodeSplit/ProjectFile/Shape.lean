/-
Module: CodeSplit.ProjectFile.Shape
Purpose: values of the kinds that a project file may hold, and what is wrong
  with others.
Main exports:
  Misfit, Misfit.reason?, textOf, textsOf, flagOf, encapsulationOf
-/
import CodeSplit.Encapsulation
import CodeSplit.Text.Quoted
import CodeSplit.Toml.Double

namespace CodeSplit

open Toml (Value)

/-! ### What can be wrong -/

/-- Why a TOML document is no project file. -/
inductive Misfit where
  /-- A table has a key that is not among the known ones. -/
  | unknownField (name : String) (known : List String)
  /-- A table lacks a key. -/
  | missingField (name : String)
  /-- No encapsulation has this name. -/
  | unknownEncapsulation (name : String)
  /-- A value is of another kind than expected. -/
  | wrongKind (found : Value) (expected : String)
  /-- A list in place of a table with so many keys is too short. -/
  | tooShort (length : Nat) (expected : String) (size : Nat)
  /-- An encapsulation is neither a name nor a table with one empty value. -/
  | noEncapsulation
deriving Repr

/-- A name as messages show it. -/
def marked (name : String) : String :=
  "`" ++ name ++ "`"

/-- Some names as messages list them. -/
def oneOf : List String → String
  | [name] => marked name
  | names => "one of " ++ ", ".intercalate (names.map marked)

/-- Whether a number fits into a signed word whose least value is `-half`. -/
def fitsSigned (half : Nat) (value : Int) : Bool :=
  -(half : Int) ≤ value && value < half

/-- Whether a number fits into an unsigned word whose greatest value is one less
than `2 * half`. -/
def fitsUnsigned (half : Nat) (value : Int) : Bool :=
  0 ≤ value && value < 2 * (half : Int)

/-- Half the number of values of a word with 64 binary digits. -/
def halfLong : Nat := 0x8000000000000000

/-- Half the number of values of a word with 128 binary digits. -/
def halfHuge : Nat := 0x80000000000000000000000000000000

/-- How messages describe a whole number, or `none` if 128 binary digits
do not hold it. -/
def describeInteger? (value : Int) : Option String :=
  let shown := s!"integer {marked (toString value)}"
  if fitsSigned halfLong value || fitsUnsigned halfLong value then some shown
  else if fitsSigned halfHuge value then some (shown ++ " as i128")
  else if fitsUnsigned halfHuge value then some (shown ++ " as u128")
  else none

/-- How messages describe a value, or `none` if it is a number too large to be
kept. -/
def describe? : Value → Option String
  | .text value => some s!"string {Text.quoted value}"
  | .integer value => describeInteger? value
  | .real value =>
      value.text?.map fun shown => s!"floating point {marked shown}"
  | .boolean value => some s!"boolean {marked (toString value)}"
  | .array _ => some "sequence"
  | .moment _ | .table _ => some "map"

/-- The text that tells what is wrong, if there is one. -/
def Misfit.reason? : Misfit → Option String
  | .unknownField name known =>
      some s!"unknown field {marked name}, expected {oneOf known}"
  | .missingField name => some s!"missing field {marked name}"
  | .unknownEncapsulation name =>
      let known := Encapsulation.names.map (·.1)
      some s!"unknown variant {marked name}, expected {oneOf known}"
  | .wrongKind found expected =>
      (describe? found).map fun shown =>
        s!"invalid type: {shown}, expected {expected}"
  | .tooShort length expected size =>
      some (s!"invalid length {length}, expected {expected} " ++
        s!"with {size} elements")
  | .noEncapsulation => none

/-! ### Values -/

/-- A text. -/
def textOf : Value → Except Misfit String
  | .text value => .ok value
  | other => .error (.wrongKind other "a string")

/-- A truth value. -/
def flagOf : Value → Except Misfit Bool
  | .boolean value => .ok value
  | other => .error (.wrongKind other "a boolean")

/-- Items of one kind. -/
def itemsOf {α : Type} (item : Value → Except Misfit α) :
    Value → Except Misfit (List α)
  | .array items => items.mapM item
  | other => .error (.wrongKind other "a sequence")

/-- A list of texts. -/
def textsOf (value : Value) : Except Misfit (List String) :=
  itemsOf textOf value

/-- An encapsulation by its name. -/
def namedEncapsulation (name : String) : Except Misfit Encapsulation :=
  match Encapsulation.ofName? name with
  | some mode => .ok mode
  | none => .error (.unknownEncapsulation name)

/-- An encapsulation: a name, or a table whose one key is the name and whose
value is empty. -/
def encapsulationOf : Value → Except Misfit Encapsulation
  | .text name => namedEncapsulation name
  | .table [(name, content)] =>
      match namedEncapsulation name, content with
      | .error misfit, _ => .error misfit
      | .ok mode, .array [] => .ok mode
      | .ok mode, .table [] => .ok mode
      | .ok _, _ => .error .noEncapsulation
  | _ => .error .noEncapsulation

/-- The entries of a table by key, ascending.  This is the order in which they
are checked. -/
def byKey (entries : Toml.Table) : Toml.Table :=
  entries.mergeSort fun one other => one.1 ≤ other.1

/-- An encapsulation is read from each of its names. -/
theorem encapsulationOf_name (mode : Encapsulation) :
    encapsulationOf (.text mode.name) = .ok mode := by
  simp [encapsulationOf, namedEncapsulation, Encapsulation.ofName?_name]

end CodeSplit
