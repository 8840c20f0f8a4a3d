/-
Module: CodeSplit.Toml.Scalar
Purpose: values that are written without quotes or brackets.
Main exports:
  Toml.scalar?
-/
import CodeSplit.Toml.Moment
import CodeSplit.Toml.Number

namespace CodeSplit.Toml

/-- The value that characters outside strings and brackets stand for. -/
def scalar? (cs : List Char) : Option Value :=
  if cs = ['t', 'r', 'u', 'e'] then some (.boolean true)
  else if cs = ['f', 'a', 'l', 's', 'e'] then some (.boolean false)
  else if isMoment cs then some (.moment (String.ofList cs))
  else
    match integer? cs with
    | some value => some (.integer value)
    | none => (real? cs).map .real

end CodeSplit.Toml
