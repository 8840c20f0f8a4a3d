/-
Module: CodeSplit.Separated
Purpose: lists whose parts are told apart by separators.
Main exports:
  splitWhere, joinWith, joinWith_splitWhere
-/

namespace CodeSplit

variable {α : Type}

/-- The parts between the separators.  There is always one part more than there
are separators. -/
def splitWhere (isSeparator : α → Bool) : List α → List (List α)
  | [] => [[]]
  | x :: xs =>
      if isSeparator x then
        [] :: splitWhere isSeparator xs
      else
        match splitWhere isSeparator xs with
        | [] => [[x]]
        | part :: rest => (x :: part) :: rest

/-- The parts with a separator between any two of them. -/
def joinWith (separator : α) : List (List α) → List α
  | [] => []
  | [part] => part
  | part :: rest => part ++ separator :: joinWith separator rest

/-- There is always a first part. -/
theorem splitWhere_ne_nil (isSeparator : α → Bool) (xs : List α) :
    splitWhere isSeparator xs ≠ [] := by
  cases xs with
  | nil => simp [splitWhere]
  | cons x xs =>
      unfold splitWhere
      split
      · simp
      · split <;> simp

/-- Joining the parts gives back the list that was split. -/
theorem joinWith_splitWhere [DecidableEq α] (separator : α) (xs : List α) :
    joinWith separator (splitWhere (fun x => decide (x = separator)) xs) =
      xs := by
  induction xs with
  | nil => rfl
  | cons x xs ih =>
      have more := splitWhere_ne_nil (fun x => decide (x = separator)) xs
      unfold splitWhere
      cases found : splitWhere (fun x => decide (x = separator)) xs with
      | nil => exact absurd found more
      | cons part rest =>
          rw [found] at ih
          split
          · simp_all [joinWith]
          · cases rest <;> simp_all [joinWith]

end CodeSplit
