/-
Module: CodeSplit.Proofs.Ascending
Purpose: strictly ascending lists are the one spelling of a finite set, and
  sorting keeps the order of what it finds equal.
Main exports:
  ascending_pairwise, ascending_nodup, ascending_eq_of_mem_iff,
  ascending_congr, map_mergeSort_pairwise, pairwise_mergeSort_stable
-/
import CodeSplit.Ascending
import Mathlib.Data.List.Sort
import Mathlib.Data.String.Basic

namespace CodeSplit

variable {α : Type}

section

variable [LT α] [DecidableLT α] [DecidableEq α]
variable [IsTrans α (· < ·)] [Std.Trichotomous (α := α) (· < ·)]

/-- Adding a member keeps a list strictly ascending. -/
theorem insertAscending_pairwise {x : α} {ys : List α}
    (ordered : ys.Pairwise (· < ·)) :
    (insertAscending x ys).Pairwise (· < ·) := by
  induction ys with
  | nil => simp [insertAscending]
  | cons y ys ih =>
      have rest := List.pairwise_cons.mp ordered
      unfold insertAscending
      split
      · rename_i below
        refine List.pairwise_cons.mpr ⟨fun z found => ?_, ordered⟩
        rcases List.mem_cons.mp found with rfl | found
        · exact below
        · exact IsTrans.trans x y z below (rest.1 z found)
      · split
        · exact ordered
        · rename_i notBelow other
          have above : y < x := by
            by_contra notAbove
            exact other (Std.Trichotomous.trichotomous x y notBelow notAbove)
          refine List.pairwise_cons.mpr ⟨fun z found => ?_, ih rest.2⟩
          rcases mem_insertAscending.mp found with rfl | found
          · exact above
          · exact rest.1 z found

/-- `ascending` gives a strictly ascending list. -/
theorem ascending_pairwise (xs : List α) :
    (ascending xs).Pairwise (· < ·) := by
  unfold ascending
  induction xs with
  | nil => simp
  | cons x xs ih => exact insertAscending_pairwise ih

/-- `ascending` repeats no member. -/
theorem ascending_nodup [Std.Irrefl (α := α) (· < ·)] (xs : List α) :
    (ascending xs).Nodup := by
  apply (ascending_pairwise xs).imp
  intro x other below same
  subst same
  exact Std.Irrefl.irrefl x below

/-- A list that repeats nothing is only reordered. -/
theorem ascending_perm [Std.Irrefl (α := α) (· < ·)] {xs : List α}
    (distinct : xs.Nodup) : (ascending xs).Perm xs :=
  (List.perm_ext_iff_of_nodup (ascending_nodup xs) distinct).mpr
    fun _ => mem_ascending

/-- A strictly ascending list with the members of another is what `ascending`
makes of the other. -/
theorem ascending_eq_of_mem_iff [Std.Irrefl (α := α) (· < ·)]
    [Std.Antisymm (α := α) (· < ·)] {xs ys : List α}
    (ordered : ys.Pairwise (· < ·)) (same : ∀ x, x ∈ xs ↔ x ∈ ys) :
    ascending xs = ys :=
  (ascending_pairwise xs).eq_of_mem_iff ordered fun x =>
    mem_ascending.trans (same x)

/-- What `ascending` makes of a list depends on its members only. -/
theorem ascending_congr [Std.Irrefl (α := α) (· < ·)]
    [Std.Antisymm (α := α) (· < ·)] {xs ys : List α}
    (same : ∀ x, x ∈ xs ↔ x ∈ ys) : ascending xs = ascending ys :=
  ascending_eq_of_mem_iff (ascending_pairwise ys) fun x =>
    (same x).trans mem_ascending.symm

end

/-- Sorting by a key puts the keys in order. -/
theorem map_mergeSort_pairwise {β : Type} [LinearOrder β] (key : α → β)
    (xs : List α) :
    ((xs.mergeSort fun one other => key one ≤ key other).map key).Pairwise
      (· ≤ ·) := by
  rw [List.pairwise_map]
  refine (List.pairwise_mergeSort ?_ ?_ xs).imp ?_
  · intro one other last first second
    simp only [decide_eq_true_eq] at *
    exact le_trans first second
  · intro one other
    simpa only [Bool.or_eq_true, decide_eq_true_eq] using le_total _ _
  · intro one other before
    simpa only [decide_eq_true_eq] using before

/-- Sorting by a key that no two elements share puts the keys in strict order. -/
theorem map_mergeSort_pairwise_lt {β : Type} [LinearOrder β] (key : α → β)
    {xs : List α} (distinct : (xs.map key).Nodup) :
    ((xs.mergeSort fun one other => key one ≤ key other).map key).Pairwise
      (· < ·) := by
  have perm := (List.mergeSort_perm xs
    fun one other => key one ≤ key other).map key
  have apart := perm.symm.nodup distinct
  exact ((map_mergeSort_pairwise key xs).and apart).imp
    fun both => lt_of_le_of_ne both.1 both.2

/-- Sorting puts smaller elements first and keeps the order of the others. -/
theorem pairwise_mergeSort_stable {le : α → α → Bool}
    (trans : ∀ x y z, le x y = true → le y z = true → le x z = true)
    (total : ∀ x y, (le x y || le y x) = true) {before : α → α → Prop}
    {xs : List α} (ordered : xs.Pairwise before) :
    (xs.mergeSort le).Pairwise fun x y =>
      le x y = true ∧ (le y x = true → before x y) := by
  induction xs with
  | nil => simp
  | cons x xs ih =>
      have rest := List.pairwise_cons.mp ordered
      have sorted := List.pairwise_mergeSort trans total (x :: xs)
      obtain ⟨front, back, whole, others, above⟩ :=
        List.mergeSort_cons trans total x xs
      have placed := ih rest.2
      rw [others, List.pairwise_append] at placed
      rw [whole, List.pairwise_append, List.pairwise_cons] at sorted
      rw [whole, List.pairwise_append, List.pairwise_cons]
      have notBelow {y : α} (found : y ∈ front) : le x y ≠ true := by
        simpa using above y found
      refine ⟨placed.1, ⟨fun y found => ⟨sorted.2.1.1 y found, ?_⟩, placed.2.1⟩,
        fun y found z later => ?_⟩
      · intro _
        have among : y ∈ xs.mergeSort le := by
          rw [others]
          exact List.mem_append_right _ found
        exact rest.1 y (List.mem_mergeSort.mp among)
      · refine ⟨sorted.2.2 y found z later, fun back => ?_⟩
        rcases List.mem_cons.mp later with rfl | later
        · exact absurd back (notBelow found)
        · exact (placed.2.2 y found z later).2 back

end CodeSplit
