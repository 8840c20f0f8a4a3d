/-
Module: CodeSplit.Proofs.PlacementHistory
Purpose: groups under construction agree with the record of where components are
  after any calls, refused ones included.
Main exports:
  Placement.Change, Placement.change, Placement.changeAll,
  Placement.sound_changeAll
-/
import CodeSplit.Proofs.Placement

namespace CodeSplit.Placement

/-!
Groups change by two calls only, each of which may be refused.  A refused `add`
changes nothing, while a refused `push` leaves a group with the members before
the one that was refused, possibly none.  What was left by any calls is still
sound.
-/

/-- A call that changes groups under construction. -/
inductive Change where
  /-- Start a group. -/
  | push (members : List Member)
  /-- Add a member to the group at an index. -/
  | add (index : Nat) (member : Member)
deriving Repr, DecidableEq

/-- What a call leaves, whether or not it is refused. -/
def change (placement : Placement) : Change → Placement
  | .push members => (placement.push members).1
  | .add index member =>
      match placement.add index member with
      | .ok grown => grown
      | .error _ => placement

/-- What calls leave, one after the other. -/
def changeAll (placement : Placement) (changes : List Change) : Placement :=
  changes.foldl change placement

namespace Sound

variable {placement grown : Placement} {index : Nat} {member : Member}

/-- A member that is not refused had no group, and the index was that of a
group. -/
theorem of_add (sound : placement.Sound)
    (added : placement.add index member = .ok grown) : grown.Sound := by
  cases held : placement.groupOf? member.id with
  | some earlier =>
      rw [add_of_placed held] at added
      cases added
  | none =>
      have fresh := sound.groupOf?_eq_none_iff.mp held
      by_cases inRange : index < placement.groups.length
      · obtain ⟨other, added', otherSound, _⟩ := sound.add inRange fresh
        obtain rfl := Except.ok.inj (added.symm.trans added')
        exact otherSound
      · rw [Placement.add, held, if_neg inRange] at added
        cases added

/-- Adding members leaves a sound placement, up to whichever of them it came. -/
theorem fst_addAll (sound : placement.Sound) (index : Nat)
    (members : List Member) : (placement.addAll index members).1.Sound := by
  induction members generalizing placement with
  | nil => exact sound
  | cons member rest ih =>
      rw [Placement.addAll]
      split
      · exact sound
      · rename_i grown added
        exact ih (sound.of_add added)

theorem fst_push (sound : placement.Sound) (members : List Member) :
    (placement.push members).1.Sound := by
  rw [Placement.push]
  split
  · exact sound
  · exact sound.opened.fst_addAll _ members

/-- A call keeps a placement sound, also when it is refused. -/
theorem change (sound : placement.Sound) (call : Change) :
    (placement.change call).Sound := by
  cases call with
  | push members => exact sound.fst_push members
  | add index member =>
      rw [Placement.change]
      split
      · rename_i grown added
        exact sound.of_add added
      · exact sound

theorem changeAll (sound : placement.Sound) (changes : List Change) :
    (placement.changeAll changes).Sound := by
  unfold Placement.changeAll
  induction changes generalizing placement with
  | nil => exact sound
  | cons call rest ih => exact ih (sound.change call)

end Sound

/-- Whatever was called, groups and record agree. -/
theorem sound_changeAll (changes : List Change) :
    (changeAll {} changes).Sound :=
  sound_empty.changeAll changes

end CodeSplit.Placement
