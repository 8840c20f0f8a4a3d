/-
Module: CodeSplit.Proofs.SharedPlacing
Purpose: placing what can be reached from roots always has a result; it places
  exactly what was reached and had no group, beside the groups there were.
Main exports:
  Placement.PlacesReached, Placement.placesReached_of_steps,
  addShared_placesReached
-/
import CodeSplit.Proofs.Linking
import CodeSplit.Proofs.PlacementHistory
import CodeSplit.Proofs.Tiers
import Mathlib

namespace CodeSplit

namespace Placement

/-! ### What placing comes to -/

/-- Between two placements, everything that can be reached from roots and had no
group was put into new groups, each component once, and nothing else changed. -/
structure PlacesReached (graph : Graph) (roots : List ComponentId)
    (before after : Placement) : Prop where
  /-- Whatever can be reached has a group. -/
  reached : ∀ id, (∃ root ∈ roots, graph.Reaches root id) →
    after.isPlaced id = true
  /-- The components that got a group are those that can be reached and had
  none. -/
  newly : ∀ id, after.isPlaced id = true ∧ before.isPlaced id = false ↔
    (∃ root ∈ roots, graph.Reaches root id) ∧ before.isPlaced id = false
  /-- Nothing lost its group. -/
  still : ∀ id, before.isPlaced id = true →
    after.groupOf? id = before.groupOf? id
  /-- The old groups stand in front with the same members in the same order, and
  the new ones hold the components that got a group. -/
  groups : ∃ fresh, after.groups = before.groups ++ fresh ∧
    (fresh.flatMap Group.ids).Nodup ∧
    ∀ id, id ∈ fresh.flatMap Group.ids ↔
      after.isPlaced id = true ∧ before.isPlaced id = false

variable {graph : Graph} {before after : Placement}
variable {roots members : List ComponentId}

/-- Of a sound placement whose groups stand in front of the groups of another,
the second one puts every component where the first one does. -/
theorem Sound.groupOf?_eq_of_prefix (sound : before.Sound)
    (afterSound : after.Sound) (kept : before.groups <+: after.groups)
    {id : ComponentId} (placed : before.isPlaced id = true) :
    after.groupOf? id = before.groupOf? id := by
  obtain ⟨index, held⟩ := Option.isSome_iff_exists.mp placed
  obtain ⟨group, at_index, found⟩ := (sound.recorded id index).mp held
  obtain ⟨fresh, groups⟩ := kept
  rw [held]
  refine (afterSound.recorded id index).mpr ⟨group, ?_, found⟩
  rw [← groups, List.getElem?_append_left (sound.lt_length held), at_index]

/-- Steps that place the members of a residue, and all of them, place what the
residue was made of. -/
theorem placesReached_of_steps (formed : graph.WellFormed)
    (sound : before.Sound) (afterSound : after.Sound)
    (distinct : members.Nodup)
    (mem_members : ∀ id, id ∈ members ↔
      (∃ root ∈ roots, graph.Reaches root id) ∧ id ∉ before.ids)
    (steps : Steps (Residue.ofMembers graph members) before after)
    (all_placed : ∀ id ∈ members, id ∈ after.ids) :
    PlacesReached graph roots before after := by
  have residue_formed := Residue.wellFormed_ofMembers formed distinct
  have apart : ∀ id ∈ (Residue.ofMembers graph members).ids,
      id ∉ before.ids := by
    intro id among
    rw [Residue.ids_ofMembers] at among
    exact ((mem_members id).mp among).2
  have kept := steps.prefix_groups residue_formed apart
  have free_iff (id : ComponentId) :
      before.isPlaced id = false ↔ id ∉ before.ids := by
    rw [← Bool.not_eq_true, sound.isPlaced_iff]
  have newly (id : ComponentId) :
      after.isPlaced id = true ∧ before.isPlaced id = false ↔
        (∃ root ∈ roots, graph.Reaches root id) ∧
          before.isPlaced id = false := by
    rw [afterSound.isPlaced_iff, free_iff]
    constructor
    · intro given
      obtain ⟨placed, free⟩ := given
      have among := (steps.mem_ids_or residue_formed placed).resolve_left free
      rw [Residue.ids_ofMembers] at among
      exact (mem_members id).mp among
    · intro given
      exact ⟨all_placed id ((mem_members id).mpr given), given.2⟩
  refine ⟨fun id reached => ?_, newly, fun id placed =>
    sound.groupOf?_eq_of_prefix afterSound kept placed, ?_⟩
  · by_cases placed : id ∈ before.ids
    · exact afterSound.isPlaced_iff.mpr
        (steps.ids_subset residue_formed placed)
    · exact ((newly id).mpr ⟨reached, (free_iff id).mpr placed⟩).1
  · obtain ⟨fresh, groups⟩ := kept
    have ids : after.ids = before.ids ++ fresh.flatMap Group.ids := by
      rw [Placement.ids, ← groups, List.flatMap_append]
      rfl
    have distinct := afterSound.distinct
    rw [ids, List.nodup_append] at distinct
    refine ⟨fresh, groups.symm, distinct.2.1, fun id => ?_⟩
    rw [afterSound.isPlaced_iff, free_iff, ids, List.mem_append]
    constructor
    · intro found
      exact ⟨Or.inr found, fun placed => distinct.2.2 id placed id found rfl⟩
    · intro given
      exact given.1.resolve_left given.2

end Placement

/-- Whatever calls made the groups that there are, placing what can be reached
from components of a graph has a result: exactly what can be reached and had no
group is put into new groups, and the old groups stay as they are. -/
theorem addShared_placesReached {components : List Component}
    {mentions : Mentions} {documentTags : List String} {graph : Graph}
    (built : (Graph.build components mentions documentTags).outcome =
      .ok graph)
    {walks : Walks} (faithful : walks.Faithful graph)
    (changes : List Placement.Change) {roots : List ComponentId}
    (known : ∀ root ∈ roots, root < graph.size) :
    ∃ after last,
      ((Placement.changeAll {} changes).addShared graph walks roots).outcome =
        .ok (after, last) ∧
      Placement.PlacesReached graph roots (Placement.changeAll {} changes)
        after := by
  have formed := Graph.wellFormed_of_build built
  have sound := Placement.sound_changeAll changes
  obtain ⟨after, last, members, went, afterSound, _, distinct, mem_members,
    steps, all_placed⟩ := Placement.exists_addShared formed sound faithful known
  exact ⟨after, last, went,
    Placement.placesReached_of_steps formed sound afterSound distinct
      mem_members steps all_placed⟩

/-- Calls on groups of the shop: the icon starts one, is refused a second place
in it, and is refused as the second member of another, which the card starts. -/
def shopChanges : List Placement.Change :=
  [.push [{ id := 2 }], .add 0 { id := 2 },
    .push [{ id := 1 }, { id := 2 }, { id := 4 }]]

/-- In the shop, the icon and the card were placed before, with calls that were
refused.  From the list, the application and the list once more, the list with
its row and the application get new groups. -/
theorem addShared_placesReached_shop :
    (Graph.build Graph.shopComponents [] []).outcome =
      .ok (Graph.shopGraph []) ∧
    Walks.Faithful {} (Graph.shopGraph []) ∧
    (∀ root ∈ [3, 0, 3], root < (Graph.shopGraph []).size) ∧
    (Placement.changeAll {} shopChanges).groups =
      [[{ id := 2 }], [{ id := 1 }]] ∧
    ∃ after last,
      ((Placement.changeAll {} shopChanges).addShared (Graph.shopGraph []) {}
        [3, 0, 3]).outcome = .ok (after, last) ∧
      after.groups =
        [[{ id := 2 }], [{ id := 1 }],
          [{ id := 3 }, { id := 4, dependents := [3] }], [{ id := 0 }]] ∧
      Placement.PlacesReached (Graph.shopGraph []) [3, 0, 3]
        (Placement.changeAll {} shopChanges) after := by
  have built := Graph.outcome_build_shop []
  have faithful := Walks.faithful_nil (Graph.shopGraph [])
  have known : ∀ root ∈ [3, 0, 3], root < (Graph.shopGraph []).size := by
    decide
  have computed :
      ((Placement.changeAll {} shopChanges).addShared (Graph.shopGraph []) {}
        [3, 0, 3]).outcome.map (·.1.groups) =
        .ok [[{ id := 2 }], [{ id := 1 }],
          [{ id := 3 }, { id := 4, dependents := [3] }], [{ id := 0 }]] := by
    cbv
  obtain ⟨after, last, went, places⟩ :=
    addShared_placesReached built faithful shopChanges known
  rw [went] at computed
  exact ⟨built, faithful, known, by decide, after, last, went,
    Except.ok.inj computed, places⟩

end CodeSplit
