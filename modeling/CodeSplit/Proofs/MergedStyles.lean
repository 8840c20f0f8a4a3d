/-
Module: CodeSplit.Proofs.MergedStyles
Purpose: the styles that a bundle is built for depend on the styles of its
  components as a set, and those of merged bundles follow from those of the parts.
Main exports:
  entryModes_eq_of_named, entryModes_flatMap, entryEncapsulations_flatMap,
  entryStyles_merge
-/
import CodeSplit.Proofs.EntryStyles

namespace CodeSplit

/-!
Neither the style modes nor the encapsulations of a bundle are a plain union.  The
default mode comes in where no mode is named and goes where another one is, and a
shadow root brings scoped styles along.  What comes in at a part must not be
mistaken for what its components name when the parts are merged.
-/

/-! ### Style modes -/

/-- A mode other than the default one is built for exactly if it is named. -/
theorem mem_entryModes_of_ne {mode : String} {modes : List String}
    (named : mode ≠ defaultMode) : mode ∈ entryModes modes ↔ mode ∈ modes := by
  simp [mem_entryModes_iff, named]

/-- Whether the default mode is named makes no difference. -/
theorem entryModes_eq_of_named {modes modes' : List String}
    (same : ∀ mode, mode ≠ defaultMode → (mode ∈ modes ↔ mode ∈ modes')) :
    entryModes modes = entryModes modes' := by
  have plain_iff : (∀ mode ∈ modes, mode = defaultMode) ↔
      ∀ mode ∈ modes', mode = defaultMode := by
    refine forall_congr' fun mode => ?_
    by_cases plain : mode = defaultMode
    · simp [plain]
    · simp [plain, same mode plain]
  apply (entryModes_pairwise modes).eq_of_mem_iff (entryModes_pairwise modes')
  intro mode
  rw [mem_entryModes_iff, mem_entryModes_iff, plain_iff]
  exact or_congr_left (and_congr_left (same mode))

/-- The modes of several bundles together follow from those of each of them. -/
theorem entryModes_flatMap (parts : List (List String)) :
    entryModes parts.flatten = entryModes (parts.flatMap entryModes) := by
  apply entryModes_eq_of_named
  intro mode named
  simp only [List.mem_flatten, List.mem_flatMap, mem_entryModes_of_ne named]

/-! ### Encapsulations -/

section

variable {modes modes' : List Encapsulation} {mode : Encapsulation}

/-- The encapsulations of a bundle depend only on which ones its components
have. -/
theorem entryEncapsulations_eq_of_mem_iff
    (same : ∀ mode, mode ∈ modes ↔ mode ∈ modes') :
    entryEncapsulations modes = entryEncapsulations modes' := by
  have empty_iff : modes = [] ↔ modes' = [] := by
    simp only [List.eq_nil_iff_forall_not_mem, same]
  by_cases empty : modes = []
  · rw [empty, empty_iff.mp empty]
  · apply (entryEncapsulations_pairwise modes).eq_of_mem_iff
      (entryEncapsulations_pairwise modes')
    intro mode
    rw [mem_entryEncapsulations_iff empty,
      mem_entryEncapsulations_iff (mt empty_iff.mpr empty), same, same]

/-- What several bundles are built for is named by a part, or is scoped styles
with a shadow root in a part. -/
theorem mem_flatMap_entryEncapsulations_iff
    {parts : List (List Encapsulation)} (some_mode : ∀ part ∈ parts, part ≠ []) :
    mode ∈ parts.flatMap entryEncapsulations ↔
      mode ∈ parts.flatten ∨ mode = .scoped ∧ .shadow ∈ parts.flatten := by
  rw [List.mem_flatMap, List.mem_flatten, List.mem_flatten]
  constructor
  · rintro ⟨part, among, built⟩
    rcases (mem_entryEncapsulations_iff (some_mode part among)).mp built with
      found | ⟨along, shadow⟩
    · exact Or.inl ⟨part, among, found⟩
    · exact Or.inr ⟨along, part, among, shadow⟩
  · rintro (⟨part, among, found⟩ | ⟨along, part, among, shadow⟩)
    · refine ⟨part, among, ?_⟩
      exact (mem_entryEncapsulations_iff (some_mode part among)).mpr (.inl found)
    · refine ⟨part, among, ?_⟩
      exact (mem_entryEncapsulations_iff (some_mode part among)).mpr
        (.inr ⟨along, shadow⟩)

/-- The encapsulations of several bundles together follow from those of each of
them. -/
theorem entryEncapsulations_flatMap {parts : List (List Encapsulation)}
    (some_mode : ∀ part ∈ parts, part ≠ []) :
    entryEncapsulations parts.flatten =
      entryEncapsulations (parts.flatMap entryEncapsulations) := by
  cases parts with
  | nil => rfl
  | cons part rest =>
      have some_named : (part :: rest).flatten ≠ [] := by
        simp [some_mode part List.mem_cons_self]
      have some_built : (part :: rest).flatMap entryEncapsulations ≠ [] := by
        obtain ⟨mode, found⟩ := List.exists_mem_of_ne_nil _ some_named
        exact List.ne_nil_of_mem
          ((mem_flatMap_entryEncapsulations_iff some_mode).mpr (.inl found))
      apply (entryEncapsulations_pairwise _).eq_of_mem_iff
        (entryEncapsulations_pairwise _)
      intro mode
      rw [mem_entryEncapsulations_iff some_named,
        mem_entryEncapsulations_iff some_built,
        mem_flatMap_entryEncapsulations_iff some_mode,
        mem_flatMap_entryEncapsulations_iff some_mode]
      -- Scoped styles bring no shadow root along in turn.
      simp [or_assoc]

end

/-! ### Merged groups -/

namespace Group

variable {graph : Graph}

theorem components_perm (graph : Graph) {group group' : Group}
    (perm : group.Perm group') :
    (components graph group).Perm (components graph group') :=
  (perm.map Member.id).filterMap graph.component?

theorem components_flatten (graph : Graph) (parts : List Group) :
    components graph parts.flatten = parts.flatMap (components graph) := by
  rw [components, ids_flatten, List.filterMap_flatMap]
  rfl

end Group

namespace Entry

variable {graph : Graph} {parts : List Group} {merged : Group}

/-- The style modes of merged groups follow from those of the parts. -/
theorem modes_ofGroup_merged (perm : merged.Perm parts.flatten) :
    (ofGroup graph merged).modes =
      entryModes (parts.flatMap fun part => (ofGroup graph part).modes) := by
  have named (mode : String) :
      mode ∈ (Group.components graph merged).flatMap (·.styleModes) ↔
        mode ∈ (parts.map fun part =>
          (Group.components graph part).flatMap (·.styleModes)).flatten := by
    have same := (Group.components_perm graph perm).flatMap_right
      (·.styleModes)
    rw [same.mem_iff, Group.components_flatten, List.flatMap_assoc,
      List.flatMap_def]
  rw [modes_ofGroup, entryModes_eq_of_named fun mode _ => named mode,
    entryModes_flatMap, List.flatMap_map]
  rfl

/-- The encapsulations of merged groups follow from those of the parts. -/
theorem encapsulations_ofGroup_merged (perm : merged.Perm parts.flatten)
    (known : ∀ part ∈ parts, ∃ id ∈ Group.ids part, id < graph.size) :
    (ofGroup graph merged).encapsulations = entryEncapsulations
      (parts.flatMap fun part => (ofGroup graph part).encapsulations) := by
  have had (mode : Encapsulation) :
      mode ∈ (Group.components graph merged).map (·.encapsulation) ↔
        mode ∈ (parts.map fun part =>
          (Group.components graph part).map (·.encapsulation)).flatten := by
    have same := (Group.components_perm graph perm).map (·.encapsulation)
    rw [same.mem_iff, Group.components_flatten, List.map_flatMap,
      List.flatMap_def]
  have some_mode : ∀ modes ∈ parts.map fun part =>
      (Group.components graph part).map (·.encapsulation), modes ≠ [] := by
    intro modes among
    obtain ⟨part, part_among, rfl⟩ := List.mem_map.mp among
    simpa using Group.components_ne_nil (known part part_among)
  rw [encapsulations_ofGroup, entryEncapsulations_eq_of_mem_iff had,
    entryEncapsulations_flatMap some_mode, List.flatMap_map]
  rfl

end Entry

/-- The style modes and the encapsulations of a bundle depend only on the set of
those of its components.  Those of two lists together follow from those of each,
and so do those of groups that are merged, in whatever order. -/
theorem entryStyles_merge :
    (∀ modes modes' : List String,
      entryModes (modes ++ modes') =
        entryModes (entryModes modes ++ entryModes modes')) ∧
    (∀ modes modes' : List Encapsulation, modes ≠ [] → modes' ≠ [] →
      entryEncapsulations (modes ++ modes') =
        entryEncapsulations
          (entryEncapsulations modes ++ entryEncapsulations modes')) ∧
    (∀ modes modes' : List String,
      (∀ mode, mode ∈ modes ↔ mode ∈ modes') →
        entryModes modes = entryModes modes') ∧
    (∀ modes modes' : List Encapsulation,
      (∀ mode, mode ∈ modes ↔ mode ∈ modes') →
        entryEncapsulations modes = entryEncapsulations modes') ∧
    ∀ (graph : Graph) (parts : List Group) (merged : Group),
      merged.Perm parts.flatten →
      (∀ part ∈ parts, ∃ id ∈ Group.ids part, id < graph.size) →
        (Entry.ofGroup graph merged).modes = entryModes
            (parts.flatMap fun part => (Entry.ofGroup graph part).modes) ∧
          (Entry.ofGroup graph merged).encapsulations = entryEncapsulations
            (parts.flatMap fun part =>
              (Entry.ofGroup graph part).encapsulations) := by
  refine ⟨?_, ?_, ?_, ?_, ?_⟩
  · intro modes modes'
    simpa using entryModes_flatMap [modes, modes']
  · intro modes modes' some_mode some_mode'
    have some_modes : ∀ part ∈ [modes, modes'], part ≠ [] := by
      simp [some_mode, some_mode']
    simpa using entryEncapsulations_flatMap some_modes
  · intro modes modes' same
    exact entryModes_eq_of_named fun mode _ => same mode
  · intro modes modes' same
    exact entryEncapsulations_eq_of_mem_iff same
  · intro graph parts merged perm known
    exact ⟨Entry.modes_ofGroup_merged perm,
      Entry.encapsulations_ofGroup_merged perm known⟩

/-- The card and the application that needs it, each in a group of its own. -/
def themedParts : List Group :=
  [[{ id := 1, dependents := [0] }], [{ id := 0 }]]

/-- The application and the card in one group. -/
def themedGroup : Group :=
  [{ id := 0 }, { id := 1, dependents := [0] }]

/-- The card is built for the default mode and without encapsulation.  Together
with the application it is built for the dark mode alone, and the scoped styles
that the shadow root brings along stay. -/
theorem entryStyles_merge_shop :
    themedGroup.Perm themedParts.flatten ∧
    (∀ part ∈ themedParts, ∃ id ∈ Group.ids part, id < themedGraph.size) ∧
    (themedParts.map fun part => (Entry.ofGroup themedGraph part).modes) =
      [[defaultMode], ["dark"]] ∧
    (Entry.ofGroup themedGraph themedGroup).modes = ["dark"] ∧
    (themedParts.map fun part =>
      (Entry.ofGroup themedGraph part).encapsulations) =
        [[.none], [.scoped, .shadow]] ∧
    (Entry.ofGroup themedGraph themedGroup).encapsulations =
      [.none, .scoped, .shadow] ∧
    entryModes ["dark", defaultMode, "dark"] = entryModes [defaultMode, "dark"] ∧
    entryEncapsulations [.shadow, .none, .shadow] = entryEncapsulations
      (entryEncapsulations [.none] ++ entryEncapsulations [.shadow]) := by
  obtain ⟨-, apart, modes_set, set, merges⟩ := entryStyles_merge
  have perm : themedGroup.Perm themedParts.flatten := by decide
  have known : ∀ part ∈ themedParts,
      ∃ id ∈ Group.ids part, id < themedGraph.size := by
    decide
  have modes : (themedParts.map fun part =>
      (Entry.ofGroup themedGraph part).modes) = [[defaultMode], ["dark"]] := by
    cbv
  have encapsulations : (themedParts.map fun part =>
      (Entry.ofGroup themedGraph part).encapsulations) =
        [[.none], [.scoped, .shadow]] := by
    cbv
  obtain ⟨merged_modes, merged⟩ := merges themedGraph _ _ perm known
  rw [List.flatMap_def, modes] at merged_modes
  rw [List.flatMap_def, encapsulations] at merged
  refine ⟨perm, known, modes, ?_, encapsulations, ?_, ?_, ?_⟩
  · rw [merged_modes]
    decide +kernel
  · rw [merged]
    decide
  · exact modes_set _ _ (by simp [or_comm])
  · rw [← apart [.none] [.shadow] (by decide) (by decide)]
    exact set _ _ (by simp [or_comm])

end CodeSplit
