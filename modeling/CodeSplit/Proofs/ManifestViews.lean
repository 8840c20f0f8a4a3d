/-
Module: CodeSplit.Proofs.ManifestViews
Purpose: a manifest shows every entry module of a plan twice, among its entries
  and among its bundles, and both views are at the place of the module.
Main exports:
  Manifest.InOrder, Manifest.Shows, Manifest.entries_ofEntries_eq_iff,
  Manifest.InOrder.shows, Manifest.inOrder_of_plan, plan_shown
-/
import CodeSplit.Manifest
import CodeSplit.Proofs.EntryStyles

namespace CodeSplit

namespace Manifest

/-!
The entries of a manifest are sorted once more by their first tags, while its
bundles keep the order of the entry modules.  A tool that reads both by position
relies on a plan that is in order already: its modules by their first tags, and
each module by the tags in it.
-/

/-- Entry modules in the strict order of their first tags, each with its tags and
its style modes strictly ascending. -/
structure InOrder (entries : List Entry) : Prop where
  by_first_tag : entries.Pairwise fun one other =>
    ∃ first second, one.tags.head? = some first ∧
      other.tags.head? = some second ∧ first < second
  tags_ascending : ∀ entry ∈ entries, entry.tags.Pairwise (· < ·)
  some_mode : ∀ entry ∈ entries, entry.modes ≠ []
  modes_ascending : ∀ entry ∈ entries, entry.modes.Pairwise (· < ·)

/-- A list of parts and a bundle show the same entry module: both list its tags
in their order, the parts with what depends on them, the bundle with its files as
they are shown, and with its style modes unless there is only the default one. -/
structure Shows (root? : Option Path) (entry : Entry)
    (parts : List ManifestPart) (bundle : ManifestBundle) : Prop where
  agree : parts.map (·.tag) = bundle.components
  components : bundle.components = entry.tags
  dependents : parts.map (·.dependents) = entry.parts.map (·.dependents)
  files_perm : bundle.inputFiles.Perm
    (entry.parts.map fun part => displayPath root? part.source)
  files_ascending : bundle.inputFiles.Pairwise (· ≤ ·)
  no_modes : bundle.modes? = none ↔ entry.modes = [defaultMode]
  modes : ∀ modes, bundle.modes? = some modes → modes = entry.modes

/-! ### Sorting again -/

theorem sortTexts_perm (texts : List String) : (sortTexts texts).Perm texts :=
  List.mergeSort_perm _ _

theorem sortTexts_pairwise (texts : List String) :
    (sortTexts texts).Pairwise (· ≤ ·) := by
  simpa [sortTexts] using map_mergeSort_pairwise id texts

/-- Texts that are ascending stay as they are. -/
theorem sortTexts_of_ascending {texts : List String}
    (ascending : texts.Pairwise (· < ·)) : sortTexts texts = texts :=
  List.mergeSort_of_pairwise
    (ascending.imp fun below => decide_eq_true (le_of_lt below))

/-- The parts of an entry module whose tags are ascending stay in place. -/
theorem partsOf_of_ascending {entry : Entry}
    (ascending : entry.tags.Pairwise (· < ·)) :
    partsOf entry = entry.parts.map fun part =>
      { tag := part.tag, dependents := part.dependents } := by
  apply List.mergeSort_of_pairwise
  apply List.pairwise_map.mpr
  exact (List.pairwise_map.mp ascending).imp
    fun below => decide_eq_true (le_of_lt below)

/-- What may stand before another has a first tag that is not greater, as far as
there are first tags. -/
theorem precedes_iff {one other : List ManifestPart} :
    precedes one other = true ↔
      ∀ first ∈ one.head?, ∃ second ∈ other.head?, first.tag ≤ second.tag := by
  cases one <;> cases other <;> simp [precedes]

theorem precedes_trans (one other last : List ManifestPart)
    (before : precedes one other = true)
    (before' : precedes other last = true) : precedes one last = true := by
  rw [precedes_iff] at *
  intro first at_first
  rcases before first at_first with ⟨second, at_second, below⟩
  rcases before' second at_second with ⟨third, at_third, below'⟩
  exact ⟨third, at_third, le_trans below below'⟩

theorem precedes_total (one other : List ManifestPart) :
    (precedes one other || precedes other one) = true := by
  cases one <;> cases other <;> simp [precedes, le_total]

/-- The entries of a manifest are at the places of the entry modules exactly if
these stand in the order of their first tags. -/
theorem entries_ofEntries_eq_iff {entries : List Entry}
    {problems : List Diagnostic} {root? : Option Path} :
    (ofEntries entries problems root?).entries = entries.map partsOf ↔
      (entries.map partsOf).Pairwise fun one other =>
        precedes one other = true := by
  constructor
  · intro same
    rw [← same]
    exact List.pairwise_mergeSort precedes_trans precedes_total _
  · exact List.mergeSort_of_pairwise

/-! ### Style modes -/

/-- The style modes of an entry module are shown unless there is only the default
one. -/
theorem modesOf?_of_ascending {entry : Entry} (some_mode : entry.modes ≠ [])
    (ascending : entry.modes.Pairwise (· < ·)) :
    modesOf? entry =
      if entry.modes = [defaultMode] then none else some entry.modes := by
  rw [modesOf?]
  split
  · contradiction
  · rename_i mode alone
    simp [alone]
  · rename_i several _ more
    rw [sortTexts_of_ascending ascending, if_neg (more defaultMode)]

/-! ### Entry modules in order -/

namespace InOrder

variable {entries : List Entry}

/-- The first tags of the parts are those of the entry modules. -/
theorem pairwise_precedes (ordered : InOrder entries) :
    (entries.map partsOf).Pairwise fun one other =>
      precedes one other = true := by
  apply List.pairwise_map.mpr
  apply ordered.by_first_tag.imp_of_mem
  intro one other among among' given
  rcases given with ⟨first, second, at_first, at_second, below⟩
  rw [partsOf_of_ascending (ordered.tags_ascending one among),
    partsOf_of_ascending (ordered.tags_ascending other among'), precedes_iff]
  rw [Entry.tags, List.head?_map, Option.map_eq_some_iff] at at_first at_second
  rcases at_first with ⟨part, at_part, rfl⟩
  rcases at_second with ⟨part', at_part', rfl⟩
  simp [List.head?_map, at_part, at_part', le_of_lt below]

/-- The parts and the bundle of an entry module show it. -/
theorem shows_partsOf (ordered : InOrder entries) (root? : Option Path)
    {entry : Entry} (among : entry ∈ entries) :
    Shows root? entry (partsOf entry) (bundleOf root? entry) := by
  have parts := partsOf_of_ascending (ordered.tags_ascending entry among)
  have components : (bundleOf root? entry).components = entry.tags :=
    sortTexts_of_ascending (ordered.tags_ascending entry among)
  have modes : (bundleOf root? entry).modes? = _ :=
    modesOf?_of_ascending (ordered.some_mode entry among)
      (ordered.modes_ascending entry among)
  refine
    { agree := ?_
      components := components
      dependents := ?_
      files_perm := sortTexts_perm _
      files_ascending := sortTexts_pairwise _
      no_modes := ?_
      modes := ?_ }
  · rw [components, parts, List.map_map]
    rfl
  · rw [parts, List.map_map]
    rfl
  · rw [modes]
    split <;> simp_all
  · rw [modes]
    intro shown given
    split at given
    · cases given
    · exact (Option.some.inj given).symm

/-- Both views of every entry module are at its place. -/
theorem shows (ordered : InOrder entries) (problems : List Diagnostic)
    (root? : Option Path) {index : Nat} {entry : Entry}
    (at_index : entries[index]? = some entry) :
    ∃ parts bundle,
      (ofEntries entries problems root?).entries[index]? = some parts ∧
      (ofEntries entries problems root?).bundles[index]? = some bundle ∧
      Shows root? entry parts bundle := by
  refine ⟨partsOf entry, bundleOf root? entry, ?_, ?_,
    ordered.shows_partsOf root? (List.mem_of_getElem? at_index)⟩
  · rw [entries_ofEntries_eq_iff.mpr ordered.pairwise_precedes,
      List.getElem?_map, at_index]
    rfl
  · rw [ofEntries, List.getElem?_map, at_index]
    rfl

end InOrder

@[simp] theorem length_entries_ofEntries (entries : List Entry)
    (problems : List Diagnostic) (root? : Option Path) :
    (ofEntries entries problems root?).entries.length = entries.length := by
  simp [ofEntries]

@[simp] theorem length_bundles_ofEntries (entries : List Entry)
    (problems : List Diagnostic) (root? : Option Path) :
    (ofEntries entries problems root?).bundles.length = entries.length := by
  simp [ofEntries]

/-- The entry modules of every plan are in order. -/
theorem inOrder_of_plan {project : Project} {source : Source} {aborted : Bool}
    {plan : Plan} (planned : project.plan source aborted = .ok plan) :
    InOrder plan.entries := by
  have valid := (Project.valid_of_plan planned).2
  have formed := valid.wellFormed source
  rcases valid.exists_run source with ⟨run⟩
  have entries := Project.entries_of_plan planned run
  have made {entry : Entry} (found : entry ∈ plan.entries) :
      ∃ group ∈ run.finished,
        Entry.ofGroup (project.graph source) group = entry := by
    rw [entries] at found
    exact List.mem_map.mp found
  refine
    { by_first_tag := ?_
      tags_ascending := ?_
      some_mode := ?_
      modes_ascending := ?_ }
  · rw [entries, List.pairwise_map]
    exact List.pairwise_map.mp (run.entryTags_pairwise formed)
  · intro entry found
    rcases made found with ⟨group, among, rfl⟩
    exact run.entryTags_ascending formed _ (List.mem_map_of_mem among)
  · intro entry found
    rcases made found with ⟨group, _, rfl⟩
    exact entryModes_ne_nil _
  · intro entry found
    rcases made found with ⟨group, _, rfl⟩
    exact entryModes_pairwise _

end Manifest

/-- A plan without errors has a manifest, seen from any directory, whose entries
and bundles are as many as the entry modules; at the place of every module, its
entry and its bundle show that module. -/
theorem plan_shown {project : Project} {source : Source} {aborted : Bool}
    {plan : Plan} (planned : project.plan source aborted = .ok plan)
    (clean : plan.hasErrors = false) (root? : Option Path) :
    ∃ manifest, Manifest.ofPlan? plan root? = some manifest ∧
      manifest.entries.length = plan.entries.length ∧
      manifest.bundles.length = plan.entries.length ∧
      ∀ (index : Nat) (entry : Entry), plan.entries[index]? = some entry →
        ∃ parts bundle, manifest.entries[index]? = some parts ∧
          manifest.bundles[index]? = some bundle ∧
          Manifest.Shows root? entry parts bundle := by
  have ordered := Manifest.inOrder_of_plan planned
  refine ⟨_, if_neg (ne_true_of_eq_false clean), ?_, ?_, ?_⟩
  · apply Manifest.length_entries_ofEntries
  · apply Manifest.length_bundles_ofEntries
  · intro index entry at_index
    exact ordered.shows plan.problems root? at_index

/-- The plan of the application with a dark mode and of the card that it
needs. -/
def themedPlan : Plan where
  entries :=
    [{ key := "entry:shop-app"
       parts := [{ tag := "shop-app", source := ⟨"app.js"⟩ }]
       modes := ["dark"]
       encapsulations := [.scoped, .shadow]
       requiresScopedStyles := true },
     { key := "entry:shop-card"
       parts := [{ tag := "shop-card", source := ⟨"card.js"⟩,
                   dependents := ["shop-app"] }]
       modes := [defaultMode]
       encapsulations := [.none]
       requiresScopedStyles := false }]

theorem plan_themedShop :
    themedShop.plan Project.silent false = .ok themedPlan := by
  have normal : Component.normalizeAll themedShop.components =
      .ok themedComponents :=
    Component.normalizeAll_eq_ok_iff.mpr
      ⟨by decide +kernel, by decide +kernel, by decide +kernel⟩
  rw [Project.plan, Project.planning, normal]
  cbv

/-- The manifest shows the application and its dark mode first, and then the card
without any mode. -/
theorem plan_shown_shop :
    themedShop.plan Project.silent false = .ok themedPlan ∧
    themedPlan.hasErrors = false ∧
    ∃ manifest app card, Manifest.ofPlan? themedPlan none = some manifest ∧
      manifest.bundles[0]? = some app ∧ manifest.bundles[1]? = some card ∧
      app.components = ["shop-app"] ∧ app.modes? = some ["dark"] ∧
      card.inputFiles = ["card.js"] ∧ card.modes? = none := by
  have clean : themedPlan.hasErrors = false := rfl
  rcases plan_shown plan_themedShop clean none with ⟨manifest, made, _, _, shown⟩
  rcases shown 0 _ rfl with ⟨_, app, _, first, app_shown⟩
  rcases shown 1 _ rfl with ⟨_, card, _, second, card_shown⟩
  refine ⟨plan_themedShop, clean, manifest, app, card, made, first, second,
    app_shown.components, ?_, ?_, card_shown.no_modes.mpr rfl⟩
  · cases shows : app.modes? with
    | none => exact absurd (app_shown.no_modes.mp shows) (by decide)
    | some modes => rw [app_shown.modes modes shows]
  · exact List.perm_singleton.mp card_shown.files_perm

end CodeSplit
