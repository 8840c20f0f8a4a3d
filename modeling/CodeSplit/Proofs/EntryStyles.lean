/-
Module: CodeSplit.Proofs.EntryStyles
Purpose: all components of an entry module have one encapsulation, and it is
  built for exactly the styles that they name.
Main exports:
  exists_encapsulation_of_mem_splitByStyling, mem_entryEncapsulations_iff,
  Encapsulation.builds, mem_entryModes_iff, Entry.mem_modes_ofGroup,
  Entry.Holds, Entry.StyledAs, plan_styled
-/
import CodeSplit.Proofs.Coverage
import Mathlib

namespace CodeSplit

/-! ### Groups with one encapsulation -/

/-- After splitting, all members of a group have one encapsulation. -/
theorem exists_encapsulation_of_mem_splitByStyling {graph : Graph}
    {groups : List Group} (distinct : (groups.flatMap Group.ids).Nodup)
    {group : Group} (among : group ∈ splitByStyling graph groups) :
    ∃ mode, ∀ id ∈ Group.ids group, graph.encapsulation id = mode := by
  rw [splitByStyling_eq graph distinct, mem_sortGroups, List.mem_append,
    List.mem_map] at among
  have own {mode : Encapsulation} {old : Group} {member : Member}
      (found : member ∈ membersWith graph mode old) :
      graph.encapsulation member.id = mode := by
    simpa using (List.mem_filter.mp found).2
  rcases among with kept | ⟨pool, pooled, rfl⟩
  · obtain ⟨old, _, rfl⟩ := List.mem_map.mp kept
    refine ⟨majority graph old, fun id found => ?_⟩
    obtain ⟨member, inside, rfl⟩ := List.mem_map.mp found
    exact own inside
  · obtain ⟨mode, _, rfl⟩ := List.mem_map.mp (List.mem_filter.mp pooled).1
    refine ⟨mode, fun id found => ?_⟩
    rw [(Group.ids_sorted_perm _).mem_iff] at found
    obtain ⟨member, inside, rfl⟩ := List.mem_map.mp found
    obtain ⟨old, _, shed⟩ := List.mem_flatMap.mp inside
    split at shed
    · cases shed
    · exact own shed

/-! ### Encapsulations of a bundle -/

namespace Encapsulation

instance : IsTrans Encapsulation (· < ·) :=
  ⟨fun _ _ _ => Nat.lt_trans⟩

instance : Std.Irrefl (α := Encapsulation) (· < ·) :=
  ⟨fun mode => Nat.lt_irrefl mode.rank⟩

instance : Std.Antisymm (α := Encapsulation) (· < ·) :=
  ⟨fun _ _ below above => absurd above (Nat.lt_asymm below)⟩

instance : Std.Trichotomous (α := Encapsulation) (· < ·) :=
  ⟨fun _ _ notBelow notAbove =>
    rank_injective (Nat.le_antisymm (Nat.le_of_not_lt notAbove)
      (Nat.le_of_not_lt notBelow))⟩

/-- What a bundle is built with whose components all have the encapsulation. -/
def builds : Encapsulation → List Encapsulation
  | .none => [.none]
  | .scoped => [.scoped]
  | .shadow => [.scoped, .shadow]

/-- Only without encapsulation are no scoped styles built. -/
theorem any_requiresScopedStyles_builds (mode : Encapsulation) :
    mode.builds.any requiresScopedStyles = true ↔ mode ≠ .none := by
  cases mode <;> decide

end Encapsulation

/-- A bundle with components is built for their encapsulations, and for scoped
styles where one of them has a shadow root. -/
theorem mem_entryEncapsulations_iff {modes : List Encapsulation}
    {mode : Encapsulation} (some_mode : modes ≠ []) :
    mode ∈ entryEncapsulations modes ↔
      mode ∈ modes ∨ mode = .scoped ∧ .shadow ∈ modes := by
  have some_mode' : modes.isEmpty = false := by
    rwa [List.isEmpty_eq_false_iff]
  rw [entryEncapsulations, some_mode', if_neg Bool.false_ne_true]
  split
  · rename_i shadow
    rw [mem_ascending, List.mem_append, List.mem_singleton, and_iff_left shadow]
  · rename_i unshadowed
    rw [mem_ascending, or_iff_left (mt And.right unshadowed)]

theorem entryEncapsulations_pairwise (modes : List Encapsulation) :
    (entryEncapsulations modes).Pairwise (· < ·) := by
  rw [entryEncapsulations]
  split
  · exact List.pairwise_singleton _ _
  · split <;> exact ascending_pairwise _

/-- Components with one encapsulation give what a bundle is built with for it. -/
theorem entryEncapsulations_eq_builds {modes : List Encapsulation}
    {mode : Encapsulation} (some_mode : modes ≠ [])
    (alike : ∀ other ∈ modes, other = mode) :
    entryEncapsulations modes = mode.builds := by
  have mem_iff (other : Encapsulation) : other ∈ modes ↔ other = mode := by
    constructor
    · exact alike other
    · rintro rfl
      obtain ⟨first, found⟩ := List.exists_mem_of_ne_nil modes some_mode
      exact alike first found ▸ found
  have ascends : mode.builds.Pairwise (· < ·) := by
    cases mode <;> decide
  apply (entryEncapsulations_pairwise modes).eq_of_mem_iff ascends
  intro other
  rw [mem_entryEncapsulations_iff some_mode, mem_iff, mem_iff]
  cases mode <;> simp [Encapsulation.builds, or_comm]

/-! ### Style modes of a bundle -/

variable {modes : List String}

/-- A bundle is built for the modes that its components name apart from the
default one, and for the default mode if they name no other. -/
theorem mem_entryModes_iff {mode : String} :
    mode ∈ entryModes modes ↔
      mode ∈ modes ∧ mode ≠ defaultMode ∨
        mode = defaultMode ∧ ∀ other ∈ modes, other = defaultMode := by
  have ordered := ascending_pairwise modes
  have members (other : String) : other ∈ modes ↔ other ∈ ascending modes :=
    mem_ascending.symm
  simp only [members, entryModes]
  cases sorted : ascending modes with
  | nil => simp
  | cons one rest =>
      cases rest with
      | nil =>
          simp only [List.mem_singleton, forall_eq]
          grind
      | cons other rest =>
          -- Of two different modes one is not the default mode.
          have named : ¬ ∀ mode ∈ one :: other :: rest, mode = defaultMode := by
            intro plain
            rw [sorted] at ordered
            have below := (List.pairwise_cons.mp ordered).1 other
              List.mem_cons_self
            rw [plain one (by simp), plain other (by simp)] at below
            exact lt_irrefl _ below
          rw [List.mem_filter, decide_eq_true_eq,
            or_iff_left fun given => named given.2]

theorem entryModes_pairwise (modes : List String) :
    (entryModes modes).Pairwise (· < ·) := by
  have ordered := ascending_pairwise modes
  rw [entryModes]
  split
  · exact List.pairwise_singleton _ _
  · exact List.pairwise_singleton _ _
  · exact ordered.filter _

/-- Every bundle is built for some mode. -/
theorem entryModes_ne_nil (modes : List String) : entryModes modes ≠ [] := by
  by_cases plain : ∀ other ∈ modes, other = defaultMode
  · exact List.ne_nil_of_mem (mem_entryModes_iff.mpr (Or.inr ⟨rfl, plain⟩))
  · obtain ⟨mode, given⟩ := not_forall.mp plain
    obtain ⟨named, other⟩ := Classical.not_imp.mp given
    exact List.ne_nil_of_mem (mem_entryModes_iff.mpr (Or.inl ⟨named, other⟩))

/-! ### The components of an entry module -/

/-- The components of a group's members. -/
def Group.components (graph : Graph) (group : Group) : List Component :=
  (Group.ids group).filterMap graph.component?

/-- The components of members with one encapsulation have it too. -/
theorem Group.encapsulation_of_mem_components {graph : Graph} {group : Group}
    {mode : Encapsulation}
    (alike : ∀ id ∈ ids group, graph.encapsulation id = mode)
    {component : Component} (found : component ∈ components graph group) :
    component.encapsulation = mode := by
  obtain ⟨id, inside, at_id⟩ := List.mem_filterMap.mp found
  rw [← alike id inside, Graph.encapsulation, at_id]
  rfl

/-- A group with a component of the graph has components. -/
theorem Group.components_ne_nil {graph : Graph} {group : Group}
    (known : ∃ id ∈ ids group, id < graph.size) : components graph group ≠ [] := by
  obtain ⟨id, inside, below⟩ := known
  have at_id : graph.component? id = some graph.nodes[id].component := by
    rw [Graph.component?, List.getElem?_eq_getElem below, Option.map_some]
  exact List.ne_nil_of_mem (List.mem_filterMap.mpr ⟨id, inside, at_id⟩)

/-- A group of components of the graph has components if it has members. -/
theorem Group.components_ne_nil_of_known {graph : Graph} {group : Group}
    (some_member : group ≠ []) (known : ∀ id ∈ ids group, id < graph.size) :
    components graph group ≠ [] := by
  obtain ⟨id, _, inside, _⟩ := exists_smallest some_member
  exact components_ne_nil ⟨id, inside, known id inside⟩

namespace Entry

theorem encapsulations_ofGroup (graph : Graph) (group : Group) :
    (ofGroup graph group).encapsulations = entryEncapsulations
      ((Group.components graph group).map (·.encapsulation)) := rfl

/-- A group whose members have one encapsulation is built accordingly. -/
theorem encapsulations_eq_builds {graph : Graph} {group : Group}
    {mode : Encapsulation} (some_component : Group.components graph group ≠ [])
    (alike : ∀ id ∈ Group.ids group, graph.encapsulation id = mode) :
    (ofGroup graph group).encapsulations = mode.builds := by
  rw [encapsulations_ofGroup]
  apply entryEncapsulations_eq_builds
  · rwa [ne_eq, List.map_eq_nil_iff]
  · intro other found
    obtain ⟨component, inside, rfl⟩ := List.mem_map.mp found
    exact Group.encapsulation_of_mem_components alike inside

theorem modes_ofGroup (graph : Graph) (group : Group) :
    (ofGroup graph group).modes = entryModes
      ((Group.components graph group).flatMap (·.styleModes)) := rfl

/-- An entry module is built for the style modes that the components of its group
name apart from the default one, or for the default one alone. -/
theorem mem_modes_ofGroup {graph : Graph} {group : Group} {mode : String} :
    mode ∈ (ofGroup graph group).modes ↔
      (∃ component ∈ Group.components graph group,
          mode ∈ component.styleModes) ∧ mode ≠ defaultMode ∨
        mode = defaultMode ∧ ∀ component ∈ Group.components graph group,
          ∀ other ∈ component.styleModes, other = defaultMode := by
  rw [modes_ofGroup, mem_entryModes_iff, List.mem_flatMap,
    List.forall_mem_flatMap]

theorem requiresScopedStyles_ofGroup (graph : Graph) (group : Group) :
    (ofGroup graph group).requiresScopedStyles =
      (ofGroup graph group).encapsulations.any
        Encapsulation.requiresScopedStyles := rfl

/-- The entry module holds the component of the project. -/
def Holds (entry : Entry) (project : Project) (component : Component) : Prop :=
  component ∈ project.components ∧ normalizeTag component.tag ∈ entry.tags

/-- All components of an entry module have one encapsulation, and the module is
built with what this encapsulation takes and for the style modes that the
components name. -/
structure StyledAs (entry : Entry) (project : Project) (mode : Encapsulation) :
    Prop where
  /-- Every tag of the entry module is that of a component in it. -/
  covered : ∀ tag ∈ entry.tags, ∃ component, entry.Holds project component ∧
    normalizeTag component.tag = tag
  /-- There is a component in it. -/
  inhabited : ∃ component, entry.Holds project component
  alike : ∀ component, entry.Holds project component →
    component.encapsulation = mode
  encapsulations : entry.encapsulations = mode.builds
  requires_scoped : entry.requiresScopedStyles = true ↔ mode ≠ .none
  some_mode : entry.modes ≠ []
  ascending : entry.modes.Pairwise (· < ·)
  /-- The style modes of the entry module are those that its components name
  apart from the default one, or the default one alone. -/
  modes : ∀ mode, mode ∈ entry.modes ↔
    (∃ component, entry.Holds project component ∧
      mode ∈ component.styleModes ∧ mode ≠ defaultMode) ∨
    mode = defaultMode ∧ ∀ component, entry.Holds project component →
      ∀ other ∈ component.styleModes, other = defaultMode

end Entry

namespace Project

variable {project : Project} {source : Source}

@[simp] theorem encapsulation_kept (component : Component) :
    (project.kept source component).encapsulation =
      component.encapsulation := by
  rw [kept, Component.normalize]

@[simp] theorem styleModes_kept (component : Component) :
    (project.kept source component).styleModes = component.styleModes := by
  rw [kept, Component.normalize]

theorem component?_graph {id : ComponentId} {own : Component}
    (at_id : (project.ordered source)[id]? = some (project.kept source own)) :
    (project.graph source).component? id = some (project.kept source own) := by
  rw [graph, Graph.sourceGraph, Graph.component?_link]
  exact at_id

section

variable {group : Group} (valid : project.HasValidTags)
variable (known : ∀ id ∈ Group.ids group, id < (project.graph source).size)

include valid known

/-- The components of a group, as they stand in the graph, are those that its
entry module holds. -/
theorem HasValidTags.mem_components_iff {component : Component} :
    component ∈ Group.components (project.graph source) group ↔
      ∃ own, (Entry.ofGroup (project.graph source) group).Holds project own ∧
        project.kept source own = component := by
  have perm := Entry.tags_ofGroup_perm (project.graph source) group
  rw [Group.components, List.mem_filterMap]
  constructor
  · intro given
    obtain ⟨id, inside, at_id⟩ := given
    obtain ⟨own, among, _, at_own⟩ := valid.exists_of_lt (known id inside)
    refine ⟨own, ⟨among, perm.mem_iff.mpr ?_⟩, ?_⟩
    · exact List.mem_map.mpr ⟨id, inside, tag_graph at_own⟩
    · rw [component?_graph at_own] at at_id
      exact Option.some.inj at_id
  · intro given
    obtain ⟨own, ⟨among, held⟩, rfl⟩ := given
    obtain ⟨id, inside, same⟩ := List.mem_map.mp (perm.mem_iff.mp held)
    obtain ⟨other, among', _, at_other⟩ := valid.exists_of_lt (known id inside)
    rw [tag_graph at_other] at same
    obtain rfl := valid.eq_of_tag_eq among' among same
    exact ⟨id, inside, component?_graph at_other⟩

/-- Every tag of an entry module is that of a component in it. -/
theorem HasValidTags.exists_of_mem_tags {tag : String}
    (held : tag ∈ (Entry.ofGroup (project.graph source) group).tags) :
    ∃ own, (Entry.ofGroup (project.graph source) group).Holds project own ∧
      normalizeTag own.tag = tag := by
  have perm := Entry.tags_ofGroup_perm (project.graph source) group
  obtain ⟨id, inside, rfl⟩ := List.mem_map.mp (perm.mem_iff.mp held)
  obtain ⟨own, among, _, at_own⟩ := valid.exists_of_lt (known id inside)
  rw [tag_graph at_own] at held ⊢
  exact ⟨own, ⟨among, held⟩, rfl⟩

/-- The style modes of an entry module are those that its components name apart
from the default one, or the default one alone. -/
theorem HasValidTags.mem_modes_iff {mode : String} :
    mode ∈ (Entry.ofGroup (project.graph source) group).modes ↔
      (∃ own, (Entry.ofGroup (project.graph source) group).Holds project own ∧
        mode ∈ own.styleModes ∧ mode ≠ defaultMode) ∨
      mode = defaultMode ∧
        ∀ own, (Entry.ofGroup (project.graph source) group).Holds project own →
          ∀ other ∈ own.styleModes, other = defaultMode := by
  simp only [Entry.mem_modes_ofGroup, valid.mem_components_iff known,
    exists_exists_and_eq_and, forall_exists_index, and_imp,
    forall_apply_eq_imp_iff₂, styleModes_kept]
  simp only [← exists_and_right, and_assoc]

/-- Where the members of a group have one encapsulation, its entry module is
styled accordingly. -/
theorem HasValidTags.styledAs_ofGroup {mode : Encapsulation}
    (some_member : group ≠ [])
    (alike : ∀ id ∈ Group.ids group,
      (project.graph source).encapsulation id = mode) :
    (Entry.ofGroup (project.graph source) group).StyledAs project mode := by
  have some_component := Group.components_ne_nil_of_known some_member known
  have built := Entry.encapsulations_eq_builds some_component alike
  refine
    { covered := fun tag => valid.exists_of_mem_tags known
      inhabited := ?_
      alike := ?_
      encapsulations := built
      requires_scoped := ?_
      some_mode := ?_
      ascending := ?_
      modes := fun _ => valid.mem_modes_iff known }
  · obtain ⟨component, found⟩ := List.exists_mem_of_ne_nil _ some_component
    obtain ⟨own, holds, _⟩ := (valid.mem_components_iff known).mp found
    exact ⟨own, holds⟩
  · intro own holds
    have found := (valid.mem_components_iff known).mpr ⟨own, holds, rfl⟩
    have same := Group.encapsulation_of_mem_components alike found
    rwa [encapsulation_kept] at same
  · rw [Entry.requiresScopedStyles_ofGroup, built]
    exact mode.any_requiresScopedStyles_builds
  · rw [Entry.modes_ofGroup]
    exact entryModes_ne_nil _
  · rw [Entry.modes_ofGroup]
    exact entryModes_pairwise _

end

end Project

/-- Every entry module of a plan holds components of one encapsulation, and is
built with what this encapsulation takes and for the style modes that the
components name. -/
theorem plan_styled {project : Project} {source : Source} {aborted : Bool}
    {plan : Plan} (planned : project.plan source aborted = .ok plan) :
    ∀ entry ∈ plan.entries, ∃ mode, entry.StyledAs project mode := by
  have valid := (Project.valid_of_plan planned).2
  obtain ⟨run⟩ := valid.exists_run source
  have formed := valid.wellFormed source
  intro entry found
  rw [Project.entries_of_plan planned run] at found
  obtain ⟨group, among, rfl⟩ := List.mem_map.mp found
  obtain ⟨mode, alike⟩ := exists_encapsulation_of_mem_splitByStyling
    (run.distinct_groups formed) among
  refine ⟨mode, valid.styledAs_ofGroup ?_ ?_ alike⟩
  · exact fun id => run.lt_of_mem_finished formed among
  · rintro rfl
    exact run.nil_not_mem_finished formed among

/-- An application with a shadow root and a dark mode, and a card that it needs,
whose styles apply to the whole page. -/
def themedComponents : List Component :=
  [{ tag := "shop-app", source := ⟨"app.js"⟩, dependencies := ["shop-card"],
     encapsulation := .shadow, styleModes := ["dark", defaultMode] },
    { tag := "shop-card", source := ⟨"card.js"⟩ }]

/-- The project of the two components. -/
def themedShop : Project where
  components := themedComponents

/-- The graph of the two components. -/
def themedGraph : Graph where
  nodes :=
    (themedComponents.zip [[1], []]).map fun (component, needed) =>
      { component := component, mentioned := [], dependencies := needed }

/-- The two components are one group at first. -/
theorem exists_plan_themedShop :
    ∃ plan, themedShop.plan Project.silent false = .ok plan ∧
      plan.entries = [Entry.ofGroup themedGraph [{ id := 0 }],
        Entry.ofGroup themedGraph [{ id := 1, dependents := [0] }]] := by
  have normal : themedShop.components.map Component.normalize =
      themedComponents := by
    decide +kernel
  have grouped : (planGroups themedGraph themedShop.bundles {}).outcome.map
      (·.1) = .ok [[{ id := 0 }, { id := 1, dependents := [0] }]] := by
    cbv
  have split : splitByStyling themedGraph
      [[{ id := 0 }, { id := 1, dependents := [0] }]] =
      [[{ id := 0 }], [{ id := 1, dependents := [0] }]] := by
    cbv
  obtain ⟨plan, planned, entries⟩ := Project.exists_plan_silent normal
    (by decide +kernel) (by decide) rfl (by decide +kernel) grouped
  rw [split] at entries
  exact ⟨plan, planned, entries⟩

/-- The application is apart from the card, and built in two ways for the dark
mode alone. -/
theorem plan_styled_shop :
    ∃ plan, themedShop.plan Project.silent false = .ok plan ∧
      ∃ app card, plan.entries = [app, card] ∧
        app.encapsulations = [.scoped, .shadow] ∧ "dark" ∈ app.modes ∧
        defaultMode ∉ app.modes ∧ card.encapsulations = [.none] := by
  obtain ⟨plan, planned, entries⟩ := exists_plan_themedShop
  have own_tag {component : Component} (among : component ∈ themedComponents) :
      normalizeTag component.tag = component.tag := by
    have checked : themedComponents.all
        (fun component => normalizeTag component.tag = component.tag) = true := by
      decide +kernel
    simpa using List.all_eq_true.mp checked component among
  have app_tags : (Entry.ofGroup themedGraph [{ id := 0 }]).tags =
      ["shop-app"] := by
    cbv
  have card_tags : (Entry.ofGroup themedGraph
      [{ id := 1, dependents := [0] }]).tags = ["shop-card"] := by
    cbv
  obtain ⟨app_mode, app_styled⟩ :=
    plan_styled planned _ (by rw [entries]; exact List.mem_cons_self)
  obtain ⟨card_mode, card_styled⟩ := plan_styled planned _
    (by rw [entries]; exact List.mem_cons_of_mem _ List.mem_cons_self)
  have app_holds : Entry.Holds (Entry.ofGroup themedGraph [{ id := 0 }])
      themedShop themedComponents[0] := by
    refine ⟨List.getElem_mem _, ?_⟩
    rw [own_tag (List.getElem_mem _), app_tags]
    exact List.mem_cons_self
  have card_holds : Entry.Holds
      (Entry.ofGroup themedGraph [{ id := 1, dependents := [0] }])
      themedShop themedComponents[1] := by
    refine ⟨List.getElem_mem _, ?_⟩
    rw [own_tag (List.getElem_mem _), card_tags]
    exact List.mem_cons_self
  have shadow : Encapsulation.shadow = app_mode :=
    app_styled.alike _ app_holds
  have page : Encapsulation.none = card_mode :=
    card_styled.alike _ card_holds
  subst shadow page
  refine ⟨plan, planned, _, _, entries, app_styled.encapsulations, ?_, ?_,
    card_styled.encapsulations⟩
  · exact (app_styled.modes "dark").mpr
      (Or.inl ⟨_, app_holds, by decide, by decide⟩)
  · intro found
    rcases (app_styled.modes defaultMode).mp found with
      ⟨_, _, _, other⟩ | ⟨_, plain⟩
    · exact other rfl
    · exact absurd (plain _ app_holds "dark" (by decide)) (by decide)

end CodeSplit
