/-
Module: CodeSplit.Proofs.Parts
Purpose: when one graph is a part of another one, in terms of tags, and how its
  numbers then lie in the whole.
Main exports:
  Graph.PartOf, Graph.PartOf.embedding, Graph.exists_partOf_of_build,
  Graph.Represents.partOf
-/
import CodeSplit.Proofs.Embedding
import Mathlib.Data.Nat.Nth
import Mathlib.Order.Interval.Set.Infinite

namespace CodeSplit

/-!
The components of a part are those of the whole whose tags are chosen.  Since
numbers follow the order of tags, a component of the part has as its number how
many chosen components come before it.
-/

/-- What is kept of a list before an index that is kept is as much as the number
of indices kept before it. -/
theorem getElem?_filter_count {α : Type} {keeps : α → Bool} {xs : List α}
    {index : Nat} (kept : (xs[index]?).all keeps = true) :
    (xs.filter keeps)[Nat.count
        (fun other => (xs[other]?).all keeps = true) index]? = xs[index]? := by
  induction xs generalizing index with
  | nil => simp
  | cons x xs ih =>
      cases index with
      | zero =>
          have first : keeps x = true := by simpa using kept
          simp [first]
      | succ index =>
          have later := ih (show (xs[index]?).all keeps = true by
            simpa using kept)
          rw [Nat.count_succ']
          by_cases first : keeps x = true
          · simpa [first] using later
          · simpa [first] using later

namespace Graph

/-- One graph has the components of another one whose tags are chosen, with the
same edges and roots.  No chosen component needs one that is not, and from a
start that is not chosen no chosen one can be reached. -/
structure PartOf (part whole : Graph) (chosen : String → Bool) : Prop where
  whole_formed : whole.WellFormed
  part_formed : part.WellFormed
  mem_tags : ∀ tag, tag ∈ part.tags ↔ tag ∈ whole.tags ∧ chosen tag = true
  component : ∀ {id own}, id < whole.size → own < part.size →
    whole.tag id = part.tag own →
      (whole.component? id).map Component.undeclared =
        (part.component? own).map Component.undeclared
  mem_dependencies : ∀ {id own other}, id < whole.size → own < part.size →
    whole.tag id = part.tag own → other < whole.size →
      (other ∈ whole.dependencies id ↔
        ∃ inside ∈ part.dependencies own, part.tag inside = whole.tag other)
  mem_documentRoots : ∀ {id own}, id < whole.size → own < part.size →
    whole.tag id = part.tag own →
      (id ∈ whole.documentRoots ↔ own ∈ part.documentRoots)
  apart : ∀ {root id}, whole.Starts root → chosen (whole.tag root) = false →
    whole.Reaches root id → chosen (whole.tag id) = false

/-- The number stands for a chosen component, or for none. -/
def Chosen (whole : Graph) (chosen : String → Bool) (id : ComponentId) : Prop :=
  (whole.tags[id]?).all chosen = true

instance (whole : Graph) (chosen : String → Bool) :
    DecidablePred (whole.Chosen chosen) :=
  fun _ => inferInstanceAs (Decidable (_ = true))

variable {whole part : Graph} {chosen : String → Bool}

theorem chosen_iff {id : ComponentId} (known : id < whole.size) :
    whole.Chosen chosen id ↔ chosen (whole.tag id) = true := by
  rw [Chosen, getElem?_tags known, Option.all_some]

/-- Numbers that stand for no component never end. -/
theorem chosen_infinite (whole : Graph) (chosen : String → Bool) :
    (Set.ofPred (whole.Chosen chosen)).Infinite := by
  refine Set.Infinite.mono ?_ (Set.Ici_infinite whole.size)
  intro id beyond
  show (whole.tags[id]?).all chosen = true
  have none : whole.tags[id]? = none := by
    rw [List.getElem?_eq_none_iff]
    simpa [tags, size] using beyond
  rw [none, Option.all_none]

theorem component?_of_size_le {graph : Graph} {id : ComponentId}
    (beyond : graph.size ≤ id) : graph.component? id = none := by
  rw [component?, List.getElem?_eq_none beyond, Option.map_none]

namespace PartOf

/-- The tags of the part are the chosen ones. -/
theorem tags_eq (is_part : part.PartOf whole chosen) :
    part.tags = whole.tags.filter chosen := by
  refine List.Pairwise.eq_of_mem_iff is_part.part_formed.tags_ascending
    (is_part.whole_formed.tags_ascending.filter _) fun tag => ?_
  rw [is_part.mem_tags, List.mem_filter]

/-! ### Numbers in the whole -/

variable (is_part : part.PartOf whole chosen)

/-- The number in the whole of the component with a number in the part. -/
noncomputable def place (_ : part.PartOf whole chosen) :
    ComponentId → ComponentId :=
  Nat.nth (whole.Chosen chosen)

/-- The number in the part of a chosen component. -/
def back (_ : part.PartOf whole chosen) (id : ComponentId) :
    Option ComponentId :=
  if whole.Chosen chosen id then some (Nat.count (whole.Chosen chosen) id)
  else none

theorem chosen_place (id : ComponentId) :
    whole.Chosen chosen (is_part.place id) :=
  Nat.nth_mem_of_infinite (chosen_infinite whole chosen) id

theorem strictMono_place : StrictMono is_part.place :=
  Nat.nth_strictMono (chosen_infinite whole chosen)

theorem back_eq_some_iff {id other : ComponentId} :
    is_part.back other = some id ↔ is_part.place id = other := by
  rw [back]
  constructor
  · intro given
    split at given
    · rename_i kept
      rw [← Option.some.inj given, place, Nat.nth_count kept]
    · cases given
  · rintro rfl
    rw [if_pos (is_part.chosen_place id), place,
      Nat.count_nth_of_infinite (chosen_infinite whole chosen)]

/-- A component has a number in the part exactly when it is chosen. -/
theorem isSome_back {id : ComponentId} (known : id < whole.size) :
    (is_part.back id).isSome = chosen (whole.tag id) := by
  rw [back, Bool.eq_iff_iff, ← chosen_iff known]
  split <;> simp_all

/-- The tags of the part stand at their places in the whole. -/
theorem getElem?_tags_place (id : ComponentId) :
    whole.tags[is_part.place id]? = part.tags[id]? := by
  have kept := is_part.chosen_place id
  have same := getElem?_filter_count kept
  have index : Nat.count (fun other => (whole.tags[other]?).all chosen = true)
      (is_part.place id) = id :=
    Nat.count_nth_of_infinite (chosen_infinite whole chosen) id
  rw [index, ← is_part.tags_eq] at same
  exact same.symm

theorem lt_size_iff {id : ComponentId} :
    is_part.place id < whole.size ↔ id < part.size := by
  have same := congrArg Option.isNone (is_part.getElem?_tags_place id)
  rw [Bool.eq_iff_iff, Option.isNone_iff_eq_none, Option.isNone_iff_eq_none,
    List.getElem?_eq_none_iff, List.getElem?_eq_none_iff] at same
  simpa [tags, size] using not_iff_not.mpr same

theorem tag_place {id : ComponentId} (known : id < part.size) :
    whole.tag (is_part.place id) = part.tag id := by
  have same := is_part.getElem?_tags_place id
  rw [getElem?_tags known,
    getElem?_tags (is_part.lt_size_iff.mpr known)] at same
  exact Option.some.inj same

/-- A component of the whole with a tag of the part stands at a place of the
part. -/
theorem place_eq_of_tag_eq {id own : ComponentId} (known : id < whole.size)
    (known' : own < part.size) (same : part.tag own = whole.tag id) :
    is_part.place own = id :=
  is_part.whole_formed.tag_injective (is_part.lt_size_iff.mpr known') known
    ((is_part.tag_place known').trans same)

/-! ### The part as it lies in the whole -/

theorem alike_place : part.Alike whole is_part.place := by
  intro id
  by_cases known : id < part.size
  · exact is_part.component (is_part.lt_size_iff.mpr known) known
      (is_part.tag_place known)
  · rw [component?_of_size_le (not_lt.mp known),
      component?_of_size_le (not_lt.mp (mt is_part.lt_size_iff.mp known))]

theorem dependencies_place (id : ComponentId) :
    whole.dependencies (is_part.place id) =
      (part.dependencies id).map is_part.place := by
  by_cases known : id < part.size
  · have known' := is_part.lt_size_iff.mpr known
    have ordered :
        ((part.dependencies id).map is_part.place).Pairwise (· < ·) :=
      List.pairwise_map.mpr ((is_part.part_formed.dependencies_ascending id).imp
        fun below => is_part.strictMono_place below)
    refine List.Pairwise.eq_of_mem_iff
      (is_part.whole_formed.dependencies_ascending _) ordered fun other => ?_
    rw [List.mem_map]
    constructor
    · intro needed
      have other_known := is_part.whole_formed.dependencies_lt needed
      obtain ⟨inside, needs, same⟩ := (is_part.mem_dependencies known' known
        (is_part.tag_place known) other_known).mp needed
      exact ⟨inside, needs, is_part.place_eq_of_tag_eq other_known
        (is_part.part_formed.dependencies_lt needs) same⟩
    · intro given
      obtain ⟨inside, needs, rfl⟩ := given
      have inside_known := is_part.part_formed.dependencies_lt needs
      exact (is_part.mem_dependencies known' known (is_part.tag_place known)
        (is_part.lt_size_iff.mpr inside_known)).mpr
          ⟨inside, needs, (is_part.tag_place inside_known).symm⟩
  · rw [dependencies_of_size_le (not_lt.mp known),
      dependencies_of_size_le (not_lt.mp (mt is_part.lt_size_iff.mp known)),
      List.map_nil]

theorem pull_documentRoots :
    whole.documentRoots.filterMap is_part.back = part.documentRoots := by
  have ordered :
      (whole.documentRoots.filterMap is_part.back).Pairwise (· < ·) :=
    pairwise_filterMap_back is_part.strictMono_place is_part.back_eq_some_iff
      is_part.whole_formed.roots_ascending
  refine List.Pairwise.eq_of_mem_iff ordered
    is_part.part_formed.roots_ascending fun id => ?_
  simp only [List.mem_filterMap, is_part.back_eq_some_iff,
    exists_eq_right']
  by_cases known : id < part.size
  · exact is_part.mem_documentRoots (is_part.lt_size_iff.mpr known) known
      (is_part.tag_place known)
  · refine iff_of_false (fun among => known ?_) (fun among => known ?_)
    · exact is_part.lt_size_iff.mp (is_part.whole_formed.roots_lt among)
    · exact is_part.part_formed.roots_lt among

theorem not_reaches_place {root id : ComponentId} (start : whole.Starts root)
    (outside : is_part.back root = none) :
    ¬ whole.Reaches root (is_part.place id) := by
  intro reaches
  have unchosen : chosen (whole.tag root) = false := by
    rw [Bool.eq_false_iff, ne_eq, ← chosen_iff start.1]
    intro kept
    simp [back, kept] at outside
  have known := reaches.lt is_part.whole_formed start.1
  have kept := (chosen_iff known).mp (is_part.chosen_place id)
  rw [is_part.apart start unchosen reaches] at kept
  cases kept

/-- A part as it lies in the whole. -/
noncomputable def embedding : part.Embedding whole where
  place := is_part.place
  back := is_part.back
  back_eq_some_iff := is_part.back_eq_some_iff
  ascends := is_part.strictMono_place
  alike := is_part.alike_place
  dependencies_place := is_part.dependencies_place
  roots := is_part.pull_documentRoots
  apart := is_part.not_reaches_place

end PartOf

/-! ### Building a part -/

section

variable {ordered kept : List Component} {mentions : Mentions}
variable {documentTags : List String}

/-- A component of a linked graph stands under its number. -/
theorem exists_getElem?_of_lt {id : ComponentId}
    (known : id < (link ordered mentions documentTags).size) :
    ∃ component, ordered[id]? = some component ∧
      (link ordered mentions documentTags).tag id = component.tag := by
  rw [size_link] at known
  have at_id := List.getElem?_eq_getElem known
  exact ⟨_, at_id, by rw [tag_link, at_id]; rfl⟩

/-- Whether a component needs another one can be told from the two of them. -/
theorem mem_dependencies_link_iff (distinct : (ordered.map (·.tag)).Nodup)
    {id other : ComponentId} {component needed : Component}
    (at_id : ordered[id]? = some component)
    (at_other : ordered[other]? = some needed) :
    other ∈ (link ordered mentions documentTags).dependencies id ↔
      needed.tag ≠ component.tag ∧
        (needed.tag ∈ (mentions.lookup component.tag).getD [] ∨
          needed.tag ∈ component.dependencies) := by
  rw [mem_dependencies_link distinct]
  constructor
  · intro given
    obtain ⟨_, _, at_id', at_other', linked⟩ := given
    rw [at_id] at at_id'
    rw [at_other] at at_other'
    cases at_id'
    cases at_other'
    exact linked
  · intro linked
    exact ⟨component, needed, at_id, at_other, linked⟩

/-- A number in each of two linked graphs stands for one component if it has one
tag in both, where one of them has only components of the other. -/
theorem exists_getElem?_of_tag_eq (distinct : (ordered.map (·.tag)).Nodup)
    (subset : ∀ component ∈ kept, component ∈ ordered) {id own : ComponentId}
    (known : id < (link ordered mentions documentTags).size)
    (known' : own < (link kept mentions documentTags).size)
    (tags : (link ordered mentions documentTags).tag id =
      (link kept mentions documentTags).tag own) :
    ∃ component, ordered[id]? = some component ∧
      kept[own]? = some component := by
  obtain ⟨component, at_id, tag_id⟩ := exists_getElem?_of_lt known
  obtain ⟨component', at_own, tag_own⟩ := exists_getElem?_of_lt known'
  rw [tag_id, tag_own] at tags
  obtain rfl := List.inj_on_of_nodup_map distinct (List.mem_of_getElem? at_id)
    (subset _ (List.mem_of_getElem? at_own)) tags
  exact ⟨component, at_id, at_own⟩

/-- Of components in order, those that are chosen make up a part, where none of
them needs another one and no start that is not chosen leads to any. -/
theorem partOf_link
    (whole_formed : (link ordered mentions documentTags).WellFormed)
    (part_formed : (link kept mentions documentTags).WellFormed)
    (mem_kept : ∀ component, component ∈ kept ↔
      component ∈ ordered ∧ chosen component.tag = true)
    (closed : ∀ {id other},
      other ∈ (link ordered mentions documentTags).dependencies id →
        chosen ((link ordered mentions documentTags).tag id) = true →
          chosen ((link ordered mentions documentTags).tag other) = true)
    (apart : ∀ {root id}, (link ordered mentions documentTags).Starts root →
      chosen ((link ordered mentions documentTags).tag root) = false →
        (link ordered mentions documentTags).Reaches root id →
          chosen ((link ordered mentions documentTags).tag id) = false) :
    (link kept mentions documentTags).PartOf
      (link ordered mentions documentTags) chosen := by
  have distinct : (ordered.map (·.tag)).Nodup := by
    rw [← tags_link]
    exact whole_formed.tags_ascending.imp ne_of_lt
  have distinct' : (kept.map (·.tag)).Nodup := by
    rw [← tags_link]
    exact part_formed.tags_ascending.imp ne_of_lt
  have subset (component : Component) (found : component ∈ kept) :
      component ∈ ordered := ((mem_kept component).mp found).1
  refine ⟨whole_formed, part_formed, fun tag => ?_, ?_, ?_, ?_, apart⟩
  · simp only [tags_link, List.mem_map, mem_kept]
    grind
  · intro id own known known' tags
    obtain ⟨component, at_id, at_own⟩ :=
      exists_getElem?_of_tag_eq distinct subset known known' tags
    rw [component?_link, component?_link, at_id, at_own]
  · intro id own other known known' tags other_known
    obtain ⟨component, at_id, at_own⟩ :=
      exists_getElem?_of_tag_eq distinct subset known known' tags
    constructor
    · intro needs
      -- Here a chosen component must not need one that is left out.
      have here := ((mem_kept _).mp (List.mem_of_getElem? at_own)).2
      have tag_id : (link ordered mentions documentTags).tag id =
          component.tag := by
        rw [tag_link, at_id]
        rfl
      obtain ⟨needed, at_other, tag_other⟩ := exists_getElem?_of_lt other_known
      have there := closed needs (tag_id ▸ here)
      rw [tag_other] at there
      obtain ⟨inside, at_inside⟩ := List.mem_iff_getElem?.mp
        ((mem_kept needed).mpr ⟨List.mem_of_getElem? at_other, there⟩)
      refine ⟨inside, ?_, by rw [tag_other, tag_link, at_inside]; rfl⟩
      rw [mem_dependencies_link_iff distinct at_id at_other] at needs
      exact (mem_dependencies_link_iff distinct' at_own at_inside).mpr needs
    · intro given
      obtain ⟨inside, needs, tag_inside⟩ := given
      obtain ⟨needed, at_other, at_inside⟩ :=
        exists_getElem?_of_tag_eq distinct subset other_known
          (part_formed.dependencies_lt needs) tag_inside.symm
      rw [mem_dependencies_link_iff distinct' at_own at_inside] at needs
      exact (mem_dependencies_link_iff distinct at_id at_other).mpr needs
  · intro id own known known' tags
    obtain ⟨component, at_id, at_own⟩ :=
      exists_getElem?_of_tag_eq distinct subset known known' tags
    rw [mem_documentRoots_link distinct, mem_documentRoots_link distinct',
      at_id, at_own]

end

/-- Where no chosen component needs one that is not, and no start that is not
chosen leads to a chosen one, the chosen components alone make up a part. -/
theorem exists_partOf_of_build (chosen : String → Bool)
    {components : List Component} {mentions : Mentions}
    {documentTags : List String}
    (built : (build components mentions documentTags).outcome = .ok whole)
    (closed : ∀ {id other}, other ∈ whole.dependencies id →
      chosen (whole.tag id) = true → chosen (whole.tag other) = true)
    (apart : ∀ {root id}, whole.Starts root →
      chosen (whole.tag root) = false → whole.Reaches root id →
        chosen (whole.tag id) = false) :
    ∃ part, (build (components.filter fun component => chosen component.tag)
        mentions documentTags).outcome = .ok part ∧
      part.PartOf whole chosen := by
  have distinct := nodup_of_build built
  have distinct' : ((components.filter fun component =>
      chosen component.tag).map (·.tag)).Nodup :=
    distinct.sublist (List.filter_sublist.map _)
  have part_built := outcome_build mentions documentTags distinct'
  have whole_formed := wellFormed_of_build built
  rw [outcome_build mentions documentTags distinct] at built
  obtain rfl := Except.ok.inj built
  refine ⟨_, part_built, partOf_link whole_formed
    (wellFormed_of_build part_built) (fun component => ?_) closed apart⟩
  rw [(orderByTag_perm _).mem_iff, List.mem_filter,
    (orderByTag_perm _).mem_iff]

/-! ### Parts of projects -/

namespace Represents

variable {project other : Project} {source : Source}

theorem mem_tags_iff {graph : Graph}
    (represents : graph.Represents project source) {tag : String} :
    tag ∈ graph.tags ↔ project.Knows source tag := by
  constructor
  · intro found
    obtain ⟨id, at_id⟩ := List.mem_iff_getElem?.mp found
    obtain ⟨known, rfl⟩ := getElem?_tags_eq_some_iff.mp at_id
    exact represents.knows known
  · intro knows
    obtain ⟨id, known, rfl⟩ := represents.exists_of_knows knows
    exact List.mem_of_getElem? (getElem?_tags known)

/-- Where two projects say the same of the chosen tags, and one knows no other
tags, its graph is a part of the graph of the other. -/
theorem partOf (represents : whole.Represents project source)
    (represents_part : part.Represents other source)
    (knows : ∀ tag, other.Knows source tag ↔
      project.Knows source tag ∧ chosen tag = true)
    (needs : ∀ {tag needed}, chosen tag = true →
      (project.Needs source tag needed ↔ other.Needs source tag needed))
    (mentioned : ∀ {tag}, chosen tag = true →
      (project.Mentioned source tag ↔ other.Mentioned source tag))
    (component : ∀ {id own}, id < whole.size → own < part.size →
      whole.tag id = part.tag own →
        (whole.component? id).map Component.undeclared =
          (part.component? own).map Component.undeclared)
    (apart : ∀ {root id}, whole.Starts root →
      chosen (whole.tag root) = false → whole.Reaches root id →
        chosen (whole.tag id) = false) : part.PartOf whole chosen := by
  have is_chosen {own : ComponentId} (known : own < part.size) :
      chosen (part.tag own) = true :=
    ((knows _).mp (represents_part.knows known)).2
  refine ⟨represents.formed, represents_part.formed, fun tag => ?_, component,
    ?_, ?_, apart⟩
  · rw [represents_part.mem_tags_iff, represents.mem_tags_iff, knows]
  · intro id own needed known known' same needed_known
    rw [represents.edges id known, and_iff_right needed_known, same,
      needs (is_chosen known')]
    constructor
    · intro given
      obtain ⟨inside, inside_known, same_tag⟩ :=
        represents_part.exists_of_knows given.1
      refine ⟨inside, ?_, same_tag⟩
      rw [represents_part.edges own known', same_tag]
      exact ⟨inside_known, given⟩
    · intro given
      obtain ⟨inside, edge, same_tag⟩ := given
      rw [← same_tag]
      exact ((represents_part.edges own known' inside).mp edge).2
  · intro id own known known' same
    rw [represents.roots, represents_part.roots, and_iff_right known,
      and_iff_right known', same, mentioned (is_chosen known')]

end Represents

end Graph

end CodeSplit
