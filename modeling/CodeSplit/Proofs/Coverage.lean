/-
Module: CodeSplit.Proofs.Coverage
Purpose: which components a plan holds, and that it holds each of them once and
  in order.
Main exports:
  Project.Bundled, Project.NeededByDocument, Project.Included,
  Graph.Represents.included_iff, plan_covers
-/
import CodeSplit.Proofs.Representation

namespace CodeSplit

/-! ### What a plan has to hold -/

namespace Project

variable (project : Project) (source : Source)

/-- Some bundle of the user names the tag, in some spelling. -/
def Bundled (tag : String) : Prop :=
  ∃ bundle ∈ project.bundles, ∃ entry ∈ bundle, normalizeTag entry = tag

/-- The tag can be reached from one that the root document mentions. -/
def NeededByDocument (tag : String) : Prop :=
  ∃ root, project.Mentioned source root ∧ project.Reaches source root tag

/-- The component is to be in a plan: it belongs to the application, a bundle
names it, the root document needs it, or a component of the application needs
it that neither a bundle nor the root document claims. -/
def Included (component : Component) : Prop :=
  component.isExternal = false ∨
  project.Bundled (normalizeTag component.tag) ∨
  project.NeededByDocument source (normalizeTag component.tag) ∨
  ∃ root ∈ project.components, root.Readable source ∧
    root.isExternal = false ∧
    ¬ project.Bundled (normalizeTag root.tag) ∧
    ¬ project.NeededByDocument source (normalizeTag root.tag) ∧
    project.Reaches source (normalizeTag root.tag) (normalizeTag component.tag)

end Project

/-! ### The same of the graph -/

namespace Graph

variable {graph : Graph} {project : Project} {source : Source}
variable {id : ComponentId}

/-- A tag is looked up by number in a well-formed graph. -/
theorem WellFormed.idOf?_eq_some_iff (formed : graph.WellFormed)
    {tag : String} :
    graph.idOf? tag = some id ↔ id < graph.size ∧ graph.tag id = tag := by
  rw [idOf?, idxOf?_eq_some_iff_of_nodup (formed.tags_ascending.imp ne_of_lt),
    getElem?_tags_eq_some_iff]

/-- A bundle names a number exactly when it names the tag. -/
theorem WellFormed.bundled_iff (formed : graph.WellFormed)
    (known : id < graph.size) :
    graph.Bundled project.bundles id ↔ project.Bundled (graph.tag id) := by
  refine exists_congr fun bundle => and_congr_right fun _ =>
    exists_congr fun entry => and_congr_right fun _ => ?_
  rw [formed.idOf?_eq_some_iff, and_iff_right known, eq_comm]

namespace Represents

/-- The root document needs a number exactly when it needs the tag. -/
theorem neededByDocument_iff (represents : graph.Represents project source)
    (known : id < graph.size) :
    graph.NeededByDocument id ↔
      project.NeededByDocument source (graph.tag id) := by
  constructor
  · intro given
    obtain ⟨root, among, reaches⟩ := given
    obtain ⟨root_known, mentioned⟩ := (represents.roots root).mp among
    exact ⟨graph.tag root, mentioned,
      (represents.reaches_iff root_known known).mp reaches⟩
  · intro given
    obtain ⟨_, mentioned, reaches⟩ := given
    obtain ⟨root, root_known, rfl⟩ :=
      represents.exists_of_knows mentioned.1
    exact ⟨root, (represents.roots root).mpr ⟨root_known, mentioned⟩,
      (represents.reaches_iff root_known known).mpr reaches⟩

/-- A claimed number has a claimed tag. -/
theorem claimed_iff (represents : graph.Represents project source)
    (known : id < graph.size) :
    graph.Claimed project.bundles id ↔
      project.Bundled (graph.tag id) ∨
        project.NeededByDocument source (graph.tag id) := by
  rw [Claimed, represents.formed.bundled_iff known,
    represents.neededByDocument_iff known]

/-- A component is to be in a plan exactly when its number is claimed or left to
the last tier. -/
theorem included_iff (represents : graph.Represents project source)
    (known : id < graph.size) {component : Component}
    (same : graph.tag id = normalizeTag component.tag)
    (outside : graph.isExternal id = component.isExternal) :
    project.Included source component ↔
      graph.Claimed project.bundles id ∨
        graph.InResidue project.bundles id := by
  have claimed := represents.claimed_iff known
  rw [same] at claimed
  constructor
  · rintro (own | bundled | needed |
      ⟨root, among, readable, own, unbundled, unneeded, reaches⟩)
    · exact claimed_or_inResidue known (outside.trans own)
    · exact Or.inl (claimed.mpr (Or.inl bundled))
    · exact Or.inl (claimed.mpr (Or.inr needed))
    · obtain ⟨number, root_known, root_same, root_outside⟩ :=
        represents.exists_number root among readable
      rw [← root_same, ← same] at reaches
      have path := (represents.reaches_iff root_known known).mpr reaches
      have unclaimed : ¬ graph.Claimed project.bundles number := by
        rw [represents.claimed_iff root_known, root_same]
        exact not_or.mpr ⟨unbundled, unneeded⟩
      by_cases claims : graph.Claimed project.bundles id
      · exact Or.inl claims
      · exact Or.inr ⟨claims, number,
          ⟨root_known, root_outside.trans own, unclaimed⟩, path⟩
  · intro given
    rcases given with claims | ⟨_, number, ⟨root_known, own, unclaimed⟩, path⟩
    · rcases claimed.mp claims with bundled | needed
      · exact Or.inr (Or.inl bundled)
      · exact Or.inr (Or.inr (Or.inl needed))
    · obtain ⟨root, among, readable, root_same, root_outside⟩ :=
        represents.exists_component number root_known
      rw [represents.claimed_iff root_known, root_same, not_or] at unclaimed
      have reaches := (represents.reaches_iff root_known known).mp path
      rw [root_same, same] at reaches
      exact Or.inr (Or.inr (Or.inr ⟨root, among, readable,
        root_outside.symm.trans own, unclaimed.1, unclaimed.2, reaches⟩))

end Represents

end Graph

/-! ### What a plan holds -/

namespace TierRun

variable {graph : Graph} {bundles : List (List String)} {walks : Walks}

/-- The tags of the entry modules that a run ends with, module by module. -/
def entryTags (run : TierRun graph bundles walks) : List (List String) :=
  run.finished.map fun group => (Entry.ofGroup graph group).tags

/-- The entry modules hold the tags of what is in the finished groups. -/
theorem flatten_entryTags_perm (run : TierRun graph bundles walks) :
    run.entryTags.flatten.Perm
      (graph.tagsOf (run.finished.flatMap Group.ids)) := by
  rw [entryTags, ← List.flatMap_def, Graph.tagsOf, List.map_flatMap]
  exact List.Perm.flatMap_left _ fun group _ =>
    Entry.tags_ofGroup_perm graph group

theorem lt_of_mem_ids_finished (formed : graph.WellFormed)
    (run : TierRun graph bundles walks) {id : ComponentId}
    (placed : id ∈ run.finished.flatMap Group.ids) : id < graph.size := by
  obtain ⟨group, among, found⟩ := List.mem_flatMap.mp placed
  exact run.lt_of_mem_finished formed among found

/-- No tag is in the entry modules twice. -/
theorem nodup_entryTags (formed : graph.WellFormed)
    (run : TierRun graph bundles walks) : run.entryTags.flatten.Nodup := by
  apply run.flatten_entryTags_perm.symm.nodup
  refine List.Nodup.map_on (fun id placed other placed' same => ?_)
    (run.distinct_finished formed)
  exact formed.tag_injective (run.lt_of_mem_ids_finished formed placed)
    (run.lt_of_mem_ids_finished formed placed') same

/-- The tag of a number is in the entry modules exactly when the number is
claimed or left to the last tier. -/
theorem tag_mem_entryTags_iff (formed : graph.WellFormed)
    (run : TierRun graph bundles walks) {id : ComponentId}
    (known : id < graph.size) :
    graph.tag id ∈ run.entryTags.flatten ↔
      graph.Claimed bundles id ∨ graph.InResidue bundles id := by
  rw [run.flatten_entryTags_perm.mem_iff, ← run.mem_ids_finished formed]
  constructor
  · intro found
    obtain ⟨other, placed, same⟩ := List.mem_map.mp found
    obtain rfl := formed.tag_injective
      (run.lt_of_mem_ids_finished formed placed) known same
    exact placed
  · exact List.mem_map_of_mem

theorem exists_of_mem_entryTags (formed : graph.WellFormed)
    (run : TierRun graph bundles walks) {tag : String}
    (found : tag ∈ run.entryTags.flatten) :
    ∃ id < graph.size, graph.tag id = tag := by
  obtain ⟨id, placed, same⟩ :=
    List.mem_map.mp (run.flatten_entryTags_perm.mem_iff.mp found)
  exact ⟨id, run.lt_of_mem_ids_finished formed placed, same⟩

/-- No entry module is empty. -/
theorem nil_not_mem_entryTags (formed : graph.WellFormed)
    (run : TierRun graph bundles walks) : [] ∉ run.entryTags := by
  intro empty
  obtain ⟨group, among, none⟩ := List.mem_map.mp empty
  have perm := Entry.tags_ofGroup_perm graph group
  rw [none, List.nil_perm, Graph.tagsOf, List.map_eq_nil_iff, Group.ids,
    List.map_eq_nil_iff] at perm
  exact run.nil_not_mem_finished formed (perm ▸ among)

/-- Every entry module has its tags strictly ascending. -/
theorem entryTags_ascending (formed : graph.WellFormed)
    (run : TierRun graph bundles walks) :
    ∀ tags ∈ run.entryTags, tags.Pairwise (· < ·) := by
  intro tags found
  obtain ⟨group, among, rfl⟩ := List.mem_map.mp found
  refine Entry.tags_ofGroup_pairwise formed ?_
    fun id => run.lt_of_mem_finished formed among
  exact (List.nodup_flatMap.mp (run.distinct_finished formed)).1 group among

/-- The entry modules stand in the strict order of their first tags. -/
theorem entryTags_pairwise (formed : graph.WellFormed)
    (run : TierRun graph bundles walks) :
    run.entryTags.Pairwise fun one other =>
      ∃ first second, one.head? = some first ∧ other.head? = some second ∧
        first < second := by
  rw [entryTags, List.pairwise_map]
  apply (splitByStyling_smallest_lt graph
    (run.distinct_groups formed)).imp_of_mem
  intro one other among among' given
  obtain ⟨first, second, least, least', below⟩ := given
  have known {group : Group} (found : group ∈ run.finished) :
      ∀ id ∈ Group.ids group, id < graph.size :=
    fun id => run.lt_of_mem_finished formed found
  refine ⟨_, _, Entry.head?_tags_ofGroup formed (known among) least,
    Entry.head?_tags_ofGroup formed (known among') least', ?_⟩
  exact formed.tag_lt below (known among' second (List.min?_mem least'))

end TierRun

/-- A plan holds every component that can be read and is to be in it exactly
once, and no other tag.  No entry module is empty, each has its tags strictly
ascending, and the modules stand in the strict order of their first tags. -/
theorem plan_covers {project : Project} {source : Source} {aborted : Bool}
    {plan : Plan} (planned : project.plan source aborted = .ok plan) :
    (∀ component ∈ project.components, component.Readable source →
      (project.Included source component →
        plan.entryTags.flatten.count (normalizeTag component.tag) = 1) ∧
      (¬ project.Included source component →
        normalizeTag component.tag ∉ plan.entryTags.flatten)) ∧
    (∀ tag ∈ plan.entryTags.flatten, project.Knows source tag) ∧
    [] ∉ plan.entryTags ∧
    (∀ tags ∈ plan.entryTags, tags.Pairwise (· < ·)) ∧
    plan.entryTags.Pairwise fun one other =>
      ∃ first second, one.head? = some first ∧ other.head? = some second ∧
        first < second := by
  have valid := (Project.valid_of_plan planned).2
  obtain ⟨run⟩ := valid.exists_run source
  have represents := valid.represents source
  have formed := represents.formed
  have entryTags : plan.entryTags = run.entryTags := by
    rw [Plan.entryTags, Project.entries_of_plan planned run, List.map_map]
    rfl
  rw [entryTags]
  refine ⟨fun component among readable => ?_, fun tag found => ?_,
    run.nil_not_mem_entryTags formed, run.entryTags_ascending formed,
    run.entryTags_pairwise formed⟩
  · obtain ⟨id, known, same, outside⟩ :=
      represents.exists_number component among readable
    rw [represents.included_iff known same outside, ← same,
      ← run.tag_mem_entryTags_iff formed known]
    exact ⟨List.count_eq_one_of_mem (run.nodup_entryTags formed),
      fun unplaced => unplaced⟩
  · obtain ⟨id, known, rfl⟩ := run.exists_of_mem_entryTags formed found
    exact represents.knows known

/-- The sources of a shop: its application shows a card. -/
def shopSource : Source :=
  .ofReads
    [(⟨"app.js"⟩, .ok "h('shop-card')"), (⟨"card.js"⟩, .ok "")]

/-- The application of the shop, with a carelessly written tag. -/
def shopApp : Component := { tag := " Shop-App", source := ⟨"app.js"⟩ }

/-- The card of the shop, which comes from outside. -/
def shopCard : Component :=
  { tag := "shop-card", source := ⟨"card.js"⟩, isExternal := true }

/-- The plan of the shop holds its application, and the card that this needs,
once each. -/
theorem plan_covers_shop :
    ∃ plan,
      Project.plan { components := [shopApp, shopCard] } shopSource false =
        .ok plan ∧
      plan.entryTags.flatten.count "shop-app" = 1 ∧
      plan.entryTags.flatten.count "shop-card" = 1 := by
  let shop : Project := { components := [shopApp, shopCard] }
  have app_tag : normalizeTag shopApp.tag = "shop-app" := by decide +kernel
  have card_tag : normalizeTag shopCard.tag = "shop-card" := by decide +kernel
  have valid : shop.HasValidTags := by
    simp only [Project.HasValidTags, Component.normalTags, shop,
      List.map_cons, List.map_nil, app_tag, card_tag]
    decide
  obtain ⟨run⟩ := valid.exists_run shopSource
  have planned := Project.plan_eq_of_ok (Project.outcome_planning valid run)
  have covered := (plan_covers planned).1
  have app_among : shopApp ∈ shop.components := List.mem_cons_self
  have card_among : shopCard ∈ shop.components :=
    List.mem_cons_of_mem _ List.mem_cons_self
  have shows : shop.Needs shopSource "shop-app" "shop-card" :=
    ⟨⟨_, card_among, ⟨_, rfl⟩, card_tag⟩, by decide, _, app_among, app_tag, _,
      rfl, Or.inl (by decide +kernel)⟩
  have app_once := (covered _ app_among ⟨_, rfl⟩).1 (Or.inl rfl)
  have card_once := (covered _ card_among ⟨_, rfl⟩).1 <| by
    apply Or.inr
    apply Or.inr
    apply Or.inr
    refine ⟨_, app_among, ⟨_, rfl⟩, rfl, ?_, ?_, ?_⟩
    · intro given
      obtain ⟨_, among, _⟩ := given
      cases among
    · intro given
      obtain ⟨_, ⟨_, _, _, document, _⟩, _⟩ := given
      cases document
    · rw [app_tag, card_tag]
      exact .single shows
  rw [app_tag] at app_once
  rw [card_tag] at card_once
  exact ⟨_, planned, app_once, card_once⟩

end CodeSplit
