/-
Module: CodeSplit.Proofs.UnreadableSources
Purpose: what cannot be read is as good as absent: it changes nothing but the
  problems that are reported.
Main exports:
  Project.readable, Graph.Embedding.entries_eq, plan_readable
-/
import CodeSplit.Proofs.EmbeddedGroups
import CodeSplit.Proofs.Parts

namespace CodeSplit

/-! ### Entry modules of a part that holds everything -/

namespace Graph.Embedding

variable {part whole : Graph} {embedding : part.Embedding whole}

/-- Where all groups of the whole lie in the part, they are the groups of the
part under other numbers. -/
theorem arrange_settledGroups (formed : whole.WellFormed)
    (formed' : part.WellFormed) {bundles : List (List String)}
    (inside : ∀ group ∈ whole.settledGroups bundles,
      ∃ own, group = Group.renumber embedding.place own) :
    arrange (whole.settledGroups bundles) =
      (arrange (part.settledGroups bundles)).map
        (Group.renumber embedding.place) := by
  have one_sided : ∀ group ∈ whole.settledGroups bundles,
      embedding.OneSided group := fun group among => Or.inl (inside group among)
  have kept : (whole.settledGroups bundles).filter embedding.inside =
      (whole.settledGroups bundles).filter (!·.isEmpty) := by
    refine List.filter_congr fun group among => ?_
    obtain ⟨own, rfl⟩ := inside group among
    simp [Embedding.inside]
  rw [← arrange_renumber embedding.ascends,
    ← pullGroups_settledGroups formed formed', renumber_pullGroups one_sided,
    kept, arrange, arrange, List.filter_filter]
  simp

/-- Then both graphs have the same entry modules. -/
theorem entries_eq (embedding : part.Embedding whole)
    (formed : whole.WellFormed) (formed' : part.WellFormed)
    {bundles : List (List String)}
    (inside : ∀ group ∈ whole.settledGroups bundles,
      ∃ own, group = Group.renumber embedding.place own) :
    (splitByStyling whole (arrange (whole.settledGroups bundles))).map
        (Entry.ofGroup whole) =
      (splitByStyling part (arrange (part.settledGroups bundles))).map
        (Entry.ofGroup part) := by
  rw [arrange_settledGroups formed formed' inside,
    embedding.alike.splitByStyling embedding.ascends, List.map_map]
  exact List.map_congr_left fun group _ => embedding.alike.ofGroup group

/-- A group lies in a part that holds every number in it. -/
theorem exists_renumber {group : Group}
    (inside : ∀ member ∈ group, (∃ own, embedding.place own = member.id) ∧
      ∀ other ∈ member.dependents, ∃ own, embedding.place own = other) :
    ∃ own, group = Group.renumber embedding.place own := by
  have members : ∀ member ∈ group,
      member ∈ Set.range (Member.renumber embedding.place) := by
    intro member found
    obtain ⟨⟨id, same⟩, dependents⟩ := inside member found
    obtain ⟨others, same'⟩ : member.dependents ∈
        Set.range (List.map embedding.place) := by
      rwa [Set.range_list_map]
    exact ⟨{ id := id, dependents := others }, by
      rw [Member.renumber, same, same']⟩
  obtain ⟨own, same⟩ : group ∈
      Set.range (List.map (Member.renumber embedding.place)) := by
    rwa [Set.range_list_map]
  exact ⟨own, same.symm⟩

end Graph.Embedding

/-- The entry modules of a plan, from the settled groups of the graph. -/
theorem Project.entries_of_plan_settled {project : Project} {source : Source}
    {aborted : Bool} {plan : Plan}
    (planned : project.plan source aborted = .ok plan) :
    plan.entries =
      (splitByStyling (project.graph source)
        (arrange ((project.graph source).settledGroups project.bundles))).map
        (Entry.ofGroup (project.graph source)) := by
  have valid := (Project.valid_of_plan planned).2
  obtain ⟨run⟩ := valid.exists_run source
  rw [Project.entries_of_plan planned run, TierRun.finished,
    run.groups_eq_arrange (valid.wellFormed source) (Walks.faithful_nil _)]

/-! ### Leaving out what cannot be read -/

namespace Project

/-- What is left of a project without what cannot be read: its other components
as they are declared, and its root document if that can be read. -/
def readable (project : Project) (source : Source) : Project :=
  { project with
    components := project.components.filter fun component =>
      (source component.source).isOk
    document? := project.document?.filter fun path => (source path).isOk }

variable {project : Project} {source : Source}

theorem isOk_iff {path : Path} :
    (source path).isOk = true ↔ ∃ text, source path = .ok text := by
  cases source path with
  | ok text => simp [Except.isOk, Except.toBool]
  | error cause => simp [Except.isOk, Except.toBool]

theorem mem_components_readable {component : Component} :
    component ∈ (project.readable source).components ↔
      component ∈ project.components ∧ component.Readable source := by
  rw [readable, List.mem_filter, isOk_iff, Component.Readable]

theorem document?_readable {path : Path} :
    (project.readable source).document? = some path ↔
      project.document? = some path ∧ ∃ text, source path = .ok text := by
  rw [readable, Option.filter_eq_some_iff, isOk_iff]

theorem HasValidTags.readable (valid : project.HasValidTags)
    (source : Source) : (project.readable source).HasValidTags := by
  have among : (Component.normalTags
      (project.readable source).components).Sublist
      (Component.normalTags project.components) :=
    List.filter_sublist.map _
  exact ⟨mt (among.subset ·) valid.1, valid.2.sublist among⟩

/-! ### What is known, needed and mentioned -/

theorem knows_readable {tag : String} :
    (project.readable source).Knows source tag ↔
      project.Knows source tag := by
  simp only [Knows, mem_components_readable]
  grind

theorem needs_readable {tag needed : String} :
    (project.readable source).Needs source tag needed ↔
      project.Needs source tag needed := by
  simp only [Needs, knows_readable, mem_components_readable,
    Component.Readable]
  grind

theorem mentioned_readable {tag : String} :
    (project.readable source).Mentioned source tag ↔
      project.Mentioned source tag := by
  simp only [Mentioned, knows_readable, document?_readable]
  grind

theorem undeclared_kept (component : Component) :
    (project.kept source component).undeclared =
      component.normalize.undeclared := by
  rw [kept, Component.undeclared, Component.undeclared]

/-- A number of the graph of a project stands for a component, as that is
declared but for what it needs. -/
theorem HasValidTags.exists_undeclared (valid : project.HasValidTags)
    {id : ComponentId} (known : id < (project.graph source).size) :
    ∃ own ∈ project.components,
      (project.graph source).tag id = normalizeTag own.tag ∧
      ((project.graph source).component? id).map Component.undeclared =
        some own.normalize.undeclared := by
  obtain ⟨own, among, _, at_id⟩ := valid.exists_of_lt known
  refine ⟨own, among, tag_graph at_id, ?_⟩
  have same : (project.graph source).component? id =
      (project.ordered source)[id]? := Graph.component?_link id
  rw [same, at_id, Option.map_some, undeclared_kept]

/-- The graph of what can be read is all of the graph. -/
theorem HasValidTags.partOf_readable (valid : project.HasValidTags)
    (source : Source) :
    ((project.readable source).graph source).PartOf (project.graph source)
      fun _ => true := by
  have valid' := valid.readable source
  refine (valid.represents source).partOf (valid'.represents source)
    (fun tag => knows_readable.trans (and_iff_left rfl).symm)
    (fun _ => needs_readable.symm) (fun _ => mentioned_readable.symm) ?_
    (fun _ unchosen => (Bool.noConfusion unchosen))
  intro id own known known' same
  obtain ⟨one, among, tag_one, declared⟩ := valid.exists_undeclared known
  obtain ⟨other, among', tag_other, declared'⟩ :=
    valid'.exists_undeclared known'
  rw [tag_one, tag_other] at same
  rw [declared, declared',
    valid.eq_of_tag_eq among (mem_components_readable.mp among').1 same]

end Project

/-- A plan has the same entry modules as the plan of what can be read alone. -/
theorem plan_readable {project : Project} {source : Source} {aborted : Bool}
    {plan : Plan} (planned : project.plan source aborted = .ok plan) :
    ∃ other, (project.readable source).plan source aborted = .ok other ∧
      other.entries = plan.entries := by
  obtain ⟨going, valid⟩ := Project.valid_of_plan planned
  have valid' := valid.readable source
  obtain ⟨other, planned'⟩ := Project.exists_plan_iff.mpr ⟨going, valid'⟩
  have is_part := valid.partOf_readable source
  refine ⟨other, planned', ?_⟩
  rw [Project.entries_of_plan_settled planned,
    Project.entries_of_plan_settled planned']
  refine (Graph.Embedding.entries_eq is_part.embedding
    is_part.whole_formed is_part.part_formed fun group _ => ?_).symm
  have all (id : ComponentId) : ∃ own, is_part.embedding.place own = id :=
    ⟨_, is_part.back_eq_some_iff.mp (if_pos (by simp [Graph.Chosen]))⟩
  exact Graph.Embedding.exists_renumber fun member _ =>
    ⟨all member.id, fun other _ => all other⟩

/-- A draft of the shop: its application declares to need a banner whose output
is missing, a bundle asks for the banner, and the root document is missing. -/
def shopDraft : Project where
  components :=
    [{ shopApp with dependencies := ["shop-banner"] },
      { tag := "shop-banner", source := ⟨"banner.js"⟩ }, shopCard]
  bundles := [["Shop-Banner", "shop-card"]]
  document? := some ⟨"index.html"⟩

/-- The draft has the entry modules of the application and the card alone, with
the same bundle, without a root document, and although the application still
declares to need the banner. -/
theorem plan_readable_shop :
    shopDraft.readable shopSource =
      { components :=
          [{ shopApp with dependencies := ["shop-banner"] }, shopCard]
        bundles := [["Shop-Banner", "shop-card"]] } ∧
    ∃ plan other, shopDraft.plan shopSource false = .ok plan ∧
      (shopDraft.readable shopSource).plan shopSource false = .ok other ∧
      other.entries = plan.entries := by
  have valid : shopDraft.HasValidTags := by
    have tags : Component.normalTags shopDraft.components =
        ["shop-app", "shop-banner", "shop-card"] := by decide +kernel
    rw [Project.HasValidTags, tags]
    decide
  obtain ⟨plan, planned⟩ := Project.exists_plan_iff.mpr
    ⟨(rfl : false = false), valid⟩
  obtain ⟨other, planned', same⟩ := plan_readable planned
  exact ⟨rfl, plan, other, planned, planned', same⟩

end CodeSplit
