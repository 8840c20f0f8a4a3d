/-
Module: CodeSplit.Proofs.UnusedComponents
Purpose: a component from outside the application that nothing asks for changes
  no entry module.
Main exports:
  Graph.Idle, TierRun.placed_of_mem_shared, Project.Unused, plan_unused
-/
import CodeSplit.Proofs.UnreadableSources

namespace CodeSplit

/-!
A component that nothing asks for may still need others, and it has a number, so
that the numbers behind it are other ones.  But no tier ever looks at what it
needs: a walk would have to enter it first, and nothing leads there.  The graph
without it is therefore a part of the graph with it, and every group lies in
that part.
-/

/-! ### Components that nothing leads to -/

namespace Graph

variable {graph : Graph} {bundles : List (List String)} {id : ComponentId}

/-- What no component needs can be reached from itself only. -/
theorem Reaches.eq_of_unneeded {root : ComponentId}
    (unneeded : ∀ other, id ∉ graph.dependencies other)
    (reaches : graph.Reaches root id) : root = id := by
  cases reaches with
  | refl => rfl
  | @tail middle _ _ edge => exact absurd edge (unneeded middle)

/-- Nothing asks for the component: it comes from outside, no bundle names it,
the root document does not mention it, and no component needs it. -/
structure Idle (graph : Graph) (bundles : List (List String))
    (id : ComponentId) : Prop where
  external : graph.isExternal id = true
  unbundled : ¬ graph.Bundled bundles id
  not_root : id ∉ graph.documentRoots
  unneeded : ∀ other, id ∉ graph.dependencies other

theorem Idle.not_claimed (idle : graph.Idle bundles id) :
    ¬ graph.Claimed bundles id := by
  intro given
  rcases given with bundled | ⟨root, among, reaches⟩
  · exact idle.unbundled bundled
  · obtain rfl := reaches.eq_of_unneeded idle.unneeded
    exact idle.not_root among

theorem Idle.not_inResidue (idle : graph.Idle bundles id) :
    ¬ graph.InResidue bundles id := by
  intro given
  obtain ⟨_, root, unclaimed, reaches⟩ := given
  obtain rfl := reaches.eq_of_unneeded idle.unneeded
  have external := idle.external
  rw [unclaimed.2.1] at external
  cases external

end Graph

/-! ### What the tiers place -/

namespace TierRun

variable {graph : Graph} {bundles : List (List String)} {walks : Walks}

/-- A member of a group is claimed or left to the last tier, and if it is there
for the sake of others, these are left to the last tier. -/
theorem placed_of_mem_shared (formed : graph.WellFormed)
    (run : TierRun graph bundles walks) {group : Group}
    (among : group ∈ run.shared.groups) {member : Member}
    (found : member ∈ group) :
    (graph.Claimed bundles member.id ∨ graph.InResidue bundles member.id) ∧
      ∀ other ∈ member.dependents, graph.InResidue bundles other := by
  constructor
  · exact (run.mem_ids_shared formed).mp (Placement.mem_ids.mpr
      ⟨group, among, List.mem_map_of_mem found⟩)
  · rcases run.steps.ofResidue (run.residue_wellFormed formed) among found with
      ⟨old, early, old_found⟩ | left
    · -- The first two tiers place nothing for the sake of another.
      have alone : member.dependents = [] := by
        rcases run.holds_of_mem_documented early with ⟨index, holds⟩ | holds
        · exact ((holds member).mp old_found).1
        · exact ((holds member).mp old_found).1
      simp [alone]
    · exact fun other needs => run.mem_ids_residue.mp (left.2 other needs)

end TierRun

namespace Graph.Embedding

variable {part whole : Graph} {embedding : part.Embedding whole}

/-- Where all that is outside a part is idle, every group lies in the part. -/
theorem exists_renumber_of_idle (formed : whole.WellFormed)
    {bundles : List (List String)}
    (idle : ∀ id < whole.size, embedding.back id = none →
      whole.Idle bundles id) :
    ∀ group ∈ whole.settledGroups bundles,
      ∃ own, group = Group.renumber embedding.place own := by
  have inside {id : ComponentId}
      (placed : whole.Claimed bundles id ∨ whole.InResidue bundles id) :
      ∃ own, embedding.place own = id := by
    rcases embedding.outside_or_place id with outside | within
    · have known := placed.elim (·.lt formed) (·.lt formed)
      have idles := idle id known outside
      exact absurd placed (not_or.mpr ⟨idles.not_claimed, idles.not_inResidue⟩)
    · exact within
  intro group among
  obtain ⟨run⟩ := exists_tierRun formed bundles (Walks.faithful_nil whole)
  rw [← (run.groups_settled formed (Walks.faithful_nil whole)).2] at among
  apply exists_renumber
  intro member found
  obtain ⟨placed, dependents⟩ := run.placed_of_mem_shared formed among found
  exact ⟨inside placed,
    fun other needs => inside (Or.inr (dependents other needs))⟩

end Graph.Embedding

/-! ### One component more in a project -/

/-- Nothing in a project asks for a further component: it comes from outside,
its tag is a new one, no bundle names the tag, no component declares it or
mentions it in what can be read of it, and the root document does not mention
it. -/
structure Project.Unused (project : Project) (source : Source)
    (extra : Component) : Prop where
  external : extra.isExternal = true
  some_tag : normalizeTag extra.tag ≠ ""
  new : normalizeTag extra.tag ∉ Component.normalTags project.components
  unbundled : ¬ project.Bundled (normalizeTag extra.tag)
  undeclared : ∀ component ∈ project.components,
    normalizeTag extra.tag ∉ component.dependencies.map normalizeTag
  unmentioned : ∀ component ∈ project.components, ∀ text,
    source component.source = .ok text →
      Markup.mentions text (normalizeTag extra.tag) = false
  undocumented : ∀ path text, project.document? = some path →
    source path = .ok text →
      Markup.mentions text (normalizeTag extra.tag) = false

namespace Project

/-- The project with a further component, which is declared between others. -/
def insert (project : Project) (before : List Component)
    (extra : Component) (after : List Component) : Project :=
  { project with components := before ++ extra :: after }

variable {project : Project} {source : Source} {extra : Component}
variable {before after : List Component}

theorem mem_components_insert (split : project.components = before ++ after)
    {component : Component} :
    component ∈ (project.insert before extra after).components ↔
      component = extra ∨ component ∈ project.components := by
  rw [split, insert, List.mem_append, List.mem_append, List.mem_cons]
  tauto

/-- A component with another tag was in the project before. -/
theorem mem_components_of_tag_ne (split : project.components = before ++ after)
    {component : Component}
    (among : component ∈ (project.insert before extra after).components)
    (apart : normalizeTag component.tag ≠ normalizeTag extra.tag) :
    component ∈ project.components := by
  rcases (mem_components_insert split).mp among with rfl | old
  · exact absurd rfl apart
  · exact old

namespace Unused

theorem hasValidTags_insert (unused : project.Unused source extra)
    (split : project.components = before ++ after)
    (valid : project.HasValidTags) :
    (project.insert before extra after).HasValidTags := by
  have perm : (Component.normalTags
      (project.insert before extra after).components).Perm
      (normalizeTag extra.tag ::
        Component.normalTags project.components) := by
    rw [split]
    exact List.perm_middle.map _
  constructor
  · rw [perm.mem_iff, List.mem_cons, not_or]
    exact ⟨unused.some_tag.symm, valid.1⟩
  · exact perm.symm.nodup (List.nodup_cons.mpr ⟨unused.new, valid.2⟩)

/-- Another component of the project has another tag. -/
theorem tag_ne (unused : project.Unused source extra) {component : Component}
    (among : component ∈ project.components) :
    normalizeTag component.tag ≠ normalizeTag extra.tag := by
  intro same
  exact unused.new (same ▸ List.mem_map_of_mem among)

theorem knows_insert (unused : project.Unused source extra)
    (split : project.components = before ++ after) {tag : String} :
    project.Knows source tag ↔
      (project.insert before extra after).Knows source tag ∧
        tag ≠ normalizeTag extra.tag := by
  constructor
  · intro given
    obtain ⟨component, among, readable, rfl⟩ := given
    exact ⟨⟨component, (mem_components_insert split).mpr (Or.inr among),
      readable, rfl⟩, unused.tag_ne among⟩
  · intro given
    obtain ⟨⟨component, among, readable, rfl⟩, apart⟩ := given
    exact ⟨component, mem_components_of_tag_ne split among apart, readable,
      rfl⟩

/-- Another component needs what it needed before, and not the new one. -/
theorem needs_insert (unused : project.Unused source extra)
    (split : project.components = before ++ after) {tag needed : String}
    (apart : tag ≠ normalizeTag extra.tag) :
    (project.insert before extra after).Needs source tag needed ↔
      project.Needs source tag needed := by
  constructor
  · intro given
    obtain ⟨knows, other, component, among, rfl, text, read, asks⟩ := given
    have old := mem_components_of_tag_ne split among apart
    have older : needed ≠ normalizeTag extra.tag := by
      rintro rfl
      rcases asks with mentioned | declared
      · rw [unused.unmentioned component old text read] at mentioned
        cases mentioned
      · exact unused.undeclared component old declared
    exact ⟨(unused.knows_insert split).mpr ⟨knows, older⟩, other, component,
      old, rfl, text, read, asks⟩
  · intro given
    obtain ⟨knows, other, component, old, asks⟩ := given
    exact ⟨((unused.knows_insert split).mp knows).1, other, component,
      (mem_components_insert split).mpr (Or.inr old), asks⟩

theorem mentioned_insert (unused : project.Unused source extra)
    (split : project.components = before ++ after) {tag : String}
    (apart : tag ≠ normalizeTag extra.tag) :
    (project.insert before extra after).Mentioned source tag ↔
      project.Mentioned source tag := by
  rw [Mentioned, Mentioned, unused.knows_insert split, and_iff_left apart]
  rfl

/-- The number of the new component is idle. -/
theorem idle (unused : project.Unused source extra)
    (split : project.components = before ++ after) {whole : Graph}
    (represents : whole.Represents (project.insert before extra after) source)
    {id : ComponentId} (known : id < whole.size)
    (same : whole.tag id = normalizeTag extra.tag) :
    whole.Idle project.bundles id where
  external := by
    obtain ⟨component, among, _, own, outside⟩ :=
      represents.exists_component id known
    rcases (mem_components_insert split).mp among with rfl | old
    · rw [outside, unused.external]
    · exact absurd (own.symm.trans same) (unused.tag_ne old)
  unbundled := by
    intro bundled
    rw [represents.formed.bundled_iff known, same] at bundled
    exact unused.unbundled bundled
  not_root := by
    intro among
    obtain ⟨_, _, path, text, document, read, mentioned⟩ :=
      (represents.roots id).mp among
    rw [same, unused.undocumented path text document read] at mentioned
    cases mentioned
  unneeded := by
    intro other edge
    have other_known : other < whole.size := by
      by_contra beyond
      rw [Graph.dependencies_of_size_le (not_lt.mp beyond)] at edge
      cases edge
    obtain ⟨_, needs⟩ := (represents.edges other other_known id).mp edge
    have apart := needs.2.1.symm
    rw [same] at apart needs
    have knows := ((unused.needs_insert split apart).mp needs).1
    exact ((unused.knows_insert split).mp knows).2 rfl

/-- The graph without the new component is a part of the graph with it. -/
theorem partOf_insert (unused : project.Unused source extra)
    (split : project.components = before ++ after)
    (valid : project.HasValidTags) :
    (project.graph source).PartOf
      ((project.insert before extra after).graph source)
      fun tag => tag ≠ normalizeTag extra.tag := by
  have valid' := unused.hasValidTags_insert split valid
  have represents := valid'.represents source
  refine represents.partOf (valid.represents source)
    (fun tag => ?_) (fun apart => unused.needs_insert split ?_)
    (fun apart => unused.mentioned_insert split ?_) ?_ ?_
  · rw [unused.knows_insert split, decide_eq_true_iff]
  · exact of_decide_eq_true apart
  · exact of_decide_eq_true apart
  · intro id own known known' same
    obtain ⟨one, among, tag_one, declared⟩ := valid'.exists_undeclared known
    obtain ⟨other, among', tag_other, declared'⟩ :=
      valid.exists_undeclared known'
    rw [tag_one, tag_other] at same
    rw [declared, declared', valid'.eq_of_tag_eq among
      ((mem_components_insert split).mpr (Or.inr among')) same]
  · -- No walk starts from the new component.
    intro root id start unchosen _
    have idle := unused.idle split represents start.1
      (not_not.mp (of_decide_eq_false unchosen))
    rcases start.2 with among | own
    · exact absurd among idle.not_root
    · rw [idle.external] at own
      cases own

end Unused

end Project

/-- A plan has the same entry modules when a component that nothing asks for is
declared as well, wherever that is and whatever it needs. -/
theorem plan_unused {project : Project} {source : Source} {aborted : Bool}
    {plan : Plan} (planned : project.plan source aborted = .ok plan)
    {before after : List Component}
    (split : project.components = before ++ after) {extra : Component}
    (unused : project.Unused source extra) :
    ∃ other, (project.insert before extra after).plan source aborted =
        .ok other ∧ other.entries = plan.entries := by
  obtain ⟨going, valid⟩ := Project.valid_of_plan planned
  have valid' := unused.hasValidTags_insert split valid
  obtain ⟨other, planned'⟩ := Project.exists_plan_iff.mpr ⟨going, valid'⟩
  have is_part := unused.partOf_insert split valid
  refine ⟨other, planned', ?_⟩
  rw [Project.entries_of_plan_settled planned,
    Project.entries_of_plan_settled planned']
  apply Graph.Embedding.entries_eq is_part.embedding is_part.whole_formed
    is_part.part_formed
  apply Graph.Embedding.exists_renumber_of_idle is_part.whole_formed
  intro id known outside
  apply unused.idle split (valid'.represents source) known
  have unchosen := is_part.isSome_back known
  rw [show is_part.back id = none from outside, Option.isSome_none] at unchosen
  exact not_not.mp (of_decide_eq_false unchosen.symm)

/-- Sources of a shop with a badge that shows both the application and the card,
and with a root document. -/
def badgeSource : Source :=
  .ofReads
    [(⟨"app.js"⟩, .ok "h('shop-card')"),
     (⟨"badge.js"⟩, .ok "h('shop-app') h('shop-card')"),
     (⟨"card.js"⟩, .ok ""),
     (⟨"index.html"⟩, .ok "<shop-app></shop-app>")]

/-- The shop without the badge, whose card has a bundle. -/
def badgeShop : Project where
  components := [shopApp, shopCard]
  bundles := [["shop-card"]]
  document? := some ⟨"index.html"⟩

/-- The badge, which comes from outside and which nothing asks for.  Its tag
stands between those of the application and the card. -/
def shopBadge : Component where
  tag := " Shop-Badge"
  source := ⟨"badge.js"⟩
  dependencies := ["shop-app"]
  styleModes := ["ios"]
  isExternal := true

/-- The shop has the same entry modules with the badge, although that needs all
that they hold. -/
theorem plan_unused_shop :
    badgeShop.Unused badgeSource shopBadge ∧
    (∀ component ∈ badgeShop.components,
      (badgeShop.insert [shopApp] shopBadge [shopCard]).Needs badgeSource
        "shop-badge" (normalizeTag component.tag)) ∧
    ∃ plan other, badgeShop.plan badgeSource false = .ok plan ∧
      (badgeShop.insert [shopApp] shopBadge [shopCard]).plan badgeSource
        false = .ok other ∧
      other.entries = plan.entries := by
  have tag : normalizeTag shopBadge.tag = "shop-badge" := by decide +kernel
  have tags : Component.normalTags badgeShop.components =
      ["shop-app", "shop-card"] := by decide +kernel
  have valid : badgeShop.HasValidTags := by
    rw [Project.HasValidTags, tags]
    decide
  have unused : badgeShop.Unused badgeSource shopBadge := by
    constructor
    · rfl
    · decide +kernel
    · rw [tag, tags]
      decide
    · rintro ⟨bundle, among, entry, named, same⟩
      obtain rfl : bundle = ["shop-card"] := by simpa [badgeShop] using among
      obtain rfl : entry = "shop-card" := by simpa using named
      revert same
      decide +kernel
    · simp [badgeShop, shopApp, shopCard]
    · rw [tag]
      intro component among text read
      obtain rfl | rfl : component = shopApp ∨ component = shopCard := by
        simpa [badgeShop] using among
      · obtain rfl := Except.ok.inj read
        decide +kernel
      · obtain rfl := Except.ok.inj read
        decide +kernel
    · rw [tag]
      intro path text document read
      obtain rfl := Option.some.inj document
      obtain rfl := Except.ok.inj read
      decide +kernel
  have split : badgeShop.components = [shopApp] ++ [shopCard] := rfl
  obtain ⟨plan, planned⟩ := Project.exists_plan_iff.mpr
    ⟨(rfl : false = false), valid⟩
  obtain ⟨other, planned', same⟩ := plan_unused planned split unused
  refine ⟨unused, fun component among => ?_, plan, other, planned, planned',
    same⟩
  have readable : component.Readable badgeSource := by
    obtain rfl | rfl : component = shopApp ∨ component = shopCard := by
      simpa [badgeShop] using among
    · exact ⟨_, rfl⟩
    · exact ⟨_, rfl⟩
  have shown : ∀ needed ∈ Component.normalTags badgeShop.components,
      needed ≠ "shop-badge" ∧
        Markup.mentions "h('shop-app') h('shop-card')" needed = true := by
    rw [tags]
    decide +kernel
  have needed := shown _ (List.mem_map_of_mem among)
  refine ⟨⟨component, ?_, readable, rfl⟩, needed.1, shopBadge, ?_, tag, _, rfl,
    Or.inl needed.2⟩
  · exact (Project.mem_components_insert split).mpr (Or.inr among)
  · exact (Project.mem_components_insert split).mpr (Or.inl rfl)

end CodeSplit
