/-
Module: CodeSplit.Proofs.Unrelated
Purpose: components that have no edges between them do not influence how the
  others are grouped.
Main exports:
  Group.tagged, mergeByTag, planGroups_unrelated
-/
import CodeSplit.Proofs.EmbeddedGroups
import CodeSplit.Proofs.Parts
import Mathlib

namespace CodeSplit

/-! ### Groups as tags -/

/-- A group as tags: that of each member, with those of the components that it
is there for. -/
def Group.tagged (graph : Graph) (group : Group) :
    List (String × List String) :=
  group.map fun member =>
    (graph.tag member.id, graph.tagsOf member.dependents)

/-- The smallest tag of a member. -/
def smallestTag (group : List (String × List String)) : String :=
  ((group.map Prod.fst).min?).getD ""

/-- Two lists of groups in one, by their smallest tags. -/
def mergeByTag (ones others : List (List (String × List String))) :
    List (List (String × List String)) :=
  ones.merge others fun one other => smallestTag one ≤ smallestTag other

variable {graph whole part : Graph}

theorem Graph.Alike.tagged {place : ComponentId → ComponentId}
    (alike : part.Alike whole place) (group : Group) :
    Group.tagged whole (Group.renumber place group) =
      Group.tagged part group := by
  rw [Group.tagged, Group.renumber, List.map_map]
  apply List.map_congr_left
  intro member _
  exact Prod.ext (alike.tag member.id) (alike.tagsOf member.dependents)

/-- The smallest tag is that of the smallest number. -/
theorem smallestTag_tagged (formed : graph.WellFormed) {group : Group}
    (known : ∀ id ∈ Group.ids group, id < graph.size) {id : ComponentId}
    (least : Group.smallest? group = some id) :
    smallestTag (Group.tagged graph group) = graph.tag id := by
  have tags : (Group.tagged graph group).map Prod.fst =
      (Group.ids group).map graph.tag := by
    rw [Group.tagged, List.map_map, Group.ids, List.map_map]
    rfl
  obtain ⟨among, below⟩ := List.min?_eq_some_iff.mp least
  have smallest : ((Group.ids group).map graph.tag).min? =
      some (graph.tag id) := by
    rw [List.min?_eq_some_iff]
    refine ⟨List.mem_map_of_mem among, fun tag found => ?_⟩
    obtain ⟨other, among', rfl⟩ := List.mem_map.mp found
    exact formed.tag_le (below other among') (known other among')
  rw [smallestTag, tags, smallest, Option.getD_some]

/-! ### Settled groups in order -/

namespace Graph

theorem lt_of_mem_settledGroups (formed : graph.WellFormed)
    {bundles : List (List String)} {group : Group}
    (among : group ∈ graph.settledGroups bundles) {id : ComponentId}
    (found : id ∈ Group.ids group) : id < graph.size := by
  have placed : id ∈ Group.idsOf (graph.settledGroups bundles) :=
    List.mem_flatMap.mpr ⟨group, among, found⟩
  rw [mem_idsOf_settledGroups formed] at placed
  exact placed.elim (·.lt formed) (·.lt formed)

/-- The groups of a graph stand in the strict order of their smallest tags. -/
theorem arrange_settledGroups_pairwise (formed : graph.WellFormed)
    (bundles : List (List String)) :
    ((arrange (graph.settledGroups bundles)).map
      (Group.tagged graph)).Pairwise fun one other =>
        smallestTag one < smallestTag other := by
  have known : ∀ group ∈ arrange (graph.settledGroups bundles),
      ∀ id ∈ Group.ids group, id < graph.size := by
    intro group among id found
    obtain ⟨old, settled, _, rfl⟩ := mem_arrange.mp among
    exact lt_of_mem_settledGroups formed settled (Group.mem_ids_sorted.mp found)
  obtain ⟨run⟩ := exists_tierRun formed bundles (Walks.faithful_nil graph)
  have distinct := run.distinct_groups formed
  rw [run.groups_eq_arrange formed (Walks.faithful_nil graph)] at distinct
  have none_empty : [] ∉ (graph.settledGroups bundles |>.filter
      (!·.isEmpty)).map Group.sorted := by
    intro empty
    obtain ⟨group, among, none⟩ := List.mem_map.mp empty
    rw [Group.sorted_eq_nil_iff.mp none] at among
    simp at among
  have ordered := sortGroups_smallest_lt none_empty
    ((ids_sortGroups_perm _).nodup distinct)
  rw [List.pairwise_map]
  refine ordered.imp_of_mem fun among among' given => ?_
  obtain ⟨first, second, least, least', below⟩ := given
  rw [smallestTag_tagged formed (known _ among) least,
    smallestTag_tagged formed (known _ among') least']
  exact formed.tag_lt below
    (known _ among' second (List.min?_mem least'))

namespace Embedding

variable {embedding : part.Embedding whole}

/-- The groups that a part has alone are, as tags, those of the whole that have
members in it. -/
theorem map_tagged_arrange (formed : whole.WellFormed)
    (formed' : part.WellFormed) {bundles : List (List String)}
    (one_sided : ∀ group ∈ whole.settledGroups bundles,
      embedding.OneSided group) :
    (arrange (part.settledGroups bundles)).map (Group.tagged part) =
      (arrange ((whole.settledGroups bundles).filter embedding.inside)).map
        (Group.tagged whole) := by
  rw [← renumber_pullGroups one_sided,
    pullGroups_settledGroups formed formed',
    arrange_renumber embedding.ascends, List.map_map]
  apply List.map_congr_left
  intro group _
  exact (embedding.alike.tagged group).symm

end Embedding

end Graph

/-- Where each group with members has exactly one of two properties, the groups
in order are those with the one and those with the other. -/
theorem arrange_perm_append {one other : Group → Bool} {groups : List Group}
    (either : ∀ group ∈ groups, group ≠ [] → other group = !one group) :
    (arrange groups).Perm
      (arrange (groups.filter one) ++ arrange (groups.filter other)) := by
  have others : (groups.filter (!·.isEmpty)).filter other =
      (groups.filter (!·.isEmpty)).filter (!one ·) := by
    refine List.filter_congr fun group among => ?_
    obtain ⟨found, some_member⟩ := List.mem_filter.mp among
    exact either group found (by simpa using some_member)
  have swap (keeps : Group → Bool) :
      (groups.filter keeps).filter (!·.isEmpty) =
        (groups.filter (!·.isEmpty)).filter keeps := by
    rw [List.filter_filter, List.filter_filter]
    simp only [Bool.and_comm]
  have split := (List.filter_append_perm one
    (groups.filter (!·.isEmpty))).symm.map Group.sorted
  rw [List.map_append, ← others, ← swap, ← swap] at split
  exact (arrange_perm groups).trans (split.trans
    ((arrange_perm _).symm.append (arrange_perm _).symm))

/-- Groups in the strict order of their smallest tags are the merge of two lists
that are in this order and make them up. -/
theorem eq_mergeByTag {groups ones others : List (List (String × List String))}
    (perm : groups.Perm (ones ++ others))
    (ordered : groups.Pairwise fun one other =>
      smallestTag one < smallestTag other)
    (ordered_ones : ones.Pairwise fun one other =>
      smallestTag one < smallestTag other)
    (ordered_others : others.Pairwise fun one other =>
      smallestTag one < smallestTag other) :
    groups = mergeByTag ones others := by
  have weaken {xs : List (List (String × List String))}
      (strict : xs.Pairwise fun one other =>
        smallestTag one < smallestTag other) :
      xs.Pairwise fun one other =>
        decide (smallestTag one ≤ smallestTag other) = true :=
    strict.imp fun below => decide_eq_true (le_of_lt below)
  have merged : (mergeByTag ones others).Pairwise fun one other =>
      decide (smallestTag one ≤ smallestTag other) = true := by
    apply List.pairwise_merge
    · intro one other last first second
      simp only [decide_eq_true_eq] at *
      exact le_trans first second
    · intro one other
      simpa using le_total _ _
    · exact weaken ordered_ones
    · exact weaken ordered_others
  have same_perm : groups.Perm (mergeByTag ones others) :=
    perm.trans (List.merge_perm_append _).symm
  have distinct : (groups.map smallestTag).Nodup :=
    (List.pairwise_map.mpr ordered).imp ne_of_lt
  refine same_perm.eq_of_pairwise ?_ (weaken ordered) merged
  intro one other among among' below above
  exact List.inj_on_of_nodup_map distinct among (same_perm.mem_iff.mpr among')
    (le_antisymm (of_decide_eq_true below) (of_decide_eq_true above))

/-- The settled groups of a graph without roots and bundles, where it has two
parts that share no component and leave none out, are those of the parts, merged
by their smallest tags. -/
theorem tagged_settledGroups_eq_mergeByTag {left right : Graph}
    {side : String → Bool} (is_left : left.PartOf whole side)
    (is_right : right.PartOf whole fun tag => !side tag)
    (rootless : whole.documentRoots = []) :
    (arrange (whole.settledGroups [])).map (Group.tagged whole) =
      mergeByTag
        ((arrange (left.settledGroups [])).map (Group.tagged left))
        ((arrange (right.settledGroups [])).map (Group.tagged right)) := by
  have formed := is_left.whole_formed
  have sided_left := Graph.Embedding.oneSided_settledGroups formed rootless
    is_left.embedding
  have sided_right := Graph.Embedding.oneSided_settledGroups formed rootless
    is_right.embedding
  refine eq_mergeByTag ?_ (Graph.arrange_settledGroups_pairwise formed [])
    (Graph.arrange_settledGroups_pairwise is_left.part_formed [])
    (Graph.arrange_settledGroups_pairwise is_right.part_formed [])
  rw [Graph.Embedding.map_tagged_arrange formed is_left.part_formed sided_left,
    Graph.Embedding.map_tagged_arrange formed is_right.part_formed sided_right,
    ← List.map_append]
  apply List.Perm.map
  apply arrange_perm_append
  -- Any member tells on which side a group is.
  intro group among some_member
  obtain ⟨member, found⟩ := List.exists_mem_of_ne_nil group some_member
  have own : member.id ∈ Group.ids group := List.mem_map_of_mem found
  have known := Graph.lt_of_mem_settledGroups formed among own
  rw [Graph.Embedding.inside_eq_of_mem (sided_left group among) own,
    Graph.Embedding.inside_eq_of_mem (sided_right group among) own]
  exact (is_right.isSome_back known).trans
    (congrArg (!·) (is_left.isSome_back known).symm)

/-- A graph without roots and bundles whose components fall into two sets with no
edge between them has the groups of the two parts, merged by their smallest
tags. -/
theorem planGroups_unrelated {components : List Component}
    {mentions : Mentions} {documentTags : List String}
    (built : (Graph.build components mentions documentTags).outcome =
      .ok whole)
    (rootless : whole.documentRoots = []) {side : String → Bool}
    (apart : ∀ id other, other ∈ whole.dependencies id →
      side (whole.tag other) = side (whole.tag id)) :
    ∃ left right,
      (Graph.build (components.filter fun component => side component.tag)
        mentions documentTags).outcome = .ok left ∧
      (Graph.build (components.filter fun component => !side component.tag)
        mentions documentTags).outcome = .ok right ∧
      ∀ {walks lefts rights : Walks}, walks.Faithful whole →
        lefts.Faithful left → rights.Faithful right →
          ∃ groups ones others last last_left last_right,
            (planGroups whole [] walks).outcome = .ok (groups, last) ∧
            (planGroups left [] lefts).outcome = .ok (ones, last_left) ∧
            (planGroups right [] rights).outcome = .ok (others, last_right) ∧
            groups.map (Group.tagged whole) =
              mergeByTag (ones.map (Group.tagged left))
                (others.map (Group.tagged right)) := by
  have kept {root id : ComponentId} (reaches : whole.Reaches root id) :
      side (whole.tag id) = side (whole.tag root) := by
    induction reaches with
    | refl => rfl
    | tail _ edge ih => exact (apart _ _ edge).trans ih
  obtain ⟨left, built_left, is_left⟩ :=
    Graph.exists_partOf_of_build side built
      (fun edge here => (apart _ _ edge).trans here)
      (fun _ here reaches => (kept reaches).trans here)
  obtain ⟨right, built_right, is_right⟩ :=
    Graph.exists_partOf_of_build (fun tag => !side tag) built
      (fun edge here => (congrArg (!·) (apart _ _ edge)).trans here)
      (fun _ here reaches => (congrArg (!·) (kept reaches)).trans here)
  refine ⟨left, right, built_left, built_right, ?_⟩
  intro walks lefts rights faithful faithful_left faithful_right
  obtain ⟨last, went⟩ :=
    outcome_planGroups_settled is_left.whole_formed [] faithful
  obtain ⟨last_left, went_left⟩ :=
    outcome_planGroups_settled is_left.part_formed [] faithful_left
  obtain ⟨last_right, went_right⟩ :=
    outcome_planGroups_settled is_right.part_formed [] faithful_right
  exact ⟨_, _, _, last, last_left, last_right, went, went_left, went_right,
    tagged_settledGroups_eq_mergeByTag is_left is_right rootless⟩

/-- Components of a shop and of the blog beside it, in the order of their tags:
the cart shows an item, and both need the price; the blog and its drafts need the
post. -/
def streetComponents : List Component :=
  [{ tag := "blog-app", source := ⟨"blog.js"⟩, dependencies := ["post-card"] },
   { tag := "cart-app", source := ⟨"cart.js"⟩,
     dependencies := ["item-card", "price-tag"] },
   { tag := "draft-app", source := ⟨"draft.js"⟩,
     dependencies := ["post-card"] },
   { tag := "item-card", source := ⟨"item.js"⟩,
     dependencies := ["price-tag"], isExternal := true },
   { tag := "post-card", source := ⟨"post.js"⟩, isExternal := true },
   { tag := "price-tag", source := ⟨"price.js"⟩, isExternal := true }]

/-- The graph of the street. -/
def streetGraph : Graph :=
  Graph.link streetComponents [] []

/-- Whether a tag of the street belongs to the shop. -/
def ofShop (tag : String) : Bool :=
  tag ∈ ["cart-app", "item-card", "price-tag"]

/-- The shop and the blog are grouped as if each were alone, although their
components alternate in the order of tags. -/
theorem planGroups_unrelated_street :
    (Graph.build streetComponents [] []).outcome = .ok streetGraph ∧
    streetGraph.documentRoots = [] ∧
    (∀ id other, other ∈ streetGraph.dependencies id →
      ofShop (streetGraph.tag other) = ofShop (streetGraph.tag id)) ∧
    Walks.Faithful {} streetGraph ∧
    ∃ shop blog groups ones others,
      (Graph.build (streetComponents.filter fun component =>
        ofShop component.tag) [] []).outcome = .ok shop ∧
      (Graph.build (streetComponents.filter fun component =>
        !ofShop component.tag) [] []).outcome = .ok blog ∧
      (planGroups streetGraph [] {}).outcome.map (·.1) = .ok groups ∧
      (planGroups shop [] {}).outcome.map (·.1) = .ok ones ∧
      (planGroups blog [] {}).outcome.map (·.1) = .ok others ∧
      groups.map (Group.tagged streetGraph) =
        [[("blog-app", [])], [("cart-app", []), ("item-card", ["cart-app"])],
          [("draft-app", [])], [("post-card", ["blog-app", "draft-app"])],
          [("price-tag", ["cart-app", "item-card"])]] ∧
      groups.map (Group.tagged streetGraph) =
        mergeByTag (ones.map (Group.tagged shop))
          (others.map (Group.tagged blog)) := by
  have built : (Graph.build streetComponents [] []).outcome =
      .ok streetGraph := by
    have ordered : Graph.orderByTag streetComponents = streetComponents :=
      List.mergeSort_of_pairwise (by decide)
    rw [Graph.outcome_build [] [] (by decide), ordered]
    rfl
  have faithful := Walks.faithful_nil streetGraph
  have apart : ∀ id other, other ∈ streetGraph.dependencies id →
      ofShop (streetGraph.tag other) = ofShop (streetGraph.tag id) := by
    have inside : ∀ id < 6, ∀ other ∈ streetGraph.dependencies id,
        ofShop (streetGraph.tag other) = ofShop (streetGraph.tag id) := by
      decide
    intro id other needed
    by_cases known : id < 6
    · exact inside id known other needed
    · rw [Graph.dependencies_of_size_le (not_lt.mp known)] at needed
      cases needed
  have computed : (planGroups streetGraph [] {}).outcome.map (·.1) =
      .ok [[{ id := 0 }], [{ id := 1 }, { id := 3, dependents := [1] }],
        [{ id := 2 }], [{ id := 4, dependents := [0, 2] }],
        [{ id := 5, dependents := [1, 3] }]] := by
    cbv
  obtain ⟨shop, blog, built_shop, built_blog, merged⟩ :=
    planGroups_unrelated built rfl apart
  obtain ⟨groups, ones, others, _, _, _, went, went_shop, went_blog, same⟩ :=
    merged faithful (Walks.faithful_nil shop) (Walks.faithful_nil blog)
  refine ⟨built, rfl, apart, faithful, shop, blog, groups, ones, others,
    built_shop, built_blog, by rw [went]; rfl, by rw [went_shop]; rfl,
    by rw [went_blog]; rfl, ?_, same⟩
  rw [went] at computed
  obtain rfl := Except.ok.inj computed
  decide

end CodeSplit
