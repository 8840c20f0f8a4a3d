/-
Module: CodeSplit.Proofs.EmbeddedGroups
Purpose: a part of a graph that no walk enters from outside is grouped as if it
  were alone.
Main exports:
  Graph.Embedding.pullGroups, Graph.Embedding.pullGroups_settledGroups,
  Graph.Embedding.OneSided, Graph.Embedding.oneSided_settledGroups
-/
import CodeSplit.Proofs.Embedding

namespace CodeSplit

namespace Graph

namespace Embedding

variable {part whole : Graph}

/-! ### Groups -/

variable (embedding : part.Embedding whole)

/-- A member in the part, if it is one. -/
def pullMember? (member : Member) : Option Member :=
  (embedding.back member.id).map fun id =>
    { id := id, dependents := embedding.pull member.dependents }

/-- The members of a group that are in the part. -/
def pullGroup (group : Group) : Group :=
  group.filterMap embedding.pullMember?

/-- The groups that have members in the part, with those. -/
def pullGroups (groups : List Group) : List Group :=
  (groups.map embedding.pullGroup).filter (!·.isEmpty)

@[simp] theorem pullGroup_append (one other : Group) :
    embedding.pullGroup (one ++ other) =
      embedding.pullGroup one ++ embedding.pullGroup other :=
  List.filterMap_append

@[simp] theorem pullGroup_renumber (group : Group) :
    embedding.pullGroup (Group.renumber embedding.place group) = group := by
  simp [pullGroup, Group.renumber, List.filterMap_map, pullMember?,
    Function.comp_def, Member.renumber]

@[simp] theorem ids_pullGroup (group : Group) :
    Group.ids (embedding.pullGroup group) =
      embedding.pull (Group.ids group) := by
  rw [Group.ids, pullGroup, List.map_filterMap, Group.ids, pull,
    List.filterMap_map]
  congr 1
  funext member
  simp [pullMember?, Function.comp_def]

theorem pullGroups_append (one other : List Group) :
    embedding.pullGroups (one ++ other) =
      embedding.pullGroups one ++ embedding.pullGroups other := by
  simp [pullGroups]

theorem pullGroups_cons_outside {group : Group}
    (outside : embedding.pullGroup group = []) (rest : List Group) :
    embedding.pullGroups (group :: rest) = embedding.pullGroups rest := by
  simp [pullGroups, outside]

theorem pullGroups_cons_inside {group : Group}
    (inside : embedding.pullGroup group ≠ []) (rest : List Group) :
    embedding.pullGroups (group :: rest) =
      embedding.pullGroup group :: embedding.pullGroups rest := by
  simp [pullGroups, inside]

@[simp] theorem idsOf_pullGroups (groups : List Group) :
    Group.idsOf (embedding.pullGroups groups) =
      embedding.pull (Group.idsOf groups) := by
  induction groups with
  | nil => rfl
  | cons group rest ih =>
      have split : embedding.pull (Group.idsOf (group :: rest)) =
          Group.ids (embedding.pullGroup group) ++
            Group.idsOf (embedding.pullGroups rest) := by
        rw [ids_pullGroup, ih, ← pull_append]
        rfl
      rw [split]
      by_cases outside : embedding.pullGroup group = []
      · rw [embedding.pullGroups_cons_outside outside, outside]
        rfl
      · rw [embedding.pullGroups_cons_inside outside]
        rfl

theorem mem_idsOf_pullGroups {groups : List Group} {id : ComponentId} :
    id ∈ Group.idsOf (embedding.pullGroups groups) ↔
      embedding.place id ∈ Group.idsOf groups := by
  rw [idsOf_pullGroups, mem_pull]

theorem pullGroup_ofIds (ids : List ComponentId) :
    embedding.pullGroup (Group.ofIds ids) =
      Group.ofIds (embedding.pull ids) := by
  rw [pullGroup, Group.ofIds, Group.ofIds, pull, List.map_filterMap,
    List.filterMap_map]
  rfl

theorem pullGroups_started (ids : List ComponentId) :
    embedding.pullGroups (Group.started ids) =
      Group.started (embedding.pull ids) := by
  rw [Group.started]
  split
  · rename_i none
    rw [none]
    rfl
  · rw [pullGroups, List.map_singleton, pullGroup_ofIds, Group.started]
    split
    · rename_i none
      rw [none]
      rfl
    · rename_i some_id
      simpa [Group.ofIds] using some_id

/-- What is started beside groups for components without one. -/
theorem pullGroups_append_started {groups : List Group}
    {ids : List ComponentId} :
    embedding.pullGroups (groups ++ Group.started ids) =
      embedding.pullGroups groups ++ Group.started (embedding.pull ids) := by
  rw [pullGroups_append, pullGroups_started]

/-- A component of the part is free beside groups of the whole exactly when it is
free beside what they are in the part. -/
theorem free_place (groups : List Group) (id : ComponentId) :
    decide (embedding.place id ∉ Group.idsOf groups) =
      decide (id ∉ Group.idsOf (embedding.pullGroups groups)) := by
  simp

theorem pull_filter_free (groups : List Group) (ids : List ComponentId) :
    embedding.pull (ids.filter (· ∉ Group.idsOf groups)) =
      (embedding.pull ids).filter
        (· ∉ Group.idsOf (embedding.pullGroups groups)) :=
  embedding.pull_filter (embedding.free_place groups) ids

/-! ### Bundles and the root document -/

variable {embedding}

theorem bind_idOf?_back (formed : whole.WellFormed)
    (formed' : part.WellFormed) (tag : String) :
    (whole.idOf? tag).bind embedding.back = part.idOf? tag := by
  apply Option.ext
  intro id
  rw [Option.bind_eq_some_iff, formed'.idOf?_eq_some_iff]
  constructor
  · intro given
    obtain ⟨other, found, at_other⟩ := given
    obtain rfl := embedding.back_eq_some_iff.mp at_other
    obtain ⟨known, same⟩ := formed.idOf?_eq_some_iff.mp found
    exact ⟨embedding.alike.lt_size_iff.mp known,
      (embedding.alike.tag id).symm.trans same⟩
  · intro given
    obtain ⟨known, same⟩ := given
    refine ⟨embedding.place id, formed.idOf?_eq_some_iff.mpr ⟨?_, ?_⟩,
      embedding.back_place id⟩
    · exact embedding.alike.lt_size_iff.mpr known
    · exact (embedding.alike.tag id).trans same

theorem pullGroups_settleBundle (formed : whole.WellFormed)
    (formed' : part.WellFormed) (groups : List Group)
    (bundle : List String) :
    embedding.pullGroups (whole.settleBundle groups bundle) =
      part.settleBundle (embedding.pullGroups groups) bundle := by
  have named : embedding.pull
      (bundle.filterMap fun entry => whole.idOf? (normalizeTag entry)) =
      bundle.filterMap fun entry => part.idOf? (normalizeTag entry) := by
    rw [pull, List.filterMap_filterMap]
    simp only [bind_idOf?_back formed formed']
  rw [settleBundle, settleBundle, pullGroups_append_started, pull_union,
    pull_filter_free, named, pull_nil]

theorem pullGroups_settleBundles (formed : whole.WellFormed)
    (formed' : part.WellFormed) (bundles : List (List String)) :
    embedding.pullGroups (whole.settleBundles bundles) =
      part.settleBundles bundles := by
  rw [settleBundles, settleBundles, ← List.foldl_hom embedding.pullGroups]
  · rfl
  · exact fun groups bundle =>
      (pullGroups_settleBundle formed formed' groups bundle.1).symm

theorem pullGroups_settleDocument (formed : whole.WellFormed)
    (formed' : part.WellFormed) (groups : List Group) :
    embedding.pullGroups (whole.settleDocument groups) =
      part.settleDocument (embedding.pullGroups groups) := by
  have starts : ∀ id ∈ whole.documentRoots, whole.Starts id :=
    fun id among => ⟨formed.roots_lt among, Or.inl among⟩
  rw [settleDocument, settleDocument, pullGroups_append_started,
    pull_ascending, pull_filter_free, pull_reachedFrom formed formed' starts,
    pull, embedding.roots]

/-! ### The last tier -/

theorem pull_rootsBeside (groups : List Group) :
    embedding.pull (whole.rootsBeside groups) =
      part.rootsBeside (embedding.pullGroups groups) := by
  rw [rootsBeside, rootsBeside, embedding.pull_filter, pull_ids]
  intro id
  rw [embedding.alike.isExternal, embedding.free_place]

theorem starts_of_mem_rootsBeside {graph : Graph} {groups : List Group} :
    ∀ id ∈ graph.rootsBeside groups, graph.Starts id := by
  intro id among
  obtain ⟨known, chosen⟩ := List.mem_filter.mp among
  rw [Bool.and_eq_true, Bool.not_eq_true'] at chosen
  exact ⟨mem_ids.mp known, Or.inr chosen.1⟩

theorem pull_leftBeside (formed : whole.WellFormed)
    (formed' : part.WellFormed) (groups : List Group) :
    embedding.pull (whole.leftBeside groups) =
      part.leftBeside (embedding.pullGroups groups) := by
  rw [leftBeside, leftBeside, pull_filter_free,
    pull_reachedFrom formed formed' starts_of_mem_rootsBeside,
    pull_rootsBeside]

/-- None of the components that is outside needs one of the part. -/
def Unneeding (embedding : part.Embedding whole)
    (members : List ComponentId) : Prop :=
  ∀ id ∈ members, embedding.back id = none →
    ∀ own, embedding.place own ∉ whole.dependencies id

/-- What is left comes from starts, so nothing of it that is outside needs a
component of the part. -/
theorem unneeding_leftBeside (formed : whole.WellFormed)
    (groups : List Group) :
    embedding.Unneeding (whole.leftBeside groups) := by
  intro id left outside own needed
  obtain ⟨root, among, reaches⟩ :=
    ((Walks.reachedFrom_spec formed fun id among =>
      (starts_of_mem_rootsBeside id among).1).2 id).mp
      (List.mem_filter.mp left).1
  have start := starts_of_mem_rootsBeside root among
  -- A walk from outside stays there, and one from the part stays in the part.
  rcases embedding.outside_or_place root with root_outside | ⟨root, rfl⟩
  · exact embedding.apart start root_outside (reaches.tail needed)
  · obtain ⟨inside, rfl⟩ := embedding.exists_place_of_reaches reaches
    simp at outside

/-- The member of a residue of `members` that a component is. -/
def nodeOf (graph : Graph) (members : List ComponentId) (id : ComponentId) :
    ResidueNode where
  id := id
  dependencies := (graph.dependencies id).filter (· ∈ members)

section

variable {members : List ComponentId}

theorem nodeOf_place (own : ComponentId) :
    nodeOf whole members (embedding.place own) =
      (nodeOf part (embedding.pull members) own).renumber
        embedding.place := by
  simp [nodeOf, ResidueNode.renumber, embedding.dependencies_place,
    List.filter_map, Function.comp_def]

theorem mem_dependencies_nodeOf_place {inside own : ComponentId} :
    embedding.place own ∈
        (nodeOf whole members (embedding.place inside)).dependencies ↔
      own ∈ (nodeOf part (embedding.pull members) inside).dependencies := by
  rw [nodeOf_place]
  exact embedding.place_mem_map

/-- Among components of which none outside needs the part, those that need a
component of the part are those in the part. -/
theorem dependentsOf_map_nodeOf {some : List ComponentId}
    (unneeding : embedding.Unneeding some) (own : ComponentId) :
    Residue.dependentsOf (some.map (nodeOf whole members))
        (embedding.place own) =
      (Residue.dependentsOf
        ((embedding.pull some).map (nodeOf part (embedding.pull members)))
        own).map (ResidueNode.renumber embedding.place) := by
  unfold Residue.dependentsOf
  induction some with
  | nil => rfl
  | cons id rest ih =>
      obtain ⟨here, others⟩ := List.forall_mem_cons.mp unneeding
      rcases embedding.outside_or_place id with outside | ⟨inside, rfl⟩
      · have unneeded : embedding.place own ∉
            (nodeOf whole members id).dependencies := by
          intro needed
          exact here outside own (List.mem_filter.mp needed).1
        rw [List.map_cons, List.filter_cons_of_neg (by simpa using unneeded),
          embedding.pull_cons_outside outside]
        exact ih others
      · rw [List.map_cons, pull_cons_place, List.map_cons, List.filter_cons,
          List.filter_cons, ih others]
        simp only [decide_eq_true_eq, mem_dependencies_nodeOf_place]
        split
        · rw [List.map_cons, nodeOf_place]
        · rfl

/-- The company of a component of the part is its company in the part. -/
theorem company_place (unneeding : embedding.Unneeding members)
    (own : ComponentId) :
    (Residue.ofMembers whole members).company (embedding.place own) =
      Group.renumber embedding.place
        ((Residue.ofMembers part (embedding.pull members)).company own) :=
  Residue.company_renumber embedding.ascends.injective
    (dependentsOf_map_nodeOf unneeding own)

theorem pullGroup_eq_nil_iff {group : Group} :
    embedding.pullGroup group = [] ↔
      ∀ id ∈ Group.ids group, embedding.back id = none := by
  rw [← List.map_eq_nil_iff, ← Group.ids, ids_pullGroup, pull,
    List.filterMap_eq_nil_iff]

/-- What needs a component outside is outside, and so is all that it needs. -/
theorem outside_of_mem_dependentsOf (unneeding : embedding.Unneeding members)
    {id : ComponentId} (outside : embedding.back id = none)
    {node : ResidueNode}
    (needs : node ∈ (Residue.ofMembers whole members).dependentsOf id) :
    embedding.back node.id = none ∧
      ∀ other ∈ node.dependencies, embedding.back other = none := by
  obtain ⟨among, needed⟩ := Residue.mem_dependentsOf.mp needs
  obtain ⟨own, found, rfl⟩ := List.mem_map.mp among
  have own_outside : embedding.back own = none := by
    rcases embedding.outside_or_place own with own_outside | ⟨inside, rfl⟩
    · exact own_outside
    · have edge := (List.mem_filter.mp needed).1
      rw [embedding.dependencies_place] at edge
      obtain ⟨next, _, rfl⟩ := List.mem_map.mp edge
      simp at outside
  refine ⟨own_outside, fun other needed => ?_⟩
  rcases embedding.outside_or_place other with other_outside | ⟨inside, rfl⟩
  · exact other_outside
  · exact absurd (List.mem_filter.mp needed).1
      (unneeding own found own_outside inside)

/-- The company of a component outside is outside. -/
theorem company_outside (unneeding : embedding.Unneeding members)
    {id : ComponentId} (outside : embedding.back id = none) :
    embedding.pullGroup ((Residue.ofMembers whole members).company id) =
      [] := by
  rw [pullGroup_eq_nil_iff]
  have dependents :
      ∀ node ∈ (Residue.ofMembers whole members).dependentsOf id,
        embedding.back node.id = none ∧
          ∀ other ∈ node.dependencies, embedding.back other = none :=
    fun _ => outside_of_mem_dependentsOf unneeding outside
  unfold Residue.company
  cases needed : (Residue.ofMembers whole members).dependentsOf id with
  | nil => simpa using outside
  | cons first rest =>
      rw [needed] at dependents
      have first_outside := dependents first List.mem_cons_self
      cases rest with
      | nil => simpa using ⟨first_outside.1, outside⟩
      | cons second rest =>
          -- What is shared is needed by the first dependent, which is outside.
          intro other among
          rw [Residue.ids_sharedMembers,
            Residue.mem_commonDependencies (List.cons_ne_nil _ _)] at among
          exact first_outside.2 other (among first List.mem_cons_self)

end

/-! ### Placing what is left -/

theorem holding_renumber_iff {company group : Group} :
    Group.Holding (Group.ids (Group.renumber embedding.place company)) group ↔
      Group.Holding (Group.ids company) (embedding.pullGroup group) := by
  simp [Group.Holding]

/-- Members of the part join, in the part, the first group there. -/
theorem pullGroups_joinFirst {company joining : Group}
    (inside : embedding.pullGroup joining ≠ []) (groups : List Group) :
    embedding.pullGroups (Group.joinFirst
        (Group.ids (Group.renumber embedding.place company)) joining groups) =
      Group.joinFirst (Group.ids company) (embedding.pullGroup joining)
        (embedding.pullGroups groups) := by
  induction groups with
  | nil =>
      rw [Group.joinFirst, embedding.pullGroups_cons_inside inside]
      rfl
  | cons group rest ih =>
      rw [Group.joinFirst]
      by_cases holding : Group.Holding (Group.ids company)
          (embedding.pullGroup group)
      · have inside' : embedding.pullGroup group ≠ [] := by
          obtain ⟨id, _, found⟩ := holding
          rintro none
          simp [none] at found
        rw [if_pos (holding_renumber_iff.mpr holding),
          embedding.pullGroups_cons_inside inside', Group.joinFirst,
          if_pos holding, embedding.pullGroups_cons_inside (by simp [inside']),
          pullGroup_append]
      · rw [if_neg (mt holding_renumber_iff.mp holding)]
        -- A group outside is passed over in the whole and not there in the part.
        by_cases outside : embedding.pullGroup group = []
        · rw [embedding.pullGroups_cons_outside outside,
            embedding.pullGroups_cons_outside outside, ih]
        · rw [embedding.pullGroups_cons_inside outside,
            embedding.pullGroups_cons_inside outside, Group.joinFirst,
            if_neg holding, ih]

/-- Members outside change nothing in the part. -/
theorem pullGroups_joinFirst_outside {wanted : List ComponentId}
    {joining : Group} (outside : embedding.pullGroup joining = [])
    (groups : List Group) :
    embedding.pullGroups (Group.joinFirst wanted joining groups) =
      embedding.pullGroups groups := by
  induction groups with
  | nil => rw [Group.joinFirst, embedding.pullGroups_cons_outside outside]
  | cons group rest ih =>
      rw [Group.joinFirst]
      split
      · simp [pullGroups, outside]
      · rw [← List.singleton_append, embedding.pullGroups_append, ih,
          ← embedding.pullGroups_append, List.singleton_append]

theorem pullGroups_settleTogether {company : Group} {groups : List Group}
    (free : ∃ id ∈ Group.ids company,
      id ∉ Group.idsOf (embedding.pullGroups groups)) :
    embedding.pullGroups (Group.settleTogether
        (Group.renumber embedding.place company) groups) =
      Group.settleTogether company (embedding.pullGroups groups) := by
  have joining :
      (Group.renumber embedding.place company).filter
        (fun member => member.id ∉ Group.idsOf groups) =
      Group.renumber embedding.place (company.filter fun member =>
        member.id ∉ Group.idsOf (embedding.pullGroups groups)) := by
    rw [Group.renumber, Group.renumber, List.filter_map]
    congr 2
    funext member
    exact embedding.free_place groups member.id
  rw [Group.settleTogether, joining, pullGroups_joinFirst, pullGroup_renumber]
  · rfl
  · rw [pullGroup_renumber]
    obtain ⟨id, found, free⟩ := free
    obtain ⟨member, among, rfl⟩ := Group.mem_ids_iff.mp found
    exact List.ne_nil_of_mem
      (List.mem_filter.mpr ⟨among, decide_eq_true free⟩)

theorem pullGroup_filter_outside {group : Group}
    (outside : embedding.pullGroup group = []) (keeps : Member → Bool) :
    embedding.pullGroup (group.filter keeps) = [] := by
  rw [pullGroup_eq_nil_iff] at outside ⊢
  intro id found
  obtain ⟨member, among, rfl⟩ := Group.mem_ids_iff.mp found
  exact outside _ (List.mem_map_of_mem (List.mem_filter.mp among).1)

theorem pullGroups_settleTogether_outside {company : Group}
    (outside : embedding.pullGroup company = []) (groups : List Group) :
    embedding.pullGroups (Group.settleTogether company groups) =
      embedding.pullGroups groups :=
  pullGroups_joinFirst_outside (pullGroup_filter_outside outside _) groups

section

variable {members : List ComponentId}

/-- Placing a component of the part places it in the part. -/
theorem pullGroups_settle_place (unneeding : embedding.Unneeding members)
    (groups : List Group) (own : ComponentId) :
    embedding.pullGroups ((Residue.ofMembers whole members).settle groups
        (embedding.place own)) =
      (Residue.ofMembers part (embedding.pull members)).settle
        (embedding.pullGroups groups) own := by
  by_cases placed : embedding.place own ∈ Group.idsOf groups
  · rw [Residue.settle_of_placed placed, Residue.settle_of_placed
      (embedding.mem_idsOf_pullGroups.mpr placed)]
  · have free := mt embedding.mem_idsOf_pullGroups.mp placed
    rw [Residue.settle_of_free placed, Residue.settle_of_free free,
      company_place unneeding]
    exact pullGroups_settleTogether ⟨own, Residue.mem_company_self, free⟩

/-- Placing a component outside changes nothing in the part. -/
theorem pullGroups_settle_outside (unneeding : embedding.Unneeding members)
    (groups : List Group) {id : ComponentId}
    (outside : embedding.back id = none) :
    embedding.pullGroups
        ((Residue.ofMembers whole members).settle groups id) =
      embedding.pullGroups groups := by
  unfold Residue.settle
  split
  · rfl
  · exact pullGroups_settleTogether_outside
      (company_outside unneeding outside) groups

theorem pullGroups_foldl_settle (unneeding : embedding.Unneeding members)
    (ids : List ComponentId) (groups : List Group) :
    embedding.pullGroups
        (ids.foldl (Residue.ofMembers whole members).settle groups) =
      (embedding.pull ids).foldl
        (Residue.ofMembers part (embedding.pull members)).settle
        (embedding.pullGroups groups) := by
  induction ids generalizing groups with
  | nil => rfl
  | cons id rest ih =>
      rw [List.foldl_cons, ih]
      rcases embedding.outside_or_place id with outside | ⟨own, rfl⟩
      · rw [pullGroups_settle_outside unneeding groups outside,
          embedding.pull_cons_outside outside]
      · rw [pullGroups_settle_place unneeding, pull_cons_place,
          List.foldl_cons]

end

theorem pullGroups_settleShared (formed : whole.WellFormed)
    (formed' : part.WellFormed) (groups : List Group) :
    embedding.pullGroups (whole.settleShared groups) =
      part.settleShared (embedding.pullGroups groups) := by
  rw [settleShared, settleShared,
    pullGroups_foldl_settle (unneeding_leftBeside formed groups),
    pull_leftBeside formed formed']

/-- What the groups of the whole hold of the part are the groups that the part
has alone. -/
theorem pullGroups_settledGroups (formed : whole.WellFormed)
    (formed' : part.WellFormed) (bundles : List (List String)) :
    embedding.pullGroups (whole.settledGroups bundles) =
      part.settledGroups bundles := by
  rw [settledGroups, settledGroups, pullGroups_settleShared formed formed',
    pullGroups_settleDocument formed formed',
    pullGroups_settleBundles formed formed']

/-! ### Groups on one side -/

/-- All of a group is in the part, or nothing of it is. -/
def OneSided (embedding : part.Embedding whole) (group : Group) : Prop :=
  (∃ own, group = Group.renumber embedding.place own) ∨
    embedding.pullGroup group = []

theorem OneSided.renumber_pullGroup {group : Group}
    (one_sided : embedding.OneSided group)
    (inside : embedding.pullGroup group ≠ []) :
    Group.renumber embedding.place (embedding.pullGroup group) = group := by
  rcases one_sided with ⟨own, rfl⟩ | outside
  · rw [pullGroup_renumber]
  · exact absurd outside inside

theorem OneSided.filter {group : Group}
    (one_sided : embedding.OneSided group) (keeps : Member → Bool) :
    embedding.OneSided (group.filter keeps) := by
  rcases one_sided with ⟨own, rfl⟩ | outside
  · exact Or.inl ⟨own.filter (keeps ∘ Member.renumber embedding.place),
      List.filter_map⟩
  · exact Or.inr (pullGroup_filter_outside outside keeps)

/-- A group stays on its side when members of a company join it with which it
shares a component. -/
theorem OneSided.append_filter {group company : Group}
    (one_sided : embedding.OneSided group)
    (one_sided' : embedding.OneSided company)
    (holding : Group.Holding (Group.ids company) group)
    (keeps : Member → Bool) :
    embedding.OneSided (group ++ company.filter keeps) := by
  obtain ⟨id, among, found⟩ := holding
  have inside {own : Group}
      (placed : id ∈ Group.ids (Group.renumber embedding.place own)) :
      embedding.back id ≠ none := by
    rw [Group.ids_renumber] at placed
    obtain ⟨own, _, rfl⟩ := List.mem_map.mp placed
    simp
  rcases one_sided with ⟨own, rfl⟩ | outside
  · rcases one_sided' with ⟨other, rfl⟩ | outside'
    · refine Or.inl ⟨own ++ other.filter
        (keeps ∘ Member.renumber embedding.place), ?_⟩
      rw [Group.renumber_append, Group.renumber, Group.renumber,
        List.filter_map, Group.renumber]
    · exact absurd (pullGroup_eq_nil_iff.mp outside' id among) (inside found)
  · rcases one_sided' with ⟨other, rfl⟩ | outside'
    · exact absurd (pullGroup_eq_nil_iff.mp outside id found) (inside among)
    · refine Or.inr ?_
      rw [pullGroup_append, outside, pullGroup_filter_outside outside',
        List.append_nil]

/-- Groups stay on one side when a company on one side is settled. -/
theorem oneSided_settleTogether {company : Group}
    (one_sided : embedding.OneSided company) {groups : List Group}
    (all : ∀ group ∈ groups, embedding.OneSided group) :
    ∀ group ∈ Group.settleTogether company groups,
      embedding.OneSided group :=
  Group.forall_joinFirst all (one_sided.filter _) fun group among holding =>
    (all group among).append_filter one_sided holding _

theorem oneSided_settle {members : List ComponentId}
    (unneeding : embedding.Unneeding members) {groups : List Group}
    (all : ∀ group ∈ groups, embedding.OneSided group) (id : ComponentId) :
    ∀ group ∈ (Residue.ofMembers whole members).settle groups id,
      embedding.OneSided group := by
  unfold Residue.settle
  split
  · exact all
  · refine oneSided_settleTogether ?_ all
    rcases embedding.outside_or_place id with outside | ⟨own, rfl⟩
    · exact Or.inr (company_outside unneeding outside)
    · exact Or.inl ⟨_, company_place unneeding own⟩

/-- The last tier leaves every group on one side. -/
theorem oneSided_settleShared (formed : whole.WellFormed)
    {groups : List Group} (all : ∀ group ∈ groups, embedding.OneSided group) :
    ∀ group ∈ whole.settleShared groups, embedding.OneSided group := by
  have unneeding := embedding.unneeding_leftBeside formed groups
  unfold settleShared
  -- The residue is that of the groups at the start, while the groups change.
  generalize whole.leftBeside groups = members at unneeding ⊢
  suffices onward : ∀ (ids : List ComponentId) (groups : List Group),
      (∀ group ∈ groups, embedding.OneSided group) →
      ∀ group ∈ ids.foldl (Residue.ofMembers whole members).settle groups,
        embedding.OneSided group from onward members groups all
  intro ids
  induction ids with
  | nil => exact fun _ all => all
  | cons id rest ih =>
      exact fun groups all => ih _ (oneSided_settle unneeding all id)

/-- Without bundles and roots, every group is on one side of any part. -/
theorem oneSided_settledGroups (formed : whole.WellFormed)
    (rootless : whole.documentRoots = []) (embedding : part.Embedding whole) :
    ∀ group ∈ whole.settledGroups [], embedding.OneSided group := by
  have none : whole.settleDocument (whole.settleBundles []) = [] := by
    simp [settleDocument, settleBundles, Placement.orderBundles, rootless,
      reachedFrom, ascending, Group.started]
  rw [settledGroups, none]
  exact oneSided_settleShared formed (by simp)

/-! ### Groups in the part -/

/-- The groups of the whole that have members in the part. -/
def inside (embedding : part.Embedding whole) (group : Group) : Bool :=
  !(embedding.pullGroup group).isEmpty

/-- Where every group is on one side, those in the part are the groups that the
part has alone. -/
theorem renumber_pullGroups {groups : List Group}
    (one_sided : ∀ group ∈ groups, embedding.OneSided group) :
    (embedding.pullGroups groups).map (Group.renumber embedding.place) =
      groups.filter embedding.inside := by
  have kept : ∀ group ∈ groups.filter embedding.inside,
      Group.renumber embedding.place (embedding.pullGroup group) = group := by
    intro group among
    obtain ⟨found, inside⟩ := List.mem_filter.mp among
    exact (one_sided group found).renumber_pullGroup
      (by simpa [Embedding.inside] using inside)
  rw [pullGroups, List.filter_map, List.map_map]
  exact (List.map_congr_left kept).trans (List.map_id _)

/-- A group on one side is in the part exactly when any of its members is. -/
theorem inside_eq_of_mem {group : Group}
    (one_sided : embedding.OneSided group) {id : ComponentId}
    (found : id ∈ Group.ids group) :
    embedding.inside group = (embedding.back id).isSome := by
  rcases one_sided with ⟨own, rfl⟩ | outside
  · rw [Group.ids_renumber] at found
    obtain ⟨other, among, rfl⟩ := List.mem_map.mp found
    have some_member : own ≠ [] := by
      rintro rfl
      simp at among
    simpa [inside] using some_member
  · rw [inside, outside, pullGroup_eq_nil_iff.mp outside id found]
    rfl

end Embedding

end Graph

end CodeSplit
