/-
Module: CodeSplit.Proofs.Bundles
Purpose: which components the bundles of the user claim, and that each bundle
  gets a group of exactly what it claims.
Main exports:
  Graph.Names, Graph.ClaimedBy, Group.Holds, Group.Lists, Placement.Shares,
  Placement.exists_shares, Placement.exists_addBundles
-/
import CodeSplit.Group.Bundles
import CodeSplit.Proofs.Ascending
import CodeSplit.Proofs.Placement
import CodeSplit.Proofs.Reach
import Mathlib.Data.List.Induction

namespace CodeSplit

/-! ### The order of bundles -/

/-- A bundle is placed before another: it has more entries, or as many and is
declared earlier. -/
def BundlePrecedes (one other : List String × Nat) : Prop :=
  other.1.length < one.1.length ∨
    other.1.length = one.1.length ∧ one.2 < other.2

theorem BundlePrecedes.asymm {one other : List String × Nat}
    (first : BundlePrecedes one other) : ¬ BundlePrecedes other one := by
  unfold BundlePrecedes at *
  omega

namespace Placement

theorem mem_orderBundles {bundles : List (List String)}
    {bundle : List String} {index : Nat} :
    (bundle, index) ∈ orderBundles bundles ↔
      bundles[index]? = some bundle ∧ bundle ≠ [] := by
  simp [orderBundles, List.mem_zipIdx_iff_getElem?]

/-- Numbered bundles stand in the order of their numbers. -/
theorem zipIdx_pairwise (bundles : List (List String)) :
    bundles.zipIdx.Pairwise fun one other => one.2 < other.2 := by
  apply List.pairwise_map.mp
  rw [List.zipIdx_map_snd]
  exact List.pairwise_lt_range'

/-- Bundles are placed in their order. -/
theorem orderBundles_pairwise (bundles : List (List String)) :
    (orderBundles bundles).Pairwise BundlePrecedes := by
  have declared := (zipIdx_pairwise bundles).filter
    fun bundle => !bundle.1.isEmpty
  refine (pairwise_mergeSort_stable ?_ ?_ declared).imp ?_
  · intro one other last
    simp only [decide_eq_true_eq]
    omega
  · intro one other
    simp only [Bool.or_eq_true, decide_eq_true_eq]
    omega
  · intro one other sorted
    simp only [decide_eq_true_eq] at sorted
    unfold BundlePrecedes
    omega

theorem nodup_orderBundles (bundles : List (List String)) :
    (orderBundles bundles).Nodup := by
  apply (orderBundles_pairwise bundles).imp
  intro one other before same
  subst same
  exact before.asymm before

end Placement

/-! ### Who claims what -/

namespace Graph

/-- An entry of a bundle is, in some spelling, the tag of a component. -/
def Names (graph : Graph) (bundle : List String) (id : ComponentId) : Prop :=
  ∃ entry ∈ bundle, graph.idOf? (normalizeTag entry) = some id

/-- The bundle at an index claims a component: it names it, and no bundle that
is placed before it does. -/
def ClaimedBy (graph : Graph) (bundles : List (List String)) (index : Nat)
    (id : ComponentId) : Prop :=
  ∃ bundle, bundles[index]? = some bundle ∧ graph.Names bundle id ∧
    ∀ (earlier : List String) (other : Nat), bundles[other]? = some earlier →
      BundlePrecedes (earlier, other) (bundle, index) →
        ¬ graph.Names earlier id

/-- Among bundles in a list, this one is the first to name a component. -/
def FirstToName (graph : Graph) :
    List (List String × Nat) → List String × Nat → ComponentId → Prop
  | [], _, _ => False
  | first :: rest, owner, id =>
      owner = first ∧ graph.Names first.1 id ∨
        ¬ graph.Names first.1 id ∧ graph.FirstToName rest owner id

variable {graph : Graph}

theorem not_names_nil {id : ComponentId} : ¬ graph.Names [] id := by
  simp [Names]

/-- What a bundle names is a component of the graph. -/
theorem Names.lt {bundle : List String} {id : ComponentId}
    (names : graph.Names bundle id) : id < graph.size := by
  obtain ⟨entry, _, found⟩ := names
  have bound := (List.findIdx?_eq_some_iff_findIdx_eq.mp found).1
  simpa [tags, size] using bound

theorem FirstToName.names {ordered : List (List String × Nat)}
    {owner : List String × Nat} {id : ComponentId}
    (first : graph.FirstToName ordered owner id) : graph.Names owner.1 id := by
  induction ordered with
  | nil => exact first.elim
  | cons head rest ih =>
      rcases first with ⟨rfl, names⟩ | ⟨_, later⟩
      · exact names
      · exact ih later

theorem FirstToName.mem {ordered : List (List String × Nat)}
    {owner : List String × Nat} {id : ComponentId}
    (first : graph.FirstToName ordered owner id) : owner ∈ ordered := by
  induction ordered with
  | nil => exact first.elim
  | cons head rest ih =>
      rcases first with ⟨rfl, _⟩ | ⟨_, later⟩
      · exact List.mem_cons_self
      · exact List.mem_cons_of_mem _ (ih later)

theorem firstToName_cons_self {rest : List (List String × Nat)}
    {owner : List String × Nat} {id : ComponentId} :
    graph.FirstToName (owner :: rest) owner id ↔ graph.Names owner.1 id :=
  ⟨FirstToName.names, fun names => Or.inl ⟨rfl, names⟩⟩

theorem firstToName_cons_of_ne {rest : List (List String × Nat)}
    {head owner : List String × Nat} {id : ComponentId} (other : owner ≠ head) :
    graph.FirstToName (head :: rest) owner id ↔
      ¬ graph.Names head.1 id ∧ graph.FirstToName rest owner id := by
  simp [FirstToName, other]

/-- Some bundle is the first to name a component if any names it. -/
theorem exists_firstToName {ordered : List (List String × Nat)}
    {id : ComponentId} :
    (∃ owner, graph.FirstToName ordered owner id) ↔
      ∃ owner ∈ ordered, graph.Names owner.1 id := by
  induction ordered with
  | nil => simp [FirstToName]
  | cons head rest ih =>
      by_cases names : graph.Names head.1 id
      · exact iff_of_true ⟨head, firstToName_cons_self.mpr names⟩
          ⟨head, List.mem_cons_self, names⟩
      · simpa [FirstToName, names] using ih

/-- In a list in the order of placing, the first bundle to name a component is
the one that no naming bundle precedes. -/
theorem firstToName_iff {ordered : List (List String × Nat)}
    (sorted : ordered.Pairwise BundlePrecedes) {owner : List String × Nat}
    {id : ComponentId} :
    graph.FirstToName ordered owner id ↔
      owner ∈ ordered ∧ graph.Names owner.1 id ∧
        ∀ other ∈ ordered, BundlePrecedes other owner →
          ¬ graph.Names other.1 id := by
  induction ordered with
  | nil => simp [FirstToName]
  | cons first rest ih =>
      have parts := List.pairwise_cons.mp sorted
      rw [FirstToName, ih parts.2]
      constructor
      · intro given
        rcases given with ⟨rfl, names⟩ | ⟨notFirst, found, names, none⟩
        · refine ⟨List.mem_cons_self, names, fun other among before => ?_⟩
          rcases List.mem_cons.mp among with rfl | among
          · exact absurd before before.asymm
          · exact absurd before (parts.1 other among).asymm
        · refine ⟨List.mem_cons_of_mem _ found, names, ?_⟩
          intro other among before
          rcases List.mem_cons.mp among with rfl | among
          · exact notFirst
          · exact none other among before
      · intro given
        obtain ⟨found, names, none⟩ := given
        rcases List.mem_cons.mp found with rfl | found
        · exact Or.inl ⟨rfl, names⟩
        · refine Or.inr ⟨none first List.mem_cons_self (parts.1 owner found),
            found, names, fun other among => ?_⟩
          exact none other (List.mem_cons_of_mem _ among)

/-- The first bundle to name a component in the order of placing is the one that
claims it. -/
theorem firstToName_orderBundles_iff {bundles : List (List String)}
    {bundle : List String} {index : Nat} {id : ComponentId} :
    graph.FirstToName (Placement.orderBundles bundles) (bundle, index) id ↔
      bundles[index]? = some bundle ∧ graph.ClaimedBy bundles index id := by
  rw [firstToName_iff (Placement.orderBundles_pairwise bundles),
    Placement.mem_orderBundles]
  constructor
  · intro given
    obtain ⟨⟨at_index, _⟩, names, none⟩ := given
    refine ⟨at_index, bundle, at_index, names, ?_⟩
    intro earlier other at_other before named
    refine none (earlier, other) (Placement.mem_orderBundles.mpr
      ⟨at_other, ?_⟩) before named
    rintro rfl
    exact not_names_nil named
  · intro given
    obtain ⟨at_index, bundle', at_index', names, none⟩ := given
    rw [at_index] at at_index'
    cases at_index'
    refine ⟨⟨at_index, ?_⟩, names, fun other among before => ?_⟩
    · rintro rfl
      exact not_names_nil names
    · exact none other.1 other.2 (Placement.mem_orderBundles.mp among).1 before

end Graph

/-! ### Placing bundles -/

/-- A group holds exactly the components with a property, and none of them for
the sake of another. -/
def Group.Holds (group : Group) (claimed : ComponentId → Prop) : Prop :=
  ∀ member, member ∈ group ↔ member.dependents = [] ∧ claimed member.id

theorem Group.Holds.mem_ids_iff {group : Group} {claimed : ComponentId → Prop}
    (holds : Group.Holds group claimed) {id : ComponentId} :
    id ∈ Group.ids group ↔ claimed id := by
  rw [Group.mem_ids_iff]
  constructor
  · intro given
    obtain ⟨member, found, rfl⟩ := given
    exact ((holds member).mp found).2
  · intro claims
    exact ⟨{ id := id }, (holds _).mpr ⟨rfl, claims⟩, rfl⟩

theorem Group.Holds.congr {group : Group} {claimed other : ComponentId → Prop}
    (holds : Group.Holds group claimed) (same : ∀ id, claimed id ↔ other id) :
    Group.Holds group other := by
  intro member
  rw [holds member, same]

/-- Components as members that are there for nobody's sake. -/
def Group.ofIds (ids : List ComponentId) : Group :=
  ids.map fun id => { id := id }

@[simp] theorem Group.ids_ofIds (ids : List ComponentId) :
    Group.ids (Group.ofIds ids) = ids := by
  simp [Group.ids, Group.ofIds, Function.comp_def]

theorem Group.holds_ofIds (ids : List ComponentId) :
    Group.Holds (Group.ofIds ids) (· ∈ ids) := by
  intro member
  cases member with
  | mk id dependents => simp [Group.ofIds, eq_comm, and_comm]

/-- What is started for components: one group, or none where there are no
components. -/
def Group.started (ids : List ComponentId) : List Group :=
  if ids = [] then [] else [Group.ofIds ids]

theorem Group.mem_started {ids : List ComponentId} {group : Group} :
    group ∈ Group.started ids ↔ ids ≠ [] ∧ group = Group.ofIds ids := by
  unfold Group.started
  split
  · rename_i none
    simp [none]
  · rename_i some_id
    simp [some_id]

theorem Group.nil_not_mem_started (ids : List ComponentId) :
    [] ∉ Group.started ids := by
  intro empty
  obtain ⟨some_id, none⟩ := Group.mem_started.mp empty
  exact some_id (List.map_eq_nil_iff.mp none.symm)

/-! ### The order of a group -/

/-- The components that a bundle names, entry by entry. -/
def Graph.namedBy (graph : Graph) (bundle : List String) :
    List ComponentId :=
  bundle.filterMap fun entry => graph.idOf? (normalizeTag entry)

/-- A group lists exactly the components with a property, in the order in which
they are named first, and none of them for the sake of another. -/
def Group.Lists (group : Group) (named : List ComponentId)
    (listed : ComponentId → Prop) : Prop :=
  ∃ ids, group = Group.ofIds ids ∧
    (ids.Pairwise fun one other => named.idxOf one < named.idxOf other) ∧
    ∀ id, id ∈ ids ↔ listed id

namespace Group.Lists

variable {group : Group} {named : List ComponentId}
variable {listed other : ComponentId → Prop}

theorem holds (lists : Group.Lists group named listed) :
    Group.Holds group listed := by
  rcases lists with ⟨ids, rfl, _, mem_ids⟩
  exact (Group.holds_ofIds ids).congr mem_ids

theorem congr (lists : Group.Lists group named listed)
    (same : ∀ id, listed id ↔ other id) :
    Group.Lists group named other := by
  rcases lists with ⟨ids, shape, ordered, mem_ids⟩
  exact ⟨ids, shape, ordered, fun id => (mem_ids id).trans (same id)⟩

end Group.Lists

namespace Walks

theorem union_concat (one other : List ComponentId) (id : ComponentId) :
    union one (other ++ [id]) =
      if id ∈ union one other then union one other
      else union one other ++ [id] := by
  rw [union, List.foldl_append]
  rfl

/-- Of what is named, the components that pass a test are collected in the order
in which they are named first. -/
theorem union_pairwise_idxOf (named : List ComponentId)
    (test : ComponentId → Bool) :
    (union [] (named.filter test)).Pairwise fun one other =>
      named.idxOf one < named.idxOf other := by
  -- From behind, because what is named last moves nothing that is named before.
  induction named using List.reverseRecOn with
  | nil => exact .nil
  | append_singleton front id ih =>
      have mem_collected {other : ComponentId} :
          other ∈ union [] (front.filter test) ↔
            other ∈ front ∧ test other = true := by
        simp [mem_union]
      have known : (union [] (front.filter test)).Pairwise
          fun one other =>
            (front ++ [id]).idxOf one < (front ++ [id]).idxOf other := by
        apply ih.imp_of_mem
        intro one other found found' below
        rw [List.idxOf_append_of_mem (mem_collected.mp found).1,
          List.idxOf_append_of_mem (mem_collected.mp found').1]
        exact below
      by_cases passes : test id = true
      · rw [List.filter_append, List.filter_cons_of_pos passes,
          List.filter_nil, union_concat]
        split
        · exact known
        · rename_i fresh
          have unnamed : id ∉ front := fun before =>
            fresh (mem_collected.mpr ⟨before, passes⟩)
          apply List.pairwise_append.mpr
          refine ⟨known, List.pairwise_singleton _ _, ?_⟩
          intro one found other last
          have before := (mem_collected.mp found).1
          rw [List.mem_singleton.mp last, List.idxOf_append_of_mem before,
            List.idxOf_append_of_notMem unnamed]
          exact Nat.lt_add_right _ (List.idxOf_lt_length_of_mem before)
      · rw [List.filter_append, List.filter_cons_of_neg passes,
          List.filter_nil, List.append_nil]
        exact known

end Walks

/-! ### Bundles one after the other -/

namespace Placement

variable {graph : Graph} {placement : Placement}

/-- A bundle claims what it names and what has no group yet, in the order in
which it names it first. -/
theorem outcome_claim (bundle : List String) (index : Nat)
    (claimed : List ComponentId) (entries : List String) :
    (placement.claim graph bundle index claimed entries).outcome =
      .ok (Walks.union claimed
        ((entries.filterMap fun entry =>
            graph.idOf? (normalizeTag entry)).filter
          fun id => !placement.isPlaced id)) := by
  induction entries generalizing claimed with
  | nil => rfl
  | cons entry rest ih =>
      simp only [claim, List.filterMap_cons]
      cases graph.idOf? (normalizeTag entry) with
      | none =>
          rw [Planning.outcome_bind_of_ok rfl]
          exact ih claimed
      | some id =>
          by_cases placed : placement.isPlaced id = true
          · simp only [placed, Bool.true_or, if_true, List.filter_cons,
              Bool.not_true, Bool.false_eq_true, if_false]
            rw [Planning.outcome_bind_of_ok rfl]
            exact ih claimed
          · rw [Bool.not_eq_true] at placed
            by_cases seen : id ∈ claimed
            · simp only [placed, seen, decide_true, Bool.or_true, if_true,
                List.filter_cons, Bool.not_false]
              rw [Planning.outcome_bind_of_ok rfl, ih claimed]
              simp [Walks.union, seen]
            · simp only [placed, seen, decide_false, Bool.or_false,
                Bool.false_eq_true, if_false, List.filter_cons, Bool.not_false,
                if_true]
              rw [ih (claimed ++ [id])]
              simp [Walks.union, seen]

/-- A bundle can claim, and claims each component once. -/
theorem exists_claim (sound : placement.Sound) (bundle : List String)
    (index : Nat) :
    ∃ claimed,
      (placement.claim graph bundle index [] bundle).outcome = .ok claimed ∧
      claimed.Nodup ∧
      ∀ id, id ∈ claimed ↔ graph.Names bundle id ∧ id ∉ placement.ids := by
  refine ⟨_, outcome_claim bundle index [] bundle,
    Walks.nodup_union .nil _, fun id => ?_⟩
  rw [Walks.mem_union, List.mem_filter, List.mem_filterMap, Bool.not_eq_true',
    ← Bool.not_eq_true, sound.isPlaced_iff]
  simp [Graph.Names]

/-- What a bundle claims is claimed in the order in which it names it first. -/
theorem lists_of_claim {bundle : List String} {index : Nat}
    {claimed : List ComponentId}
    (claims : (placement.claim graph bundle index [] bundle).outcome =
      .ok claimed) :
    Group.Lists (Group.ofIds claimed) (graph.namedBy bundle)
      (· ∈ claimed) := by
  rw [outcome_claim] at claims
  obtain rfl := Except.ok.inj claims
  exact ⟨_, rfl, Walks.union_pairwise_idxOf _ _, fun id => Iff.rfl⟩

/-- A group of what was claimed can be started; where nothing was claimed, there
is none. -/
theorem exists_push_ofIds (sound : placement.Sound) {claimed : List ComponentId}
    (distinct : claimed.Nodup) (free : ∀ id ∈ claimed, id ∉ placement.ids) :
    ∃ after, (settle (placement.push (Group.ofIds claimed))).outcome =
        .ok after ∧
      after.Sound ∧ after.ids = placement.ids ++ claimed ∧
      after.groups = placement.groups ++ Group.started claimed := by
  by_cases none : claimed = []
  · subst none
    exact ⟨placement, rfl, sound, by simp, by simp [Group.started]⟩
  · have some_member : Group.ofIds claimed ≠ [] := by
      simpa [Group.ofIds] using none
    obtain ⟨after, went, afterSound, groups⟩ :=
      sound.push some_member (by rwa [Group.ids_ofIds])
        (by rwa [Group.ids_ofIds])
    refine ⟨after, ?_, afterSound, ?_, ?_⟩
    · rw [went]
      rfl
    · rw [ids_of_started groups, Group.ids_ofIds]
    · rw [groups, Group.started, if_neg none]

/-- Placing one bundle has a result: one group of what it names and what has no
group yet, if there is anything. -/
theorem exists_addBundle (graph : Graph) (sound : placement.Sound)
    (bundle : List String) (index : Nat) :
    ∃ claimed after,
      (placement.claim graph bundle index [] bundle).outcome = .ok claimed ∧
      (settle (placement.push (Group.ofIds claimed))).outcome = .ok after ∧
      after.Sound ∧
      after.groups = placement.groups ++ Group.started claimed ∧
      (∀ id, id ∈ claimed ↔ graph.Names bundle id ∧ id ∉ placement.ids) ∧
      ∀ id, id ∉ after.ids ↔ ¬ graph.Names bundle id ∧ id ∉ placement.ids := by
  obtain ⟨claimed, claims, once, mem_claimed⟩ :=
    exists_claim sound bundle index
  obtain ⟨after, pushed, afterSound, ids, groups⟩ :=
    exists_push_ofIds sound once fun id found => ((mem_claimed id).mp found).2
  refine ⟨claimed, after, claims, pushed, afterSound, groups, mem_claimed, ?_⟩
  intro id
  rw [ids, List.mem_append, mem_claimed]
  tauto

/-- A bundle in a list gets a component that has no group: it is the first one
in the list to name it. -/
def Gets (placement : Placement) (graph : Graph)
    (ordered : List (List String × Nat)) (owner : List String × Nat)
    (id : ComponentId) : Prop :=
  graph.FirstToName ordered owner id ∧ id ∉ placement.ids

/-- What a later bundle gets after the first one in a list was placed, it gets
from the whole list. -/
theorem gets_after_iff {next : Placement} {head owner : List String × Nat}
    {rest : List (List String × Nat)} (other : owner ≠ head)
    (free : ∀ id, id ∉ next.ids ↔
      ¬ graph.Names head.1 id ∧ id ∉ placement.ids) (id : ComponentId) :
    next.Gets graph rest owner id ↔
      placement.Gets graph (head :: rest) owner id := by
  rw [Gets, Gets, Graph.firstToName_cons_of_ne other, free]
  tauto

/-- A bundle, with its index, and the group that is started for it. -/
structure Share where
  owner : List String × Nat
  group : Group

/-- The bundles in a list that get anything, with the group of each. -/
structure Shares (placement : Placement) (graph : Graph)
    (ordered : List (List String × Nat)) (shares : List Share) : Prop where
  /-- They stand in the order of the list. -/
  sublist : (shares.map (·.owner)).Sublist ordered
  mem_owners : ∀ owner, owner ∈ shares.map (·.owner) ↔
    ∃ id, placement.Gets graph ordered owner id
  /-- The group lists what the bundle gets. -/
  lists : ∀ share ∈ shares, Group.Lists share.group
    (graph.namedBy share.owner.1) (placement.Gets graph ordered share.owner)

/-- The first bundle in a list is placed before the others: it gets a group if
it claims anything. -/
theorem Shares.cons {next : Placement} {head : List String × Nat}
    {rest : List (List String × Nat)} {claimed : List ComponentId}
    {shares : List Share} (notAgain : head ∉ rest)
    (listed : Group.Lists (Group.ofIds claimed) (graph.namedBy head.1)
      (placement.Gets graph (head :: rest) head))
    (free : ∀ id, id ∉ next.ids ↔
      ¬ graph.Names head.1 id ∧ id ∉ placement.ids)
    (others : next.Shares graph rest shares) :
    placement.Shares graph (head :: rest)
      ((if claimed = [] then [] else [⟨head, Group.ofIds claimed⟩]) ++
        shares) := by
  have later {owner : List String × Nat} (among : owner ∈ rest)
      (id : ComponentId) : next.Gets graph rest owner id ↔
        placement.Gets graph (head :: rest) owner id := by
    apply gets_after_iff _ free
    rintro rfl
    exact notAgain among
  have lists : ∀ share ∈ shares, Group.Lists share.group
      (graph.namedBy share.owner.1)
      (placement.Gets graph (head :: rest) share.owner) := by
    intro share found
    have among := others.sublist.subset (List.mem_map_of_mem found)
    exact (others.lists share found).congr (later among)
  have mem_owners (owner : List String × Nat) :
      owner = head ∧ claimed ≠ [] ∨ owner ∈ shares.map (·.owner) ↔
        ∃ id, placement.Gets graph (head :: rest) owner id := by
    have own {id : ComponentId} : id ∈ claimed ↔
        placement.Gets graph (head :: rest) head id := by
      rw [← listed.holds.mem_ids_iff, Group.ids_ofIds]
    constructor
    · intro given
      rcases given with ⟨rfl, some_id⟩ | among
      · rcases List.exists_mem_of_ne_nil _ some_id with ⟨id, found⟩
        exact ⟨id, own.mp found⟩
      · rcases (others.mem_owners owner).mp among with ⟨id, gets⟩
        exact ⟨id, (later gets.1.mem id).mp gets⟩
    · intro given
      rcases given with ⟨id, gets⟩
      rcases List.mem_cons.mp gets.1.mem with rfl | among
      · exact Or.inl ⟨rfl, List.ne_nil_of_mem (own.mpr gets)⟩
      · exact Or.inr ((others.mem_owners owner).mpr
          ⟨id, (later among id).mpr gets⟩)
  by_cases none : claimed = []
  · rw [if_pos none]
    refine ⟨others.sublist.cons head, fun owner => ?_, lists⟩
    rw [← mem_owners]
    simp [none]
  · rw [if_neg none]
    refine ⟨others.sublist.cons_cons head, fun owner => ?_, ?_⟩
    · rw [← mem_owners]
      simp [none]
    · exact List.forall_mem_cons.mpr ⟨listed, lists⟩

/-- Placing bundles in a list has a result.  It starts one group for each bundle
that gets anything. -/
theorem exists_shares (graph : Graph) (sound : placement.Sound)
    {ordered : List (List String × Nat)} (distinct : ordered.Nodup) :
    ∃ after shares,
      (placement.addOrderedBundles graph ordered).outcome = .ok after ∧
      after.Sound ∧
      after.groups = placement.groups ++ shares.map (·.group) ∧
      placement.Shares graph ordered shares := by
  induction ordered generalizing placement with
  | nil =>
      exact ⟨placement, [], rfl, sound, by simp, .slnil,
        by simp [Gets, Graph.FirstToName], by simp⟩
  | cons head rest ih =>
      rcases List.nodup_cons.mp distinct with ⟨notAgain, distinct⟩
      rcases exists_addBundle graph sound head.1 head.2 with
        ⟨claimed, next, claims, pushed, nextSound, nextGroups, mem_claimed,
          free⟩
      rcases ih nextSound distinct with
        ⟨after, shares, went, afterSound, groups, others⟩
      have listed : Group.Lists (Group.ofIds claimed) (graph.namedBy head.1)
          (placement.Gets graph (head :: rest) head) := by
        apply (lists_of_claim claims).congr
        intro id
        rw [mem_claimed, Gets, Graph.firstToName_cons_self]
      refine ⟨after, _, ?_, afterSound, ?_, others.cons notAgain listed free⟩
      · rw [addOrderedBundles, Planning.outcome_bind_of_ok claims]
        exact (Planning.outcome_bind_of_ok pushed _).trans went
      · rw [groups, nextGroups, List.append_assoc, List.map_append,
          Group.started]
        split <;> rfl

/-- Each bundle that gets anything has a group of exactly what it gets, and there
is no other group. -/
theorem Shares.holds {ordered : List (List String × Nat)}
    {shares : List Share} (shared : placement.Shares graph ordered shares) :
    [] ∉ shares.map (·.group) ∧
    (∀ group ∈ shares.map (·.group), ∃ owner ∈ ordered,
      Group.Holds group (placement.Gets graph ordered owner)) ∧
    ∀ owner id, placement.Gets graph ordered owner id →
      ∃ group ∈ shares.map (·.group),
        Group.Holds group (placement.Gets graph ordered owner) := by
  have owned {share : Share} (found : share ∈ shares) :
      share.owner ∈ shares.map (·.owner) := List.mem_map_of_mem found
  refine ⟨?_, ?_, ?_⟩
  · intro empty
    rcases List.mem_map.mp empty with ⟨share, found, none⟩
    rcases (shared.mem_owners share.owner).mp (owned found) with ⟨id, gets⟩
    have held := (shared.lists share found).holds.mem_ids_iff.mpr gets
    rw [none] at held
    cases held
  · intro group among
    rcases List.mem_map.mp among with ⟨share, found, rfl⟩
    exact ⟨share.owner, shared.sublist.subset (owned found),
      (shared.lists share found).holds⟩
  · intro owner id gets
    rcases List.mem_map.mp ((shared.mem_owners owner).mpr ⟨id, gets⟩) with
      ⟨share, found, rfl⟩
    exact ⟨share.group, List.mem_map_of_mem found,
      (shared.lists share found).holds⟩

/-- Of the bundles of the user, one gets what it claims and what has no group. -/
theorem gets_orderBundles_iff {bundles : List (List String)}
    {bundle : List String} {index : Nat}
    (at_index : bundles[index]? = some bundle) (id : ComponentId) :
    placement.Gets graph (orderBundles bundles) (bundle, index) id ↔
      graph.ClaimedBy bundles index id ∧ id ∉ placement.ids := by
  rw [Gets, Graph.firstToName_orderBundles_iff, and_iff_right at_index]

/-- Placing the bundles of the user has a result.  It adds one group for each
bundle that claims some component without a group, which holds exactly what that
bundle claims. -/
theorem exists_addBundles (graph : Graph) (sound : placement.Sound)
    (bundles : List (List String)) :
    ∃ after added,
      (placement.addBundles graph bundles).outcome = .ok after ∧
      after.Sound ∧ after.groups = placement.groups ++ added ∧ [] ∉ added ∧
      (∀ group ∈ added, ∃ index, Group.Holds group fun id =>
        graph.ClaimedBy bundles index id ∧ id ∉ placement.ids) ∧
      ∀ index id, graph.ClaimedBy bundles index id → id ∉ placement.ids →
        ∃ group ∈ added, Group.Holds group fun id =>
          graph.ClaimedBy bundles index id ∧ id ∉ placement.ids := by
  obtain ⟨after, shares, went, afterSound, groups, shared⟩ :=
    exists_shares graph sound (nodup_orderBundles bundles)
  obtain ⟨nonempty, owned, all⟩ := shared.holds
  refine ⟨after, _, went, afterSound, groups, nonempty, ?_, ?_⟩
  · intro group found
    obtain ⟨⟨bundle, index⟩, among, holds⟩ := owned group found
    have at_index := (mem_orderBundles.mp among).1
    exact ⟨index, holds.congr (gets_orderBundles_iff at_index)⟩
  · intro index id claimed free
    have ⟨bundle, at_index, _⟩ := claimed
    have gets := (gets_orderBundles_iff at_index id).mpr ⟨claimed, free⟩
    obtain ⟨group, found, holds⟩ := all (bundle, index) id gets
    exact ⟨group, found, holds.congr (gets_orderBundles_iff at_index)⟩

end Placement

end CodeSplit
