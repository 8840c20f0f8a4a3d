/-
Module: CodeSplit.Proofs.Assembly
Purpose: which groups are turned into entry modules, what is told about those that
  are not, and what the entry modules hold.
Main exports:
  FirstShared, firstShared?_occurrences_iff, ListsUnplaced, Refuses,
  checkGroups_eq_error_iff, Entry.MadeOf, Entry.ofGroup_eq_of_perm,
  assembleEntries_settles
-/
import CodeSplit.Proofs.EntryKeys
import CodeSplit.Proofs.MergedStyles

namespace CodeSplit

/-!
The check of finished groups reads them member by member.  It stops at the first
component that it has read before, so all that was read until then is distinct,
and the component has one earlier occurrence to name.  Only if it gets through
does it look for components that it has not read.
-/

variable {graph : Graph} {groups : List Group}

/-! ### The first occurrence that repeats a component -/

section

variable {seen read later : List (ComponentId × Nat)}
variable {id : ComponentId} {earlier index : Nat}

/-- What was read without repeating anything counts as seen, the last of it
first. -/
theorem firstShared?_append (unshared : firstShared? seen read = none) :
    firstShared? seen (read ++ later) =
      firstShared? (read.reverse ++ seen) later := by
  induction read generalizing seen with
  | nil => rfl
  | cons pair rest ih =>
      rw [firstShared?] at unshared
      rw [List.cons_append, firstShared?, List.reverse_cons, List.append_assoc]
      cases held : seen.lookup pair.1 with
      | some other => simp [held] at unshared
      | none =>
          rw [held] at unshared
          exact ih unshared

/-- A component that is found again was seen, or read without repeating
anything. -/
theorem exists_of_firstShared?
    (found : firstShared? seen later = some (id, earlier, index)) :
    ∃ read unread, later = read ++ (id, index) :: unread ∧
      firstShared? seen read = none ∧
      (read.reverse ++ seen).lookup id = some earlier := by
  induction later generalizing seen with
  | nil => cases found
  | cons pair rest ih =>
      rw [firstShared?] at found
      cases held : seen.lookup pair.1 with
      | some other =>
          rw [held] at found
          cases found
          exact ⟨[], rest, rfl, rfl, held⟩
      | none =>
          rw [held] at found
          obtain ⟨read, unread, rfl, unshared, seen_before⟩ := ih found
          refine ⟨pair :: read, unread, rfl, ?_, ?_⟩
          · rw [firstShared?, held]
            exact unshared
          · rwa [List.reverse_cons, List.append_assoc]

/-- The first component to be found again is behind occurrences of distinct
components, of which one is its own. -/
theorem firstShared?_eq_some_iff :
    firstShared? [] later = some (id, earlier, index) ↔
      ∃ read unread, later = read ++ (id, index) :: unread ∧
        (read.map Prod.fst).Nodup ∧ (id, earlier) ∈ read := by
  have held_iff {read : List (ComponentId × Nat)}
      (distinct : (read.map Prod.fst).Nodup) :
      (read.reverse ++ []).lookup id = some earlier ↔ (id, earlier) ∈ read := by
    rw [List.append_nil, Graph.lookup_eq_some_iff_mem, List.mem_reverse]
    rwa [List.map_reverse, List.nodup_reverse]
  constructor
  · intro found
    obtain ⟨read, unread, parts, unshared, held⟩ := exists_of_firstShared? found
    have distinct := firstShared?_nil_eq_none_iff.mp unshared
    exact ⟨read, unread, parts, distinct, (held_iff distinct).mp held⟩
  · rintro ⟨read, unread, rfl, distinct, held⟩
    rw [firstShared?_append (firstShared?_nil_eq_none_iff.mpr distinct),
      firstShared?, (held_iff distinct).mpr held]

end

/-! ### Occurrences in groups -/

theorem mem_occurrences_iff {id : ComponentId} {index : Nat} :
    (id, index) ∈ occurrences groups ↔
      ∃ group, groups[index]? = some group ∧ id ∈ Group.ids group := by
  simp only [occurrences, List.mem_flatMap, List.mem_map, Prod.mk.injEq,
    Prod.exists, List.mem_zipIdx_iff_getElem?]
  constructor
  · rintro ⟨group, _, at_index, _, found, rfl, rfl⟩
    exact ⟨group, at_index, found⟩
  · rintro ⟨group, at_index, found⟩
    exact ⟨group, index, at_index, id, found, rfl, rfl⟩

/-- The occurrences in the groups in front come first. -/
theorem occurrences_prefix (front back : List Group) :
    occurrences front <+: occurrences (front ++ back) := by
  rw [occurrences, occurrences, List.zipIdx_append, List.flatMap_append]
  exact List.prefix_append _ _

/-- The occurrences in the last group come last. -/
theorem occurrences_concat (front : List Group) (group : Group) :
    occurrences (front ++ [group]) =
      occurrences front ++ (Group.ids group).map fun id => (id, front.length) := by
  rw [occurrences, List.zipIdx_append, List.flatMap_append, occurrences]
  simp

/-- A list of two parts is cut in the first part, or in the second one. -/
theorem cut_append {α : Type} {one other before after : List α} {x : α}
    (cut : one ++ other = before ++ x :: after) :
    (∃ rest, one = before ++ x :: rest) ∨
      ∃ rest, before = one ++ rest ∧ other = rest ++ x :: after := by
  rcases List.append_eq_append_iff.mp cut with
    second | ⟨rest, whole, last⟩
  · exact Or.inr second
  · cases rest with
    | nil => exact Or.inr ⟨[], by simpa using whole.symm, last.symm⟩
    | cons y rest =>
        obtain ⟨rfl, -⟩ := List.cons_eq_cons.mp last
        exact Or.inl ⟨rest, whole⟩

/-- Occurrences that end at a member are those in the groups in front of its own
and in front of it in its own. -/
theorem exists_of_occurrences_eq {before after : List (ComponentId × Nat)}
    {id : ComponentId} {index : Nat}
    (cut : occurrences groups = before ++ (id, index) :: after) :
    ∃ front read member unread back,
      groups = front ++ (read ++ member :: unread) :: back ∧
        front.length = index ∧ member.id = id ∧
        occurrences (front ++ [read]) = before := by
  induction groups using List.reverseRecOn generalizing after with
  | nil => simp [occurrences] at cut
  | append_singleton groups group ih =>
      rw [occurrences_concat] at cut
      -- The occurrence is one in the groups before the last, or one in the last.
      rcases cut_append cut with ⟨rest, first⟩ | ⟨rest, rfl, last⟩
      · obtain ⟨front, read, member, unread, back, rfl, found⟩ := ih first
        exact ⟨front, read, member, unread, back ++ [group], by simp, found⟩
      · rw [Group.ids, List.map_map] at last
        obtain ⟨read, others, rfl, rfl, found⟩ := List.map_eq_append_iff.mp last
        obtain ⟨member, unread, rfl, same, -⟩ := List.map_eq_cons_iff.mp found
        obtain ⟨rfl, rfl⟩ := Prod.mk.inj same
        refine ⟨groups, read, member, unread, [], rfl, rfl, rfl, ?_⟩
        rw [occurrences_concat, Group.ids, List.map_map]

/-- Occurrences in groups are those in front of a member, that of the member and
those behind it. -/
theorem exists_occurrences_eq (front : List Group) (read : Group)
    (member : Member) (unread : Group) (back : List Group) :
    ∃ after, occurrences (front ++ (read ++ member :: unread) :: back) =
      occurrences (front ++ [read]) ++ (member.id, front.length) :: after := by
  have split : front ++ (read ++ member :: unread) :: back =
      (front ++ [read ++ member :: unread]) ++ back := by
    simp
  obtain ⟨after, whole⟩ :=
    occurrences_prefix (front ++ [read ++ member :: unread]) back
  rw [split, ← whole, occurrences_concat, occurrences_concat]
  simp

/-- Of the members of groups, read one after the other, the first to repeat a
component is in the group at `index`, and that component was read in the group at
`earlier`, which can be the same one. -/
inductive FirstShared (groups : List Group) (id : ComponentId)
    (earlier index : Nat) : Prop where
  /-- What is in front of the member, in the groups before its own and in its own,
  repeats nothing, and its component is there. -/
  | again {front back : List Group} {read unread group : Group} {member : Member}
      (parts : groups = front ++ (read ++ member :: unread) :: back)
      (at_index : front.length = index) (same : member.id = id)
      (distinct : ((front ++ [read]).flatMap Group.ids).Nodup)
      (at_earlier : (front ++ [read])[earlier]? = some group)
      (held : id ∈ Group.ids group) :
      FirstShared groups id earlier index

/-- The check finds the first member to repeat a component, and the group where
the component was read before. -/
theorem firstShared?_occurrences_iff {id : ComponentId} {earlier index : Nat} :
    firstShared? [] (occurrences groups) = some (id, earlier, index) ↔
      FirstShared groups id earlier index := by
  rw [firstShared?_eq_some_iff]
  constructor
  · rintro ⟨before, after, cut, distinct, held⟩
    obtain ⟨front, read, member, unread, back, parts, at_index, same, rfl⟩ :=
      exists_of_occurrences_eq cut
    rw [map_fst_occurrences] at distinct
    obtain ⟨group, at_earlier, inside⟩ := mem_occurrences_iff.mp held
    exact .again parts at_index same distinct at_earlier inside
  · rintro ⟨rfl, rfl, rfl, distinct, at_earlier, held⟩
    obtain ⟨after, cut⟩ := exists_occurrences_eq _ _ _ _ _
    rw [← map_fst_occurrences] at distinct
    exact ⟨_, after, cut, distinct,
      mem_occurrences_iff.mpr ⟨_, at_earlier, held⟩⟩

/-! ### What is told about groups that do not pass -/

/-- The tags are those of the components of the application that are in none of
the groups, in strictly ascending order. -/
structure ListsUnplaced (graph : Graph) (groups : List Group)
    (tags : List String) : Prop where
  ascending : tags.Pairwise (· < ·)
  mem_iff : ∀ tag, tag ∈ tags ↔
    ∃ id < graph.size, graph.isExternal id = false ∧
      id ∉ groups.flatMap Group.ids ∧ graph.tag id = tag

/-- There is one list of them. -/
theorem ListsUnplaced.unique {tags tags' : List String}
    (lists : ListsUnplaced graph groups tags)
    (lists' : ListsUnplaced graph groups tags') : tags = tags' :=
  lists.ascending.eq_of_mem_iff lists'.ascending fun tag =>
    (lists.mem_iff tag).trans (lists'.mem_iff tag).symm

theorem listsUnplaced_unplacedIds (formed : graph.WellFormed)
    (groups : List Group) :
    ListsUnplaced graph groups (graph.tagsOf (unplacedIds graph groups)) where
  ascending := by
    have ordered : (unplacedIds graph groups).Pairwise (· < ·) :=
      List.pairwise_lt_range.filter _
    refine List.pairwise_map.mpr (ordered.imp_of_mem ?_)
    intro id other _ found below
    exact formed.tag_lt below (mem_unplacedIds.mp found).1
  mem_iff tag := by
    simp only [Graph.tagsOf, List.mem_map, mem_unplacedIds, and_assoc]

/-- What is told about groups that do not pass their check: the first component
to be repeated or, if none is, the components that they leave out. -/
inductive Refuses (graph : Graph) (groups : List Group) : Fault → Prop where
  | shared {id : ComponentId} {earlier index : Nat}
      (first : FirstShared groups id earlier index) :
      Refuses graph groups (.sharedComponent (graph.tag id) earlier index)
  | unplaced {tags : List String}
      (distinct : (groups.flatMap Group.ids).Nodup) (some_tag : tags ≠ [])
      (lists : ListsUnplaced graph groups tags) :
      Refuses graph groups (.unplaced tags)

theorem checkGroups_eq_error_iff (formed : graph.WellFormed) {fault : Fault} :
    checkGroups graph groups = .error fault ↔ Refuses graph groups fault := by
  have lists := listsUnplaced_unplacedIds formed groups
  constructor
  · intro refused
    cases first : firstShared? [] (occurrences groups) with
    | some found =>
        obtain ⟨id, earlier, index⟩ := found
        rw [checkGroups, first] at refused
        cases refused
        exact .shared (firstShared?_occurrences_iff.mp first)
    | none =>
        have distinct := firstShared?_occurrences_eq_none_iff.mp first
        rw [checkGroups_of_nodup graph distinct] at refused
        split at refused
        · cases refused
        · rename_i some_unplaced
          cases refused
          exact .unplaced distinct (by simpa [Graph.tagsOf]) lists
  · intro refuses
    cases refuses with
    | shared first =>
        rw [checkGroups, firstShared?_occurrences_iff.mpr first]
    | unplaced distinct some_tag lists' =>
        -- The tags are those that the check tells, since there is one such list.
        obtain rfl := lists'.unique lists
        rw [checkGroups_of_nodup graph distinct, if_neg]
        simpa [Graph.tagsOf] using some_tag

/-! ### What the entry modules hold -/

namespace Entry

attribute [ext] Entry

variable {group group' : Group}

/-- What the entry module of a group holds, said of the members as a set. -/
structure MadeOf (graph : Graph) (group : Group) (entry : Entry) : Prop where
  tags : entry.tags.Perm (graph.tagsOf (Group.ids group))
  tags_ascending : entry.tags.Pairwise (· < ·)
  key : entry.key = "entry:" ++ ".".intercalate entry.tags
  modes_ascending : entry.modes.Pairwise (· < ·)
  /-- The style modes are those that components name apart from the default one,
  or the default one alone. -/
  modes : ∀ mode, mode ∈ entry.modes ↔
    (∃ component ∈ Group.components graph group, mode ∈ component.styleModes) ∧
        mode ≠ defaultMode ∨
      mode = defaultMode ∧ ∀ component ∈ Group.components graph group,
        ∀ other ∈ component.styleModes, other = defaultMode
  encapsulations_ascending : entry.encapsulations.Pairwise (· < ·)
  /-- The encapsulations are those of components, and scoped styles beside a
  shadow root. -/
  encapsulations : ∀ mode, mode ∈ entry.encapsulations ↔
    (∃ component ∈ Group.components graph group,
        component.encapsulation = mode) ∨
      mode = .scoped ∧ ∃ component ∈ Group.components graph group,
        component.encapsulation = .shadow

theorem madeOf_ofGroup (formed : graph.WellFormed) (some_member : group ≠ [])
    (distinct : (Group.ids group).Nodup)
    (known : ∀ id ∈ Group.ids group, id < graph.size) :
    MadeOf graph group (ofGroup graph group) where
  tags := tags_ofGroup_perm graph group
  tags_ascending := tags_ofGroup_pairwise formed distinct known
  key := key_ofGroup graph group
  modes_ascending := by
    rw [modes_ofGroup]
    exact entryModes_pairwise _
  modes _ := mem_modes_ofGroup
  encapsulations_ascending := by
    rw [encapsulations_ofGroup]
    exact entryEncapsulations_pairwise _
  encapsulations mode := by
    have some_component := Group.components_ne_nil_of_known some_member known
    rw [encapsulations_ofGroup,
      mem_entryEncapsulations_iff (by simpa using some_component),
      List.mem_map, List.mem_map]

/-- The tags of the entry module are those of the group in strictly ascending
order. -/
theorem MadeOf.tags_eq {entry : Entry} {tags : List String}
    (made : MadeOf graph group entry)
    (perm : (graph.tagsOf (Group.ids group)).Perm tags)
    (ascends : tags.Pairwise (· < ·)) : entry.tags = tags :=
  made.tags_ascending.eq_of_mem_iff ascends
    fun _ => (made.tags.trans perm).mem_iff

/-- The order in which the members of a group are listed does not matter to its
entry module. -/
theorem ofGroup_eq_of_perm (formed : graph.WellFormed) (perm : group.Perm group')
    (distinct : (Group.ids group).Nodup)
    (known : ∀ id ∈ Group.ids group, id < graph.size) :
    ofGroup graph group = ofGroup graph group' := by
  have ids : (Group.ids group).Perm (Group.ids group') := perm.map Member.id
  have ordered := tags_ofGroup_pairwise formed distinct known
  have ordered' := tags_ofGroup_pairwise formed (ids.nodup distinct)
    fun id found => known id (ids.mem_iff.mpr found)
  -- The sort by tag has one result only because no tag is there twice.
  have parts : (ofGroup graph group).parts = (ofGroup graph group').parts := by
    refine List.Perm.eq_of_pairwise ?_ (List.pairwise_map.mp ordered)
      (List.pairwise_map.mp ordered') ?_
    · exact fun _ _ _ _ below above => absurd above (lt_asymm below)
    · exact (List.mergeSort_perm _ _).trans
        ((perm.map _).trans (List.mergeSort_perm _ _).symm)
  have components := Group.components_perm graph perm
  have encapsulations : (ofGroup graph group).encapsulations =
      (ofGroup graph group').encapsulations :=
    entryEncapsulations_eq_of_mem_iff fun _ => (components.map _).mem_iff
  apply Entry.ext
  · rw [key_ofGroup, key_ofGroup, tags, parts, tags]
  · exact parts
  · exact entryModes_eq_of_named fun _ _ => (components.flatMap_right _).mem_iff
  · exact encapsulations
  · rw [requiresScopedStyles_ofGroup, encapsulations,
      requiresScopedStyles_ofGroup]

end Entry

/-! ### Assembling -/

theorem assembleEntries_eq_ok_iff {entries : List Entry} :
    assembleEntries graph groups = .ok entries ↔
      checkGroups graph groups = .ok () ∧
        (groups.filter (!·.isEmpty)).map (Entry.ofGroup graph) = entries := by
  rw [assembleEntries]
  cases checkGroups graph groups <;> simp

theorem assembleEntries_eq_error_iff {fault : Fault} :
    assembleEntries graph groups = .error fault ↔
      checkGroups graph groups = .error fault := by
  rw [assembleEntries]
  cases checkGroups graph groups <;> simp

/-- Groups whose members are listed in another order have the same components. -/
theorem flatMap_ids_perm_of_forall₂ {groups' : List Group}
    (reordered : List.Forall₂ List.Perm groups groups') :
    (groups.flatMap Group.ids).Perm (groups'.flatMap Group.ids) := by
  induction reordered with
  | nil => exact .nil
  | cons perm _ ih => exact (perm.map Member.id).append ih

/-- Groups whose members are listed in another order have the same entry
modules. -/
theorem map_ofGroup_eq_of_forall₂ (formed : graph.WellFormed)
    {groups' : List Group} (reordered : List.Forall₂ List.Perm groups groups')
    (distinct : ∀ group ∈ groups, (Group.ids group).Nodup)
    (known : ∀ group ∈ groups, ∀ id ∈ Group.ids group, id < graph.size) :
    (groups.filter (!·.isEmpty)).map (Entry.ofGroup graph) =
      (groups'.filter (!·.isEmpty)).map (Entry.ofGroup graph) := by
  induction reordered with
  | nil => rfl
  | @cons group group' _ _ perm _ ih =>
      rw [List.forall_mem_cons] at distinct known
      have others := ih distinct.2 known.2
      have alike := Entry.ofGroup_eq_of_perm formed perm distinct.1 known.1
      rw [List.filter_cons, List.filter_cons, perm.isEmpty_eq]
      split
      · rw [List.map_cons, List.map_cons, alike, others]
      · exact others

/-- The entry modules are those of the groups with members, in their order. -/
theorem forall₂_madeOf (formed : graph.WellFormed)
    (distinct : ∀ group ∈ groups, (Group.ids group).Nodup)
    (known : ∀ group ∈ groups, ∀ id ∈ Group.ids group, id < graph.size) :
    List.Forall₂ (Entry.MadeOf graph) (groups.filter (!·.isEmpty))
      ((groups.filter (!·.isEmpty)).map (Entry.ofGroup graph)) := by
  rw [List.forall₂_map_right_iff, List.forall₂_same]
  intro group kept
  obtain ⟨among, some_member⟩ := List.mem_filter.mp kept
  exact Entry.madeOf_ofGroup formed (by simpa using some_member)
    (distinct group among) (known group among)

/-- Whether groups pass their check does not depend on the order in which their
members are listed. -/
theorem checkGroups_ok_of_forall₂ {groups' : List Group}
    (reordered : List.Forall₂ List.Perm groups groups')
    (passed : checkGroups graph groups = .ok ()) :
    checkGroups graph groups' = .ok () := by
  have ids := flatMap_ids_perm_of_forall₂ reordered
  obtain ⟨distinct, complete⟩ := checkGroups_eq_ok_iff.mp passed
  exact checkGroups_eq_ok_iff.mpr ⟨ids.nodup distinct,
    fun id below own => ids.mem_iff.mp (complete id below own)⟩

/-- Groups of components are assembled exactly if no component occurs twice in
them and every component of the application occurs.  Otherwise the first
component to be repeated is told or, if none is, those that are missing.  The
entry modules are those of the groups with members, in their order, and it does
not matter to them in what order the members of a group are listed. -/
theorem assembleEntries_settles {components : List Component}
    {mentions : Mentions} {documentTags : List String}
    (built : (Graph.build components mentions documentTags).outcome = .ok graph)
    (known : ∀ id ∈ groups.flatMap Group.ids, id < graph.size) :
    ((∃ entries, assembleEntries graph groups = .ok entries) ↔
      (groups.flatMap Group.ids).Nodup ∧
        ∀ id < graph.size, graph.isExternal id = false →
          id ∈ groups.flatMap Group.ids) ∧
    (∀ fault, assembleEntries graph groups = .error fault ↔
      Refuses graph groups fault) ∧
    ∀ entries, assembleEntries graph groups = .ok entries →
      List.Forall₂ (Entry.MadeOf graph) (groups.filter (!·.isEmpty)) entries ∧
      ∀ groups', List.Forall₂ List.Perm groups groups' →
        assembleEntries graph groups' = .ok entries := by
  have formed := Graph.wellFormed_of_build built
  refine ⟨?_, fun fault => ?_, fun entries assembled => ?_⟩
  · simp only [assembleEntries_eq_ok_iff, exists_and_left, exists_eq',
      and_true]
    exact checkGroups_eq_ok_iff
  · rw [assembleEntries_eq_error_iff, checkGroups_eq_error_iff formed]
  · obtain ⟨passed, rfl⟩ := assembleEntries_eq_ok_iff.mp assembled
    have distinct :=
      (List.nodup_flatMap.mp (checkGroups_eq_ok_iff.mp passed).1).1
    have known_in (group : Group) (among : group ∈ groups) :
        ∀ id ∈ Group.ids group, id < graph.size := fun id found =>
      known id (List.mem_flatMap.mpr ⟨group, among, found⟩)
    refine ⟨forall₂_madeOf formed distinct known_in, ?_⟩
    intro groups' reordered
    exact assembleEntries_eq_ok_iff.mpr
      ⟨checkGroups_ok_of_forall₂ reordered passed,
        (map_ofGroup_eq_of_forall₂ formed reordered distinct known_in).symm⟩

/-- Groups of the shop that repeat the list, and the card and the application
after it, and leave out the row. -/
def overlappingGroups : List Group :=
  [[{ id := 0 }, { id := 3 }], [], [{ id := 1 }, { id := 3 }, { id := 1 }],
    [{ id := 0 }]]

/-- Groups of the shop that leave out the card and the row, and the icon, which
comes from outside. -/
def partialGroups : List Group :=
  [[{ id := 3 }], [], [{ id := 0 }]]

/-- Groups of the shop without the icon. -/
def wholeGroups : List Group :=
  [[{ id := 4, dependents := [3] }, { id := 3 }], [],
    [{ id := 1, dependents := [0] }, { id := 0 }]]

/-- In the shop, the list is told to be repeated although it is not the only one
and the row is missing; where nothing is repeated, what is missing is told, the
icon apart; and the whole shop is assembled from its members in any order. -/
theorem assembleEntries_settles_shop :
    (Graph.build Graph.shopComponents [] []).outcome =
      .ok (Graph.shopGraph []) ∧
    (∀ groups ∈ [overlappingGroups, partialGroups, wholeGroups],
      ∀ id ∈ groups.flatMap Group.ids, id < (Graph.shopGraph []).size) ∧
    assembleEntries (Graph.shopGraph []) overlappingGroups =
      .error (.sharedComponent "shop-list" 0 2) ∧
    assembleEntries (Graph.shopGraph []) partialGroups =
      .error (.unplaced ["shop-card", "shop-row"]) ∧
    ∃ list app, assembleEntries (Graph.shopGraph []) wholeGroups =
        .ok [list, app] ∧
      list.tags = ["shop-list", "shop-row"] ∧
      app.tags = ["shop-app", "shop-card"] ∧
      assembleEntries (Graph.shopGraph []) (wholeGroups.map List.reverse) =
        .ok [list, app] := by
  have built := Graph.outcome_build_shop []
  have formed := Graph.wellFormed_of_build built
  have known : ∀ groups ∈ [overlappingGroups, partialGroups, wholeGroups],
      ∀ id ∈ groups.flatMap Group.ids, id < (Graph.shopGraph []).size := by
    decide
  refine ⟨built, known, ?_, ?_, ?_⟩
  · obtain ⟨-, refused_iff, -⟩ :=
      assembleEntries_settles built (known overlappingGroups (by simp))
    have parts : overlappingGroups = [[{ id := 0 }, { id := 3 }], []] ++
        ([{ id := 1 }] ++ { id := 3 } :: [{ id := 1 }]) :: [[{ id := 0 }]] := rfl
    exact (refused_iff _).mpr
      (.shared (.again parts rfl rfl (by decide) rfl (by decide)))
  · obtain ⟨-, refused_iff, -⟩ :=
      assembleEntries_settles built (known partialGroups (by simp))
    have lists := listsUnplaced_unplacedIds formed partialGroups
    have missing : (Graph.shopGraph []).tagsOf
        (unplacedIds (Graph.shopGraph []) partialGroups) =
          ["shop-card", "shop-row"] := by
      cbv
    rw [missing] at lists
    exact (refused_iff _).mpr (.unplaced (by decide) (by simp) lists)
  · obtain ⟨assembled_iff, -, made⟩ :=
      assembleEntries_settles built (known wholeGroups (by simp))
    obtain ⟨entries, assembled⟩ := assembled_iff.mpr ⟨by decide, by decide⟩
    obtain ⟨made_of, any_order⟩ := made entries assembled
    have kept : wholeGroups.filter (!·.isEmpty) =
        [[{ id := 4, dependents := [3] }, { id := 3 }],
          [{ id := 1, dependents := [0] }, { id := 0 }]] := rfl
    rw [kept] at made_of
    cases made_of with
    | cons list_made rest =>
        cases rest with
        | cons app_made none =>
            cases none
            refine ⟨_, _, assembled,
              list_made.tags_eq (.swap _ _ _) (by decide),
              app_made.tags_eq (.swap _ _ _) (by decide), ?_⟩
            apply any_order
            rw [List.forall₂_map_right_iff, List.forall₂_same]
            exact fun group _ => (List.reverse_perm group).symm

end CodeSplit
