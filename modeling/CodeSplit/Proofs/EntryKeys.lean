/-
Module: CodeSplit.Proofs.EntryKeys
Purpose: which entry modules of a plan are emitted under the same name.
Main exports:
  Entry.names, Entry.key_eq_iff, plan_keyed, plan_keyed_alike
-/
import CodeSplit.Proofs.Coverage
import Mathlib

namespace CodeSplit

/-!
The key of an entry module joins its tags with dots, and a tag may hold dots
itself.  So a key does not tell where one tag ends and the next one starts: what
it tells, and all that it tells, are the names between the dots.
-/

/-! ### Joining with dots -/

/-- Cutting what was joined gives the pieces of each part, one after the
other. -/
theorem splitOn_intercalate_eq_flatMap {α : Type} [BEq α] [ReflBEq α] {a : α}
    {parts : List (List α)} (some_part : parts ≠ []) :
    ([a].intercalate parts).splitOn a = parts.flatMap (List.splitOn a) := by
  induction parts with
  | nil => exact absurd rfl some_part
  | cons part rest ih =>
      cases rest with
      | nil => simp
      | cons next rest =>
          rw [List.intercalate_cons_cons, List.append_assoc,
            List.singleton_append, List.splitOn_append_cons_self,
            ih (List.cons_ne_nil _ _), ← List.flatMap_cons]

/-- Lists that are cut alike are alike. -/
theorem splitOn_inj {α : Type} [BEq α] [LawfulBEq α] {a : α}
    {one other : List α} : one.splitOn a = other.splitOn a ↔ one = other := by
  constructor
  · intro same
    calc one
        = [a].intercalate (one.splitOn a) := (List.intercalate_splitOn a).symm
      _ = [a].intercalate (other.splitOn a) := by rw [same]
      _ = other := List.intercalate_splitOn a
  · rintro rfl
    rfl

namespace Entry

/-- The names in the tags of an entry module, which are the pieces of the tags
between their dots. -/
def names (entry : Entry) : List (List Char) :=
  entry.tags.flatMap fun tag => tag.toList.splitOn '.'

variable {graph : Graph} {group : Group}

/-- The key of an entry module is made of its tags as they stand. -/
theorem key_ofGroup (graph : Graph) (group : Group) :
    (ofGroup graph group).key =
      "entry:" ++ ".".intercalate (ofGroup graph group).tags := by
  have ordered := tags_ofGroup_pairwise_le graph group
  show "entry:" ++ ".".intercalate ((ofGroup graph group).tags.mergeSort _) = _
  rw [List.mergeSort_of_pairwise (ordered.imp decide_eq_true)]

/-- Cutting what stands behind the prefix of a key gives the names of the entry
module. -/
theorem names_ofGroup (some_tag : (ofGroup graph group).tags ≠ []) :
    (ofGroup graph group).names =
      (".".intercalate (ofGroup graph group).tags).toList.splitOn '.' := by
  have joined : (".".intercalate (ofGroup graph group).tags).toList =
      ['.'].intercalate ((ofGroup graph group).tags.map String.toList) :=
    String.toList_intercalate
  rw [joined, splitOn_intercalate_eq_flatMap (by simpa using some_tag),
    List.flatMap_map]
  rfl

/-- Two entry modules have one key exactly when they have the same names. -/
theorem key_eq_iff {group group' : Group}
    (some_tag : (ofGroup graph group).tags ≠ [])
    (some_tag' : (ofGroup graph group').tags ≠ []) :
    (ofGroup graph group).key = (ofGroup graph group').key ↔
      (ofGroup graph group).names = (ofGroup graph group').names := by
  rw [key_ofGroup, key_ofGroup, names_ofGroup some_tag, names_ofGroup some_tag',
    splitOn_inj, String.toList_inj]
  constructor
  · intro same
    have chars := congrArg String.toList same
    rw [String.toList_append, String.toList_append] at chars
    exact String.toList_inj.mp (List.append_cancel_left chars)
  · intro same
    rw [same]

/-- Without dots in its tags, the names of an entry module are its tags. -/
theorem names_of_undotted {entry : Entry}
    (undotted : ∀ tag ∈ entry.tags, '.' ∉ tag.toList) :
    entry.names = entry.tags.map String.toList := by
  rw [names, List.map_eq_flatMap]
  refine List.flatMap_congr fun tag found => ?_
  exact List.splitOn_eq_singleton (undotted tag found)

end Entry

/-! ### The keys of a plan -/

/-- No tag is in two entry modules of a run, and each holds one. -/
theorem TierRun.pairwise_tags_ne {graph : Graph}
    {bundles : List (List String)} {walks : Walks} (formed : graph.WellFormed)
    (run : TierRun graph bundles walks) :
    run.entryTags.Pairwise (· ≠ ·) := by
  refine (run.entryTags_pairwise formed).imp ?_
  rintro one _ ⟨first, second, starts, starts', below⟩ rfl
  rw [starts] at starts'
  exact absurd (Option.some.inj starts') (ne_of_lt below)

/-- Entry modules of a plan have one key exactly when their tags, in order and
cut at their dots, give the same names.  Two of them with one key are different
modules only if one holds a tag with a dot. -/
theorem plan_keyed {project : Project} {source : Source} {aborted : Bool}
    {plan : Plan} (planned : project.plan source aborted = .ok plan) :
    (∀ one ∈ plan.entries, ∀ other ∈ plan.entries,
      (one.key = other.key ↔ one.names = other.names)) ∧
    plan.entries.Pairwise fun one other =>
      (∀ tag ∈ one.tags ++ other.tags, '.' ∉ tag.toList) →
        one.key ≠ other.key := by
  have valid := (Project.valid_of_plan planned).2
  obtain ⟨run⟩ := valid.exists_run source
  have formed := valid.wellFormed source
  have entries := Project.entries_of_plan planned run
  have keyed : ∀ one ∈ plan.entries, ∀ other ∈ plan.entries,
      (one.key = other.key ↔ one.names = other.names) := by
    have some_tag {group : Group} (among : group ∈ run.finished) :
        (Entry.ofGroup (project.graph source) group).tags ≠ [] := fun none =>
      run.nil_not_mem_entryTags formed
        (List.mem_map.mpr ⟨group, among, none⟩)
    intro one found other found'
    rw [entries] at found found'
    obtain ⟨group, among, rfl⟩ := List.mem_map.mp found
    obtain ⟨group', among', rfl⟩ := List.mem_map.mp found'
    exact Entry.key_eq_iff (some_tag among) (some_tag among')
  have different : plan.entries.Pairwise fun one other =>
      one.tags ≠ other.tags := by
    have pairwise := run.pairwise_tags_ne formed
    rw [TierRun.entryTags, List.pairwise_map] at pairwise
    rw [entries, List.pairwise_map]
    exact pairwise
  refine ⟨keyed, different.imp_of_mem ?_⟩
  intro one other found found' unlike undotted same
  rw [keyed one found other found',
    Entry.names_of_undotted fun tag held =>
      undotted tag (List.mem_append_left _ held),
    Entry.names_of_undotted fun tag held =>
      undotted tag (List.mem_append_right _ held)] at same
  exact unlike
    (List.map_injective_iff.mpr (fun _ _ => String.toList_inj.mp) same)

/-! ### Entry modules under one name -/

/-- Two components with what each of them needs, and dots in two of the tags. -/
def dottedComponents : List Component :=
  [{ tag := "app-cart", source := ⟨"cart.js"⟩,
     dependencies := ["app-item.x-row"] },
    { tag := "app-cart.app-item", source := ⟨"cart-item.js"⟩,
      dependencies := ["x-row"] },
    { tag := "app-item.x-row", source := ⟨"item-row.js"⟩ },
    { tag := "x-row", source := ⟨"row.js"⟩ }]

/-- The application of the four components. -/
def dottedShop : Project where
  components := dottedComponents

/-- The graph of the four components, with what each of them declares. -/
def dottedGraph : Graph where
  nodes :=
    (dottedComponents.zip [[2], [3], [], []]).map fun (component, needed) =>
      { component := component, mentioned := [], dependencies := needed }

/-- Either component with what it needs. -/
def dottedGroups : List Group :=
  [[{ id := 0 }, { id := 2, dependents := [0] }],
    [{ id := 1 }, { id := 3, dependents := [1] }]]

theorem exists_plan_dottedShop :
    ∃ plan, dottedShop.plan Project.silent false = .ok plan ∧
      plan.entries = dottedGroups.map (Entry.ofGroup dottedGraph) := by
  have normal : dottedShop.components.map Component.normalize =
      dottedComponents := by
    decide +kernel
  have grouped : (planGroups dottedGraph dottedShop.bundles {}).outcome.map
      (·.1) = .ok dottedGroups := by
    cbv
  have split : splitByStyling dottedGraph dottedGroups = dottedGroups := by
    cbv
  obtain ⟨plan, planned, entries⟩ := Project.exists_plan_silent normal
    (by decide +kernel) (by decide) rfl (by decide +kernel) grouped
  rw [split] at entries
  exact ⟨plan, planned, entries⟩

/-- The two entry modules have the same names, and so one key. -/
theorem plan_keyed_shop :
    ∃ plan, dottedShop.plan Project.silent false = .ok plan ∧
      ∃ one other, plan.entries = [one, other] ∧ one.names = other.names ∧
        one.key = other.key := by
  obtain ⟨plan, planned, entries⟩ := exists_plan_dottedShop
  rw [dottedGroups, List.map_cons, List.map_cons, List.map_nil] at entries
  refine ⟨plan, planned, _, _, entries, ?_⟩
  rw [(plan_keyed planned).1 _ (by simp [entries]) _ (by simp [entries])]
  apply and_self_iff.mpr
  cbv

/-- Both entry modules have one key, so keys do not tell modules apart. -/
theorem plan_keyed_alike :
    ¬ ∀ (project : Project) (source : Source) (aborted : Bool) (plan : Plan),
      project.plan source aborted = .ok plan →
        plan.entries.Pairwise fun one other => one.key ≠ other.key := by
  intro apart
  obtain ⟨plan, planned, entries⟩ := exists_plan_dottedShop
  have keys : plan.entries.map (·.key) =
      ["entry:app-cart.app-item.x-row", "entry:app-cart.app-item.x-row"] := by
    rw [entries, List.map_map]
    cbv
  have different := List.pairwise_map.mpr (apart _ _ _ _ planned)
  rw [keys] at different
  simp at different

end CodeSplit
