/-
Module: CodeSplit.Proofs.Sources
Purpose: when components can be normalized, what is found in their sources, and
  that a graph can then be built from them.
Main exports:
  Component.normalizeAll_eq_ok_iff, Component.fault_of_normalizeFrom,
  Scan.mem_mentionedIn, Graph.mem_exclude, Graph.lookup_mentionsOf,
  Graph.outcome_ofSources
-/
import CodeSplit.Graph.Sources
import CodeSplit.Proofs.Linking

namespace CodeSplit

/-! ### Normal components -/

namespace Component

@[simp] theorem tag_normalize (component : Component) :
    component.normalize.tag = normalizeTag component.tag := rfl

@[simp] theorem source_normalize (component : Component) :
    component.normalize.source = component.source := by
  rw [normalize]

@[simp] theorem isExternal_normalize (component : Component) :
    component.normalize.isExternal = component.isExternal := by
  rw [normalize]

/-- The normal tags of components, in order. -/
def normalTags (components : List Component) : List String :=
  components.map fun component => normalizeTag component.tag

@[simp] theorem normalTags_cons (component : Component)
    (rest : List Component) :
    normalTags (component :: rest) =
      normalizeTag component.tag :: normalTags rest := rfl

theorem map_tag_normalize (components : List Component) :
    (components.map normalize).map (·.tag) = normalTags components := by
  rw [List.map_map]
  rfl

/-- Components can be normalized after others exactly when their tags are
distinct, not empty, and other ones. -/
theorem normalizeFrom_eq_ok_iff {seen : List String}
    {components normal : List Component} :
    normalizeFrom seen components = .ok normal ↔
      normal = components.map normalize ∧ "" ∉ normalTags components ∧
      (normalTags components).Nodup ∧
      ∀ tag ∈ normalTags components, tag ∉ seen := by
  induction components generalizing seen normal with
  | nil => simp [normalizeFrom, normalTags, eq_comm]
  | cons component rest ih =>
      rw [normalizeFrom, normalTags_cons, List.map_cons, List.nodup_cons,
        List.forall_mem_cons, List.mem_cons, not_or]
      by_cases empty : component.normalize.tag = ""
      · rw [if_pos empty]
        exact iff_of_false (by simp) fun passed => passed.2.1.1 empty.symm
      by_cases repeated : component.normalize.tag ∈ seen
      · rw [if_neg empty, if_pos repeated]
        exact iff_of_false (by simp) fun passed => passed.2.2.2.1 repeated
      rw [if_neg empty, if_neg repeated]
      cases went : normalizeFrom (component.normalize.tag :: seen) rest with
      | error fault =>
          apply iff_of_false (by simp)
          intro given
          obtain ⟨_, ⟨_, none_empty⟩, ⟨once, distinct⟩, _, unseen⟩ := given
          have apart : ∀ tag ∈ normalTags rest,
              tag ∉ component.normalize.tag :: seen := by
            intro tag found among
            rcases List.mem_cons.mp among with rfl | earlier
            · exact once found
            · exact unseen tag found earlier
          rw [ih.mpr ⟨rfl, none_empty, distinct, apart⟩] at went
          cases went
      | ok others =>
          obtain ⟨rfl, none_empty, distinct, unseen⟩ := ih.mp went
          have once : normalizeTag component.tag ∉ normalTags rest :=
            fun found => unseen _ found List.mem_cons_self
          have apart : ∀ tag ∈ normalTags rest, tag ∉ seen :=
            fun tag found earlier =>
              unseen tag found (List.mem_cons_of_mem _ earlier)
          constructor
          · intro same
            exact ⟨(Except.ok.inj same).symm, ⟨Ne.symm empty, none_empty⟩,
              ⟨once, distinct⟩, repeated, apart⟩
          · intro given
            obtain ⟨rfl, _⟩ := given
            rfl

/-- Components can be normalized exactly when their tags are distinct and not
empty. -/
theorem normalizeAll_eq_ok_iff {components normal : List Component} :
    normalizeAll components = .ok normal ↔
      normal = components.map normalize ∧ "" ∉ normalTags components ∧
      (normalTags components).Nodup := by
  rw [normalizeAll, normalizeFrom_eq_ok_iff]
  simp

/-- Components that cannot be normalized have an empty tag or a repeated one. -/
theorem fault_of_normalizeFrom {seen : List String}
    {components : List Component} {fault : Fault}
    (stopped : normalizeFrom seen components = .error fault) :
    (∃ source, fault = .emptyTag source) ∨ ∃ tag, fault = .repeatedTag tag := by
  fun_induction normalizeFrom seen components with
  | case1 => cases stopped
  | case2 => exact Or.inl ⟨_, (Except.error.inj stopped).symm⟩
  | case3 => exact Or.inr ⟨_, (Except.error.inj stopped).symm⟩
  | case4 _ _ _ _ _ _ _ went ih => exact ih (went.trans stopped)
  | case5 => cases stopped

end Component

/-! ### What a source mentions -/

namespace Markup

/-- Characters do not occur in fewer characters. -/
theorem not_occursIn_of_length_lt {part whole : List Char}
    (longer : whole.length < part.length) : occursIn part whole = false := by
  rw [Bool.eq_false_iff, ne_eq, occursIn_iff]
  intro given
  obtain ⟨before, after, rfl⟩ := given
  simp only [List.length_append] at longer
  omega

/-- A text without characters mentions nothing. -/
theorem mentions_of_empty_text (tag : String) : mentions "" tag = false := by
  have normal : normalizeChars "".toList = [markupBoundary, markupBoundary] :=
    rfl
  rw [mentions, mentionsIn, normal]
  cases tag.toList with
  | nil => rfl
  | cons first rest =>
      rw [not_occursIn_of_length_lt (by simp),
        not_occursIn_of_length_lt (by simp), Bool.or_false, Bool.and_false]

end Markup

namespace Scan

/-- A text that is searched mentions the tags that the rule for mentions
finds, and not the component's own. -/
theorem mem_mentionedIn {tags : List String} {own? : Option String}
    {text tag : String} :
    tag ∈ mentionedIn tags own? text ↔
      tag ∈ tags ∧ some tag ≠ own? ∧ Markup.mentions text tag = true := by
  rw [mentionedIn]
  split
  · rename_i empty
    rw [empty]
    simp [Markup.mentions_of_empty_text]
  · simp [Markup.mentions]

end Scan

namespace Graph

variable {source : Source} {components : List Component}

theorem mem_sortedTags {tag : String} :
    tag ∈ sortedTags components ↔ tag ∈ components.map (·.tag) :=
  List.mem_mergeSort

/-- The unreadable tags are those of the components whose output cannot be
read. -/
theorem mem_unreadableTags {tag : String} :
    tag ∈ unreadableTags (scanComponents source components) ↔
      ∃ component ∈ components, component.tag = tag ∧
        ∃ cause, source component.source = .error cause := by
  rw [unreadableTags, scanComponents, List.filterMap_map, List.mem_filterMap]
  refine exists_congr fun component => and_congr_right fun _ => ?_
  rw [Function.comp_apply, Scan.ofSource]
  cases source component.source with
  | ok text => simp
  | error cause => simp

/-- The components that are left are those with other tags. -/
theorem mem_exclude {tags : List String} {component : Component} :
    component ∈ exclude tags components ↔
      ∃ old ∈ components, old.tag ∉ tags ∧
        { old with
          dependencies := old.dependencies.filter (· ∉ tags) } = component := by
  simp [exclude, and_assoc]

theorem tags_exclude_sublist (tags : List String)
    (components : List Component) :
    ((exclude tags components).map (·.tag)).Sublist
      (components.map (·.tag)) := by
  rw [exclude, List.map_map]
  exact List.filter_sublist.map _

/-- Mentions are kept for the tags of components, in their order. -/
theorem tags_mentionsOf_sublist (scans : List (Component × Scan)) :
    ((mentionsOf scans).map Prod.fst).Sublist (scans.map (·.1.tag)) := by
  induction scans with
  | nil => exact .slnil
  | cons scan rest ih =>
      obtain ⟨component, outcome⟩ := scan
      cases outcome with
      | ok mentioned => exact ih.cons_cons component.tag
      | error cause => exact ih.cons component.tag

theorem tags_scanComponents (source : Source) (components : List Component) :
    (scanComponents source components).map (·.1.tag) =
      components.map (·.tag) := by
  rw [scanComponents, List.map_map]
  rfl

/-- Among pairs with distinct first parts, each is the one that is looked up. -/
theorem lookup_eq_some_of_mem {α β : Type} [BEq α] [LawfulBEq α]
    {pairs : List (α × β)} (distinct : (pairs.map Prod.fst).Nodup) {key : α}
    {value : β} (among : (key, value) ∈ pairs) :
    pairs.lookup key = some value := by
  obtain ⟨before, after, rfl⟩ := List.append_of_mem among
  refine List.lookup_eq_some_iff.mpr ⟨before, after, rfl, ?_⟩
  intro pair earlier
  rw [List.map_append, List.map_cons] at distinct
  have fresh := (List.nodup_cons.mp (List.perm_middle.nodup distinct)).1
  rw [bne_iff_ne]
  intro same
  have found : pair.1 ∈ before.map Prod.fst := List.mem_map_of_mem earlier
  exact fresh (List.mem_append_left _ (same ▸ found))

/-- Among pairs with distinct first parts, those that are looked up are those
that are there. -/
theorem lookup_eq_some_iff_mem {α β : Type} [BEq α] [LawfulBEq α]
    {pairs : List (α × β)} (distinct : (pairs.map Prod.fst).Nodup) {key : α}
    {value : β} : pairs.lookup key = some value ↔ (key, value) ∈ pairs := by
  refine ⟨fun held => ?_, lookup_eq_some_of_mem distinct⟩
  obtain ⟨before, after, rfl, _⟩ := List.lookup_eq_some_iff.mp held
  simp

/-- Where no tag is there twice, the mentions kept for a tag are those found in
its component's output. -/
theorem lookup_mentionsOf (distinct : (components.map (·.tag)).Nodup)
    {component : Component} (among : component ∈ components) {text : String}
    (read : source component.source = .ok text) :
    (mentionsOf (scanComponents source components)).lookup component.tag =
      some (Scan.mentionedIn (sortedTags components) (some component.tag)
        text) := by
  rw [← tags_scanComponents source] at distinct
  refine lookup_eq_some_of_mem
    (distinct.sublist (tags_mentionsOf_sublist _)) ?_
  apply List.mem_filterMap.mpr
  refine ⟨_, List.mem_map_of_mem among, ?_⟩
  simp only [Scan.ofSource, read]

/-- Of the tags of components, those are kept for a component that its output
mentions, without its own. -/
theorem mem_lookup_mentionsOf (distinct : (components.map (·.tag)).Nodup)
    {component : Component} (among : component ∈ components) {text : String}
    (read : source component.source = .ok text) {tag : String}
    (candidate : tag ∈ components.map (·.tag)) :
    tag ∈ ((mentionsOf (scanComponents source components)).lookup
        component.tag).getD [] ↔
      tag ≠ component.tag ∧ Markup.mentions text tag = true := by
  rw [lookup_mentionsOf distinct among read, Option.getD_some,
    Scan.mem_mentionedIn, and_iff_right (mem_sortedTags.mpr candidate), ne_eq,
    Option.some_inj]

/-! ### Building a graph from sources -/

/-- The tags that the root document mentions, if there is one and it can be
read. -/
def documentTags (source : Source) (tags : List String) :
    Option Path → List String
  | none => []
  | some path =>
      match Scan.ofSource source tags none path with
      | .ok mentioned => mentioned
      | .error _ => []

theorem outcome_scanDocument (source : Source) (tags : List String)
    (document? : Option Path) :
    (scanDocument source tags document?).outcome =
      .ok (documentTags source tags document?) := by
  cases document? with
  | none => rfl
  | some path =>
      rw [scanDocument, documentTags]
      cases Scan.ofSource source tags none path with
      | ok mentioned => rfl
      | error cause => rfl

theorem mem_documentTags {tags : List String} {document? : Option Path}
    {tag : String} :
    tag ∈ documentTags source tags document? ↔
      tag ∈ tags ∧ ∃ path text, document? = some path ∧
        source path = .ok text ∧ Markup.mentions text tag = true := by
  cases document? with
  | none => simp [documentTags]
  | some path =>
      rw [documentTags, Scan.ofSource]
      cases read : source path with
      | ok text => simp [Scan.mem_mentionedIn, read]
      | error cause => simp [read]

/-- The components whose output can be read, without unreadable ones among what
they declare, in the order of their tags. -/
def readableComponents (source : Source) (components : List Component) :
    List Component :=
  orderByTag
    (exclude (unreadableTags (scanComponents source components)) components)

/-- The graph of components whose sources are read. -/
def sourceGraph (source : Source) (components : List Component)
    (document? : Option Path) : Graph :=
  link (readableComponents source components)
    (mentionsOf (scanComponents source components))
    (documentTags source (sortedTags components) document?)

theorem nodup_exclude (distinct : (components.map (·.tag)).Nodup)
    (tags : List String) :
    ((exclude tags components).map (·.tag)).Nodup :=
  distinct.sublist (tags_exclude_sublist tags components)

/-- A build that is called off gives no graph. -/
theorem outcome_ofSources_aborted (document? : Option Path) :
    (ofSources source true components document?).outcome =
      .error .aborted := rfl

/-- From components with distinct tags there is a graph, whatever can be read of
their sources. -/
theorem outcome_ofSources (distinct : (components.map (·.tag)).Nodup)
    (document? : Option Path) :
    (ofSources source false components document?).outcome =
      .ok (sourceGraph source components document?) := by
  rw [ofSources, Planning.outcome_bind_of_ok rfl, if_neg Bool.false_ne_true]
  dsimp only
  rw [Planning.outcome_bind_of_ok rfl,
    Planning.outcome_bind_of_ok (outcome_scanDocument _ _ _),
    Planning.outcome_bind_of_ok rfl,
    Planning.outcome_bind_of_ok (outcome_build _ _ (nodup_exclude distinct _)),
    Planning.outcome_bind_of_ok rfl]
  rfl

/-- The graph that is built from sources is well-formed. -/
theorem wellFormed_sourceGraph (source : Source)
    (distinct : (components.map (·.tag)).Nodup) (document? : Option Path) :
    (sourceGraph source components document?).WellFormed :=
  wellFormed_of_build (outcome_build _ _ (nodup_exclude distinct _))

end Graph

end CodeSplit
