/-
Module: CodeSplit.Proofs.DisplayedPaths
Purpose: a source that is found from a directory is shown from that directory
  with the parts it was declared with.
Main exports:
  Path.stripBase?_of_append, Path.exists_segments_join,
  Path.exists_stripBase?_join, Manifest.displayPath_resolve
-/
import CodeSplit.Manifest
import CodeSplit.ProjectFile
import CodeSplit.Proofs.PathParts

namespace CodeSplit

/-!
The paths in a project file are seen from its directory: they are written behind
it.  The manifest shows files from the same directory on, so it takes the parts of
the directory away again.  Slashes and `.` at the seam are where the two could
fail to cancel, because they are text but no parts.
-/

namespace Path

variable {base path : Path}

/-! ### Taking a base away -/

theorem dropSegments_cons_filler {segment : List Char}
    (filler : isFiller segment = true) (count : Nat)
    (rest : List (List Char)) :
    (dropSegments count (segment :: rest)).dropWhile isFiller =
      (dropSegments count rest).dropWhile isFiller := by
  cases count with
  | zero => rw [dropSegments, dropSegments, List.dropWhile_cons, if_pos filler]
  | succ count => rw [dropSegments, if_pos filler]

theorem dropSegments_headSegments (count : Nat) (head : Head)
    (body : List (List Char)) :
    (dropSegments count (head.segments ++ body)).dropWhile isFiller =
      (dropSegments count body).dropWhile isFiller := by
  cases head with
  | root => exact dropSegments_cons_filler rfl count body
  | here => exact dropSegments_cons_filler rfl count body
  | plain => rfl

/-- Dropping as many segments as some stand for parts leaves what is behind
these. -/
theorem dropSegments_append (before behind : List (List Char)) :
    (dropSegments (before.filterMap part?).length
        (before ++ behind)).dropWhile isFiller =
      behind.dropWhile isFiller := by
  induction before with
  | nil =>
      rw [List.filterMap_nil, List.length_nil, dropSegments, List.nil_append]
  | cons segment rest ih =>
      cases filler : isFiller segment with
      | true =>
          rw [List.filterMap_cons_none (part?_of_isFiller filler),
            List.cons_append, dropSegments_cons_filler filler, ih]
      | false =>
          obtain ⟨part, found, _⟩ := part?_of_not_isFiller filler
          rw [List.filterMap_cons_some found, List.length_cons,
            List.cons_append, dropSegments, filler, if_neg Bool.false_ne_true,
            ih]

/-- Without a base that has the start of a path and the parts of its first
segments, the other segments are left. -/
theorem stripBase?_of_append {before behind : List (List Char)}
    (whole : path.segments = before ++ behind)
    (base_parts : base.parts =
      path.headAndBody.1.parts ++ before.filterMap part?)
    (some_part : base.parts ≠ []) :
    path.stripBase? base =
      some (ofSegments (dropTailFillers (behind.dropWhile isFiller))) := by
  have starts : base.parts.isPrefixOf path.parts = true := by
    apply List.isPrefixOf_iff_prefix.mpr
    rw [base_parts, parts_eq, ← headAndBody_fst, whole, List.filterMap_append,
      ← List.append_assoc]
    exact List.prefix_append _ _
  have count : base.parts.length - path.headAndBody.1.parts.length =
      (before.filterMap part?).length := by
    rw [base_parts, List.length_append, Nat.add_sub_cancel_left]
  rw [stripBase?, if_pos starts]
  cases size : base.parts.length with
  | zero => exact absurd (List.length_eq_zero_iff.mp size) some_part
  | succ more =>
      rw [size] at count
      simp only [count]
      rw [← dropSegments_headSegments _ path.headAndBody.1,
        ← segments_eq_headAndBody, whole, dropSegments_append]
      rfl

/-- Without the empty path, a relative one loses only the fillers at its end. -/
theorem stripBase?_of_empty (relative : path.isAbsolute = false)
    (empty : base.text = "") :
    path.stripBase? base = some (ofSegments
      (path.headAndBody.1.segments ++ dropTailFillers path.headAndBody.2)) := by
  rw [stripBase?, parts_eq_nil_iff.mpr empty, List.isPrefixOf_nil_left,
    if_pos rfl]
  cases start : path.headAndBody.1 with
  | root => exact absurd start (headAndBody_fst_ne_root relative)
  | here => simp [ofHeadAndBody, start, ofSegments, Head.segments]
  | plain => simp [ofHeadAndBody, start, ofSegments, Head.segments]

/-- The fillers at the end of a relative path do not count among its parts. -/
theorem parts_ofSegments_dropTailFillers (relative : path.isAbsolute = false)
    (among : path.headAndBody.1.segments ++
      dropTailFillers path.headAndBody.2 ⊆ path.segments) :
    (ofSegments (path.headAndBody.1.segments ++
      dropTailFillers path.headAndBody.2)).parts = path.parts := by
  have kept : Head.ofSegments (path.headAndBody.1.segments ++
      dropTailFillers path.headAndBody.2) = path.headAndBody.1 := by
    have whole := headAndBody_fst path
    rw [segments_eq_headAndBody] at whole
    cases start : path.headAndBody.1 with
    | root => exact absurd start (headAndBody_fst_ne_root relative)
    | here => rfl
    | plain =>
        rw [start] at whole
        exact Head.ofSegments_of_isPrefix (dropTailFillers_isPrefix _)
          whole.symm
  rw [parts_ofSegments among, kept, List.filterMap_append,
    filterMap_dropTailFillers, ← List.filterMap_append,
    ← segments_eq_headAndBody, headAndBody_fst, parts_eq]

/-! ### Taking away what was joined -/

theorem join_of_empty (empty : base.text = "") : base.join path = path := by
  rw [join, empty]
  split
  · rfl
  · rfl

/-- The segments of a relative path follow those of the base it is joined to, but
for the last one of the base when that is left empty by a slash. -/
theorem exists_segments_join (relative : path.isAbsolute = false)
    (some_text : base.text ≠ "") :
    ∃ before, (base.join path).segments = before ++ path.segments ∧
      Head.ofSegments (before ++ path.segments) =
        Head.ofSegments base.segments ∧
      before.filterMap part? = base.segments.filterMap part? := by
  rw [join, relative, if_neg Bool.false_ne_true]
  split
  · rename_i no_last
    exact absurd
      (String.toList_eq_nil_iff.mp (List.getLast?_eq_none_iff.mp no_last))
      some_text
  · rename_i slash
    obtain ⟨front, whole⟩ := List.getLast?_eq_some_iff.mp slash
    have last : base.segments = splitSlash front ++ [[]] := by
      rw [segments, whole]
      exact splitSlash_append_slash front []
    refine ⟨splitSlash front, ?_, ?_, ?_⟩
    · rw [segments, String.toList_append, whole, List.append_assoc]
      exact splitSlash_append_slash front path.text.toList
    · rw [last]
      apply Head.ofSegments_append_congr (splitSlash_ne_nil front)
      · exact path.segments_ne_nil
      · exact List.cons_ne_nil _ _
    · rw [last, List.filterMap_append]
      exact (List.append_nil _).symm
  · refine ⟨base.segments, ?_, ?_, rfl⟩
    · rw [segments, String.toList_append, String.toList_append,
        List.append_assoc]
      exact splitSlash_append_slash base.text.toList path.text.toList
    · apply Head.ofSegments_append _ base.segments_ne_nil
      exact mt text_eq_empty_iff.mpr some_text

/-- What is left when a base is taken away from a path that was joined to it are
segments of that path, with its parts. -/
theorem exists_stripBase?_join (base : Path)
    (relative : path.isAbsolute = false) :
    ∃ rest, (base.join path).stripBase? base = some (ofSegments rest) ∧
      rest ⊆ path.segments ∧
      (ofSegments rest).parts =
        if base.text = "" then path.parts else withoutHere path.parts := by
  by_cases empty : base.text = ""
  · have among : path.headAndBody.1.segments ++
        dropTailFillers path.headAndBody.2 ⊆ path.segments := by
      rw [segments_eq_headAndBody]
      exact ((List.prefix_append_right_inj _).mpr
        (dropTailFillers_isPrefix _)).subset
    rw [join_of_empty empty, if_pos empty]
    exact ⟨_, stripBase?_of_empty relative empty, among,
      parts_ofSegments_dropTailFillers relative among⟩
  · obtain ⟨before, whole, start, same⟩ := exists_segments_join relative empty
    have base_parts : base.parts =
        (base.join path).headAndBody.1.parts ++ before.filterMap part? := by
      rw [headAndBody_fst, whole, start, same, parts_eq]
    have shortened :=
      dropTailFillers_isPrefix (path.segments.dropWhile isFiller)
    have among := List.Subset.trans shortened.subset
      (List.dropWhile_subset isFiller)
    rw [if_neg empty]
    refine ⟨_, stripBase?_of_append whole base_parts
      (mt parts_eq_nil_iff.mp empty), among, ?_⟩
    rw [parts_ofSegments among, Head.ofSegments_of_isPrefix shortened
      (Head.ofSegments_dropWhile _), filterMap_dropTailFillers,
      filterMap_dropWhile, filterMap_segments relative]
    rfl

end Path

/-! ### Sources in the manifest -/

namespace Manifest

/-- What is left without the directory is shown as it is, if it has no
backslashes. -/
theorem displayPath_of_stripBase? {directory path shown : Path}
    (stripped : path.stripBase? directory = some shown)
    (slashes : '\\' ∉ shown.text.toList) :
    displayPath (some directory) path = shown.text := by
  have kept : (shown.text.toList.map fun c => if c = '\\' then '/' else c) =
      shown.text.toList := by
    apply (List.map_congr_left _).trans (List.map_id _)
    intro c found
    apply if_neg
    rintro rfl
    exact slashes found
  rw [displayPath, Option.bind_some, stripped, Option.getD_some, kept,
    String.ofList_toList]

/-- A source that is declared by a relative path without backslashes is shown from
the directory that it is found from as a relative path with the same parts.  Only
a `.` at the start is lost, and not even that if the directory is the empty
path. -/
theorem displayPath_resolve {project : Project} (directory : Path)
    {index : Nat} {component : Component}
    (at_index : project.components[index]? = some component)
    (relative : component.source.isAbsolute = false)
    (slashes : '\\' ∉ component.source.text.toList) :
    ∃ stored,
      (project.resolve directory).components[index]? = some stored ∧
      Path.isAbsolute ⟨displayPath (some directory) stored.source⟩ = false ∧
      Path.parts ⟨displayPath (some directory) stored.source⟩ =
        if directory.text = "" then component.source.parts
        else Path.withoutHere component.source.parts := by
  obtain ⟨rest, stripped, among, parts⟩ :=
    Path.exists_stripBase?_join directory relative
  have plain : '\\' ∉ (Path.ofSegments rest).text.toList := by
    rw [Path.ofSegments, String.toList_ofList]
    intro found
    rcases Path.mem_joinSlash found with slash | ⟨segment, among', inside⟩
    · cases slash
    · exact slashes (Path.mem_of_mem_splitSlash (among among') inside).1
  have subset : (Path.ofSegments rest).parts ⊆ component.source.parts := by
    rw [parts]
    split
    · exact List.Subset.refl _
    · exact Path.withoutHere_subset _
  refine ⟨{ component with source := directory.join component.source },
    ?_, ?_⟩
  · rw [Project.resolve, List.getElem?_map, at_index]
    rfl
  · rw [displayPath_of_stripBase? stripped plain]
    exact ⟨Path.isAbsolute_of_subset relative subset, parts⟩

/-- A component that is found by a `.`, a double slash and a `..`. -/
def detour : Component where
  tag := "shop-card"
  source := ⟨"./card//../card.js"⟩

/-- The directory ends in slashes and the source starts with a `.`, and all of
them are gone from what is shown. -/
theorem displayPath_resolve_detour :
    ({ components := [detour] } : Project).components[0]? = some detour ∧
    detour.source.isAbsolute = false ∧
    '\\' ∉ detour.source.text.toList ∧
    ∃ stored,
      (Project.resolve { components := [detour] }
        ⟨"shop/..//"⟩).components[0]? = some stored ∧
      Path.isAbsolute ⟨displayPath (some ⟨"shop/..//"⟩) stored.source⟩ = false ∧
      Path.parts ⟨displayPath (some ⟨"shop/..//"⟩) stored.source⟩ =
        [.name "card", .up, .name "card.js"] := by
  have at_index :
      ({ components := [detour] } : Project).components[0]? = some detour := rfl
  have relative : detour.source.isAbsolute = false := by decide
  have slashes : '\\' ∉ detour.source.text.toList := by decide
  exact ⟨at_index, relative, slashes,
    displayPath_resolve ⟨"shop/..//"⟩ at_index relative slashes⟩

end Manifest

end CodeSplit
