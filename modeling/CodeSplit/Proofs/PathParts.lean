/-
Module: CodeSplit.Proofs.PathParts
Purpose: the parts of a path, read off the segments between its slashes.
Main exports:
  Path.splitSlash_joinSlash, Path.Head.ofSegments, Path.parts_eq,
  Path.root_mem_parts_iff, Path.withoutHere, Path.parts_ofSegments
-/
import CodeSplit.Path
import Mathlib.Data.List.DropRight

namespace CodeSplit

/-!
Joining works on the text of a path and taking a base away on its parts.  Between
the two are the segments that the slashes leave: their first one decides how the
path starts, and all others stand for a part or for nothing, wherever they are.
-/

namespace Path

/-! ### Segments -/

theorem splitSlash_eq_splitOn (cs : List Char) :
    splitSlash cs = cs.splitOn '/' := by
  unfold splitSlash
  induction cs with
  | nil => rfl
  | cons c cs ih =>
      rw [splitWhere, List.splitOn_cons_eq_if_modifyHead, ih]
      cases found : cs.splitOn '/' with
      | nil => exact absurd found (List.splitOn_ne_nil _ _)
      | cons segment rest => simp

theorem joinSlash_eq_intercalate (segments : List (List Char)) :
    joinSlash segments = ['/'].intercalate segments := by
  unfold joinSlash
  induction segments with
  | nil => rfl
  | cons segment rest ih =>
      cases rest with
      | nil => simp [joinWith]
      | cons next rest =>
          rw [joinWith, ih, List.intercalate_cons_cons, List.append_assoc,
            List.singleton_append]
          exact List.cons_ne_nil next rest

/-- There is always a first segment. -/
theorem splitSlash_ne_nil (cs : List Char) : splitSlash cs ≠ [] :=
  splitWhere_ne_nil _ cs

/-- A slash parts the segments before it from those behind it. -/
theorem splitSlash_append_slash (before behind : List Char) :
    splitSlash (before ++ '/' :: behind) =
      splitSlash before ++ splitSlash behind := by
  simp only [splitSlash_eq_splitOn, List.splitOn_append_cons_self]

/-- Splitting what was joined gives the segments, if these have no slashes. -/
theorem splitSlash_joinSlash {segments : List (List Char)}
    (some_segment : segments ≠ [])
    (plain : ∀ segment ∈ segments, '/' ∉ segment) :
    splitSlash (joinSlash segments) = segments := by
  rw [splitSlash_eq_splitOn, joinSlash_eq_intercalate,
    List.splitOn_intercalate '/' plain some_segment]

/-- Segments are made of the characters of the text other than slashes. -/
theorem mem_of_mem_splitSlash {cs segment : List Char} {c : Char}
    (among : segment ∈ splitSlash cs) (found : c ∈ segment) :
    c ∈ cs ∧ c ≠ '/' := by
  induction cs generalizing segment with
  | nil =>
      rw [List.mem_singleton.mp among] at found
      cases found
  | cons first cs ih =>
      have below {other : List Char} (among : other ∈ splitSlash cs)
          (found : c ∈ other) : c ∈ first :: cs ∧ c ≠ '/' :=
        (ih among found).imp_left (List.mem_cons_of_mem first)
      rw [splitSlash_eq_splitOn, List.splitOn_cons_eq_if_modifyHead,
        ← splitSlash_eq_splitOn] at among
      split at among
      · rcases List.mem_cons.mp among with rfl | among
        · cases found
        · exact below among found
      · rename_i other
        obtain ⟨part, rest, parts⟩ :=
          List.exists_cons_of_ne_nil (splitSlash_ne_nil cs)
        rw [parts, List.modifyHead_cons] at among
        rw [parts] at below
        rcases List.mem_cons.mp among with rfl | among
        · rcases List.mem_cons.mp found with rfl | found
          · exact ⟨List.mem_cons_self, by simpa using other⟩
          · exact below List.mem_cons_self found
        · exact below (List.mem_cons_of_mem part among) found

/-- Joining adds no characters but slashes. -/
theorem mem_joinSlash {segments : List (List Char)} {c : Char}
    (found : c ∈ joinSlash segments) :
    c = '/' ∨ ∃ segment ∈ segments, c ∈ segment := by
  unfold joinSlash at found
  induction segments with
  | nil => cases found
  | cons segment rest ih =>
      cases rest with
      | nil => exact Or.inr ⟨segment, List.mem_cons_self, found⟩
      | cons next rest =>
          rw [joinWith, List.mem_append, List.mem_cons] at found
          · rcases found with found | rfl | found
            · exact Or.inr ⟨segment, List.mem_cons_self, found⟩
            · exact Or.inl rfl
            · rcases ih found with slash | ⟨other, among, found⟩
              · exact Or.inl slash
              · exact Or.inr ⟨other, List.mem_cons_of_mem _ among, found⟩
          · exact List.cons_ne_nil next rest

/-! ### How a path starts -/

/-- The text of a path between its slashes. -/
def segments (path : Path) : List (List Char) :=
  splitSlash path.text.toList

/-- The path with the given segments. -/
def ofSegments (segments : List (List Char)) : Path :=
  ⟨String.ofList (joinSlash segments)⟩

theorem segments_ne_nil (path : Path) : path.segments ≠ [] :=
  splitSlash_ne_nil _

theorem joinSlash_segments (path : Path) :
    joinSlash path.segments = path.text.toList :=
  joinSlash_splitSlash _

theorem text_eq_empty_iff {path : Path} :
    path.text = "" ↔ path.segments = [[]] := by
  constructor
  · intro empty
    rw [segments, empty]
    rfl
  · intro given
    rw [← String.toList_inj, ← joinSlash_segments, given]
    rfl

namespace Head

/-- The start that segments make. -/
def ofSegments : List (List Char) → Head
  | [] :: _ :: _ => .root
  | ['.'] :: _ => .here
  | _ => .plain

/-- The segments that make a start. -/
def segments : Head → List (List Char)
  | .root => [[]]
  | .here => [['.']]
  | .plain => []

variable {before behind behind' : List (List Char)}

theorem ofSegments_cons {segment : List Char} (some_char : segment ≠ [])
    (rest : List (List Char)) :
    ofSegments (segment :: rest) =
      if segment = ['.'] then .here else .plain := by
  unfold ofSegments
  split
  · rename_i found
    exact absurd (List.cons.inj found).1 some_char
  · rename_i found
    rw [if_pos (List.cons.inj found).1]
  · rename_i noHere
    rw [if_neg fun dot => noHere rest (congrArg (· :: rest) dot)]

/-- Segments decide about the start whatever follows, unless all that they hold
is the empty one. -/
theorem ofSegments_append (behind : List (List Char))
    (some_segment : before ≠ []) (other : before ≠ [[]]) :
    ofSegments (before ++ behind) = ofSegments before := by
  cases before with
  | nil => exact absurd rfl some_segment
  | cons segment rest =>
      by_cases empty : segment = []
      · cases rest with
        | nil => exact absurd (congrArg (· :: []) empty) other
        | cons next rest =>
            rw [empty]
            rfl
      · rw [List.cons_append, ofSegments_cons empty, ofSegments_cons empty]

/-- Of what follows some segments, only whether it is there matters to the
start. -/
theorem ofSegments_append_congr (some_segment : before ≠ [])
    (some_behind : behind ≠ []) (some_behind' : behind' ≠ []) :
    ofSegments (before ++ behind) = ofSegments (before ++ behind') := by
  by_cases empty : before = [[]]
  · obtain ⟨segment, rest, rfl⟩ := List.exists_cons_of_ne_nil some_behind
    obtain ⟨segment', rest', rfl⟩ := List.exists_cons_of_ne_nil some_behind'
    rw [empty]
    rfl
  · rw [ofSegments_append _ some_segment empty,
      ofSegments_append _ some_segment empty]

theorem ofSegments_of_isPrefix (starts : before <+: behind)
    (plain : ofSegments behind = .plain) : ofSegments before = .plain := by
  obtain ⟨others, rfl⟩ := starts
  unfold ofSegments
  split
  · cases plain
  · cases plain
  · rfl

theorem ofSegments_dropWhile (segments : List (List Char)) :
    ofSegments (segments.dropWhile isFiller) = .plain := by
  induction segments with
  | nil => rfl
  | cons segment rest ih =>
      cases filler : isFiller segment with
      | true => rw [List.dropWhile_cons, if_pos filler, ih]
      | false =>
          have solid : ¬ (segment = [] ∨ segment = ['.']) := by
            simpa [isFiller] using filler
          rw [List.dropWhile_cons, filler, if_neg Bool.false_ne_true,
            ofSegments_cons (mt Or.inl solid), if_neg (mt Or.inr solid)]

end Head

variable {path : Path}

theorem segments_eq_headAndBody (path : Path) :
    path.segments = path.headAndBody.1.segments ++ path.headAndBody.2 := by
  unfold segments headAndBody
  split
  · assumption
  · assumption
  · rfl

theorem headAndBody_fst (path : Path) :
    path.headAndBody.1 = Head.ofSegments path.segments := by
  unfold segments headAndBody
  split
  · rename_i given
    rw [given]
    rfl
  · rename_i given
    rw [given]
    rfl
  · rename_i noRoot noHere
    unfold Head.ofSegments
    split
    · rename_i given
      exact absurd given (noRoot _ _)
    · rename_i given
      exact absurd given (noHere _)
    · rfl

theorem isAbsolute_iff :
    path.isAbsolute = true ↔ Head.ofSegments path.segments = .root := by
  rw [isAbsolute, decide_eq_true_iff]
  constructor
  · intro slash
    obtain ⟨rest, whole⟩ := List.head?_eq_some_iff.mp slash
    have parted := splitSlash_append_slash [] rest
    rw [List.nil_append, ← whole] at parted
    rw [segments, parted]
    obtain ⟨segment, others, more⟩ :=
      List.exists_cons_of_ne_nil (splitSlash_ne_nil rest)
    rw [more]
    rfl
  · intro root
    rw [← joinSlash_segments]
    unfold Head.ofSegments at root
    split at root
    · rename_i given
      rw [given]
      rfl
    · cases root
    · cases root

theorem headAndBody_fst_ne_root (relative : path.isAbsolute = false) :
    path.headAndBody.1 ≠ .root := by
  rw [headAndBody_fst, ne_eq, ← isAbsolute_iff, relative]
  exact Bool.false_ne_true

/-! ### Parts -/

theorem part?_of_isFiller {segment : List Char}
    (filler : isFiller segment = true) : part? segment = none := by
  rw [part?, if_pos filler]

theorem part?_of_not_isFiller {segment : List Char}
    (solid : isFiller segment = false) :
    ∃ part, part? segment = some part ∧ part ≠ .root ∧ part ≠ .here := by
  rw [part?, solid, if_neg Bool.false_ne_true]
  split
  · exact ⟨.up, rfl, nofun, nofun⟩
  · exact ⟨_, rfl, nofun, nofun⟩

theorem filterMap_headSegments (head : Head) :
    head.segments.filterMap part? = [] := by
  cases head with
  | root => rfl
  | here => rfl
  | plain => rfl

theorem filterMap_dropWhile (segments : List (List Char)) :
    (segments.dropWhile isFiller).filterMap part? =
      segments.filterMap part? := by
  induction segments with
  | nil => rfl
  | cons segment rest ih =>
      rw [List.dropWhile_cons]
      split
      · rename_i filler
        rw [ih, List.filterMap_cons_none (part?_of_isFiller filler)]
      · rfl

theorem filterMap_dropTailFillers (segments : List (List Char)) :
    (dropTailFillers segments).filterMap part? =
      segments.filterMap part? := by
  rw [dropTailFillers, List.filterMap_reverse, filterMap_dropWhile,
    List.filterMap_reverse, List.reverse_reverse]

/-- No segment behind the start stands for a start. -/
theorem ne_of_mem_filterMap {part : PathPart} {segments : List (List Char)}
    (among : part ∈ segments.filterMap part?) :
    part ≠ .root ∧ part ≠ .here := by
  obtain ⟨segment, _, found⟩ := List.mem_filterMap.mp among
  cases solid : isFiller segment with
  | true =>
      rw [part?_of_isFiller solid] at found
      cases found
  | false =>
      obtain ⟨other, found', others⟩ := part?_of_not_isFiller solid
      obtain rfl := Option.some.inj (found.symm.trans found')
      exact others

/-- The parts of a path are its start and what its segments stand for. -/
theorem parts_eq (path : Path) :
    path.parts =
      (Head.ofSegments path.segments).parts ++
        path.segments.filterMap part? := by
  rw [← headAndBody_fst, segments_eq_headAndBody, List.filterMap_append,
    filterMap_headSegments, List.nil_append]
  rfl

/-- Absolute paths are those that have the root among their parts. -/
theorem root_mem_parts_iff : .root ∈ path.parts ↔ path.isAbsolute = true := by
  have behind : .root ∉ path.segments.filterMap part? :=
    fun among => (ne_of_mem_filterMap among).1 rfl
  rw [isAbsolute_iff, parts_eq, List.mem_append]
  cases Head.ofSegments path.segments <;> simp [Head.parts, behind]

/-- A path whose parts are among those of a relative one is relative. -/
theorem isAbsolute_of_subset {shown : Path}
    (relative : path.isAbsolute = false) (among : shown.parts ⊆ path.parts) :
    shown.isAbsolute = false := by
  rw [← Bool.not_eq_true, ← root_mem_parts_iff] at *
  exact fun found => relative (among found)

/-- Only the empty path has no parts. -/
theorem parts_eq_nil_iff : path.parts = [] ↔ path.text = "" := by
  rw [text_eq_empty_iff, parts_eq, List.append_eq_nil_iff]
  constructor
  · rintro ⟨no_start, no_parts⟩
    cases given : path.segments with
    | nil => exact absurd given path.segments_ne_nil
    | cons segment rest =>
        rw [given] at no_start no_parts
        cases filler : isFiller segment with
        | false =>
            obtain ⟨part, found, _⟩ := part?_of_not_isFiller filler
            rw [List.filterMap_cons_some found] at no_parts
            cases no_parts
        | true =>
            have empty : segment = [] ∨ segment = ['.'] := by
              simpa [isFiller] using filler
            rcases empty with rfl | rfl
            · cases rest with
              | nil => rfl
              | cons => cases no_start
            · cases no_start
  · intro given
    rw [given]
    exact ⟨rfl, rfl⟩

/-- The parts without a `.` at their start. -/
def withoutHere : List PathPart → List PathPart
  | .here :: rest => rest
  | parts => parts

theorem withoutHere_subset (parts : List PathPart) :
    withoutHere parts ⊆ parts := by
  unfold withoutHere
  split
  · exact List.subset_cons_self _ _
  · exact List.Subset.refl _

theorem withoutHere_of_not_mem {parts : List PathPart}
    (others : .here ∉ parts) : withoutHere parts = parts := by
  unfold withoutHere
  split
  · exact absurd List.mem_cons_self others
  · rfl

/-- The segments of a relative path stand for its parts, but not for a `.` at the
start. -/
theorem filterMap_segments (relative : path.isAbsolute = false) :
    path.segments.filterMap part? = withoutHere path.parts := by
  rw [parts_eq, ← headAndBody_fst]
  cases start : path.headAndBody.1 with
  | root => exact absurd start (headAndBody_fst_ne_root relative)
  | here => rfl
  | plain =>
      symm
      apply withoutHere_of_not_mem
      exact fun among => (ne_of_mem_filterMap among).2 rfl

/-- Some segments of a path make the start and stand for the parts of the path
with these segments alone. -/
theorem parts_ofSegments {some_segments : List (List Char)}
    (among : some_segments ⊆ path.segments) :
    (ofSegments some_segments).parts =
      (Head.ofSegments some_segments).parts ++
        some_segments.filterMap part? := by
  rw [parts_eq, ofSegments, segments, String.toList_ofList]
  cases some_segments with
  | nil => rfl
  | cons segment rest =>
      rw [splitSlash_joinSlash (List.cons_ne_nil _ _)]
      intro other found slash
      exact (mem_of_mem_splitSlash (among found) slash).2 rfl

theorem dropTailFillers_isPrefix (segments : List (List Char)) :
    dropTailFillers segments <+: segments :=
  List.rdropWhile_prefix isFiller segments

end Path

end CodeSplit
