/-
Module: CodeSplit.Path
Purpose: paths as they are written, and the steps they stand for.
Main exports:
  Path, Path.parts, Path.join, Path.parent?, Path.stripBase?
-/
import CodeSplit.Separated

namespace CodeSplit

/-!
A path keeps the text it was written with, so that it can be shown again
unchanged.  Two paths lead to the same place when their `parts` agree: repeated
slashes, a trailing slash and a `.` inside the path add nothing, while a leading
`.` and every `..` are parts of their own.
-/

/-- A path as it was written. -/
structure Path where
  text : String
deriving Repr, DecidableEq, Inhabited

/-- One step of a path. -/
inductive PathPart where
  /-- The root, at the start of an absolute path. -/
  | root
  /-- A `.` at the start of a relative path. -/
  | here
  /-- A `..`. -/
  | up
  /-- A name. -/
  | name (text : String)
deriving Repr, DecidableEq

namespace Path

/-! ### Segments -/

/-- The text between slashes. -/
def splitSlash (cs : List Char) : List (List Char) :=
  splitWhere (fun c => decide (c = '/')) cs

/-- The segments with slashes between them. -/
def joinSlash (segments : List (List Char)) : List Char :=
  joinWith '/' segments

/-- Joining the segments gives back the text that was split. -/
theorem joinSlash_splitSlash (cs : List Char) :
    joinSlash (splitSlash cs) = cs :=
  joinWith_splitWhere '/' cs

/-- A segment that leads nowhere: an empty one, or a `.`. -/
def isFiller (segment : List Char) : Bool :=
  segment = [] || segment = ['.']

/-- The segments without the fillers at their end. -/
def dropTailFillers (segments : List (List Char)) : List (List Char) :=
  (segments.reverse.dropWhile isFiller).reverse

/-- What a segment behind the start of a path stands for. -/
def part? (segment : List Char) : Option PathPart :=
  if isFiller segment then none
  else if segment = ['.', '.'] then some .up
  else some (.name (String.ofList segment))

/-- The start of a path. -/
inductive Head where
  | root
  | here
  | plain
deriving Repr, DecidableEq

/-- The start of the path and the segments that follow it. -/
def headAndBody (path : Path) : Head × List (List Char) :=
  match splitSlash path.text.toList with
  | [] :: segment :: rest => (.root, segment :: rest)
  | ['.'] :: rest => (.here, rest)
  | segments => (.plain, segments)

/-- The path with the given start and segments. -/
def ofHeadAndBody (head : Head) (body : List (List Char)) : Path :=
  match head with
  | .root => ⟨String.ofList ('/' :: joinSlash body)⟩
  | .here => ⟨String.ofList (joinSlash (['.'] :: body))⟩
  | .plain => ⟨String.ofList (joinSlash body)⟩

/-! ### Parts -/

/-- The part that the start of a path stands for. -/
def Head.parts : Head → List PathPart
  | .root => [.root]
  | .here => [.here]
  | .plain => []

/-- The steps the path stands for, in order. -/
def parts (path : Path) : List PathPart :=
  let (head, body) := path.headAndBody
  head.parts ++ body.filterMap part?

/-- Whether two paths have the same parts. -/
def sameParts (one other : Path) : Bool :=
  one.parts = other.parts

/-- Whether the path starts at the root. -/
def isAbsolute (path : Path) : Bool :=
  path.text.toList.head? = some '/'

/-! ### Joining and taking apart -/

/-- The path seen from `base`.  An absolute path does not depend on `base`; a
relative one is appended behind exactly one slash, and to an empty base as it
is. -/
def join (base path : Path) : Path :=
  if path.isAbsolute then path
  else
    match base.text.toList.getLast? with
    | none => path
    | some '/' => ⟨base.text ++ path.text⟩
    | some _ => ⟨base.text ++ "/" ++ path.text⟩

/-- The path without its last part, or `none` where there is no part to
drop. -/
def parent? (path : Path) : Option Path :=
  let (head, body) := path.headAndBody
  match (dropTailFillers body).reverse with
  | _ :: others => some (ofHeadAndBody head (dropTailFillers others.reverse))
  | [] => if head = .here then some ⟨""⟩ else none

/-- The segments behind the first `count` that are not fillers. -/
def dropSegments : Nat → List (List Char) → List (List Char)
  | 0, segments => segments
  | _ + 1, [] => []
  | count + 1, segment :: rest =>
      if isFiller segment then dropSegments (count + 1) rest
      else dropSegments count rest

/-- What is left of the path behind `base`, when the parts of `base` are its
first parts.  The fillers around what is left go too; behind a base without
parts only those at the end do. -/
def stripBase? (path base : Path) : Option Path :=
  if base.parts.isPrefixOf path.parts then
    let (head, body) := path.headAndBody
    match base.parts.length with
    | 0 => some (ofHeadAndBody head (dropTailFillers body))
    | count + 1 =>
        let behind := dropSegments (count + 1 - head.parts.length) body
        some (ofHeadAndBody .plain
          (dropTailFillers (behind.dropWhile isFiller)))
  else
    none

end Path

end CodeSplit
