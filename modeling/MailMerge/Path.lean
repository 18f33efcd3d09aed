import MailMerge.Text.White

/-!
# Paths

Paths are texts in which `/` parts the segments. Empty segments and `.` name no place of their own,
so a path is read through its components: an optional root, then names and `..`. Only a `.` at the
very start of a relative path is a component.

Paths are joined and printed as they are given; nothing is normalised.
-/

namespace MailMerge.Path

/-- A step of a path. -/
inductive Component where
  | root
  /-- A leading `.`. -/
  | current
  /-- A `..`. -/
  | up
  | name (n : String)
  deriving DecidableEq, Repr

/-- The pieces of a path between slashes. -/
def pieces (path : String) : List (List Char) := path.toList.splitOn '/'

/-- Whether a path starts at the root. -/
def isAbsolute (path : String) : Bool := path.toList.head? = some '/'

/-- Whether a piece names a place: neither empty nor `.`. -/
def isSegment (piece : List Char) : Bool := piece ≠ [] ∧ piece ≠ ['.']

/-- The component of a piece that names a place. -/
def Component.ofPiece (piece : List Char) : Component :=
  if piece = ['.', '.'] then .up else .name (String.ofList piece)

/-- The components of a path. -/
def components (path : String) : List Component :=
  let ps := pieces path
  (if isAbsolute path then [.root] else if ps.head? = some ['.'] then [.current] else []) ++
    (ps.filter isSegment).map .ofPiece

/-- The last component, if it is a name. -/
def fileName? (path : String) : Option String :=
  match (components path).getLast? with
  | some (.name n) => some n
  | _ => none

/-- The pieces of a path without those at the end that name no place. The first piece stays. -/
def trimPieces : List (List Char) → List (List Char)
  | [] => []
  | first :: rest => first :: Text.trimEndOf (fun p => !isSegment p) rest

/-- The path of pieces; a lone empty piece is the root of an absolute path. -/
def ofPieces (absolute : Bool) (ps : List (List Char)) : String :=
  if absolute ∧ ps = [[]] then "/" else String.ofList (['/'].intercalate ps)

/-- The path without its last component, if it has one that is not the root. -/
def parent? (path : String) : Option String :=
  let absolute := isAbsolute path
  match trimPieces (pieces path) with
  | [] => none
  | [first] => if absolute ∨ first = [] then none else some ""
  | ps => some (ofPieces absolute (trimPieces ps.dropLast))

/-- A path below another one, unless it is absolute. -/
def join (base path : String) : String :=
  if isAbsolute path ∨ base = "" then path
  else if base.toList.getLast? = some '/' then base ++ path
  else base ++ "/" ++ path

/-- The path and its ancestors, from the path upwards, as long as there is a name to go up from. The
number bounds the steps. -/
def upFrom : Nat → String → List String
  | 0, path => [path]
  | n + 1, path =>
    match parent? path with
    | none => [path]
    | some p => path :: upFrom n p

/-- The path and its ancestors, from the path upwards. -/
def ancestors (path : String) : List String := upFrom (pieces path).length path

end MailMerge.Path
