import MailMerge.File.Fault
import MailMerge.Path

/-!
# File trees

A file tree says what is at each location: a file with its content, a directory, or nothing. A
location is the list of names that leads there from the root, so that two paths denote the same
place exactly when they lead to the same location.

`locate` follows a path. Every place it passes must be a directory that exists; only the last one
may be missing.
-/

namespace MailMerge.File

/-- The names that lead from the root to a place. -/
abbrev Location := List String

/-- What is at a place. -/
inductive Entry where
  | file (content : ByteArray)
  | dir

instance : DecidableEq Entry
  | .file a, .file b =>
    if h : a.data = b.data then isTrue (congrArg Entry.file (ByteArray.ext h))
    else isFalse fun he => h (congrArg ByteArray.data (Entry.file.inj he))
  | .dir, .dir => isTrue rfl
  | .file _, .dir => isFalse nofun
  | .dir, .file _ => isFalse nofun

/-- Files and directories by location, and the directory at which relative paths start. -/
structure Tree where
  entries : List (Location × Entry)
  workDir : Location

namespace Tree

/-- What is at a location. The root is always a directory. -/
def entry? (t : Tree) (loc : Location) : Option Entry :=
  if loc = [] then some .dir else t.entries.lookup loc

/-- Puts an entry into a list of entries: in place of the old one, or at the end. -/
def setIn (loc : Location) (e : Entry) : List (Location × Entry) → List (Location × Entry)
  | [] => [(loc, e)]
  | old :: rest => if old.1 = loc then (loc, e) :: rest else old :: setIn loc e rest

/-- The tree with an entry at a location. -/
def insert (t : Tree) (loc : Location) (e : Entry) : Tree :=
  { t with entries := setIn loc e t.entries }

/-- The tree without what is at a location and below it. -/
def eraseBelow (t : Tree) (loc : Location) : Tree :=
  { t with entries := t.entries.filter fun e => !loc.isPrefixOf e.1 }

/-! ### Following paths

A path is followed segment by segment, as a file system does it: a step upwards leaves the
directory one has come to, and what is passed must be there. -/

/-- How many bytes a name may have. -/
def nameLimit : Nat := 255

/-- How many bytes a path must stay below. -/
def pathLimit : Nat := 4096

/-- The place that a segment leads to from a directory. -/
def step (dir : Location) (segment : String) : Location :=
  if segment = "." then dir else if segment = ".." then dir.dropLast else dir ++ [segment]

/-- Follows segments from a location. -/
def follow (t : Tree) (loc : Location) : List String → Except Fault Location
  | [] => .ok loc
  | segment :: rest =>
    match t.entry? loc with
    | none => .error .notFound
    | some (.file _) => .error .notADirectory
    | some .dir =>
      if nameLimit < segment.utf8ByteSize then .error .nameTooLong
      else t.follow (step loc segment) rest

/-- The segments of a path, with `.` and `..`. -/
def segments (path : String) : List String :=
  ((Path.pieces path).filter (· ≠ [])).map String.ofList

/-- Where a path starts. -/
def origin (t : Tree) (path : String) : Location := if Path.isAbsolute path then [] else t.workDir

/-- Refuses paths that denote nothing: empty or overlong ones and those with a zero character. -/
def checkPath (path : String) : Except Fault Unit :=
  if path.toList.contains '\x00' then .error .nulInPath
  else if path = "" then .error .notFound
  else if pathLimit ≤ path.utf8ByteSize then .error .nameTooLong
  else .ok ()

/-- The location that a path denotes. -/
def locate (t : Tree) (path : String) : Except Fault Location := do
  checkPath path
  t.follow (t.origin path) (segments path)

/-- Whether a path ends in a slash, and so can only denote a directory. -/
def endsInSlash (path : String) : Bool := path.toList.getLast? = some '/'

/-! ### Asking

To ask what a path denotes is to follow it and to look. A file under a path that ends in a
slash is no answer. -/

/-- What a path denotes. -/
def stat (t : Tree) (path : String) : Except Fault Entry := do
  let loc ← t.locate path
  match t.entry? loc with
  | none => .error .notFound
  | some .dir => .ok .dir
  | some (.file content) =>
    if endsInSlash path then .error .notADirectory else .ok (.file content)

/-- Whether a path denotes a file. -/
def isFile (t : Tree) (path : String) : Bool :=
  match t.stat path with
  | .ok (.file _) => true
  | _ => false

/-- Whether a path denotes a directory. -/
def isDir (t : Tree) (path : String) : Bool :=
  match t.stat path with
  | .ok .dir => true
  | _ => false

/-- Whether a path denotes anything. -/
def «exists» (t : Tree) (path : String) : Bool := (t.stat path).isOk

/-- The content of a file. -/
def read (t : Tree) (path : String) : Except Fault ByteArray := do
  match ← t.stat path with
  | .dir => .error .isADirectory
  | .file content => .ok content

/-- The content of a file that holds text. -/
def readText (t : Tree) (path : String) : Except Fault String := do
  let content ← t.read path
  match String.fromUTF8? content with
  | some text => .ok text
  | none => .error .notText

end Tree
end MailMerge.File
