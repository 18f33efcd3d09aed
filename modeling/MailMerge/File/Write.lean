import MailMerge.File.Tree

/-!
# Changing file trees

Making a directory, making a directory with all directories above it, and writing a file. An
operation that fails may have made some directories, so the operations that take several steps give
the tree they leave behind beside their outcome.
-/

namespace MailMerge.File.Tree

/-- Makes a directory in one that exists. -/
def makeDir (t : Tree) (path : String) : Except Fault Tree := do
  let loc ← t.locate path
  match t.entry? loc with
  | some _ => .error .alreadyExists
  | none => .ok (t.insert loc .dir)

/-- Makes directories in order; those that exist are left as they are. -/
def makeEach (t : Tree) : List String → Tree × Except Fault Unit
  | [] => (t, .ok ())
  | path :: rest =>
    match t.makeDir path with
    | .ok t => t.makeEach rest
    | .error e =>
      -- a directory that is there is as good as one made
      if e = .alreadyExists ∧ t.isDir path then t.makeEach rest else (t, .error e)

/-- Climbs from a path to the first directory that exists or can be made, and makes from there the
directories that were missing. -/
def climb (t : Tree) (missing : List String) : List String → Tree × Except Fault Unit
  | [] => t.makeEach missing
  | path :: up =>
    match t.makeDir path with
    | .ok t => t.makeEach missing
    -- the directory above is missing too
    | .error .notFound => t.climb (path :: missing) up
    | .error e =>
      if e = .alreadyExists ∧ t.isDir path then t.makeEach missing else (t, .error e)

/-- Makes a directory and all directories above it that are missing. -/
def makeDirs (t : Tree) (path : String) : Tree × Except Fault Unit :=
  t.climb [] ((Path.ancestors path).takeWhile fun p => p ≠ "" ∧ (Path.parent? p).isSome)

/-- Writes a file in a directory that exists, replacing the file that is there. -/
def writeFile (t : Tree) (path : String) (content : ByteArray) : Except Fault Tree := do
  checkPath path
  let steps := segments path
  let isName := steps.getLast? ≠ none ∧ steps.getLast? ≠ some "." ∧ steps.getLast? ≠ some ".."
  -- nothing is written where a directory is meant, but what is wrong on the way comes first
  if isName ∧ endsInSlash path then
    let _ ← t.follow (t.origin path) (steps.dropLast ++ ["."])
    throw .isADirectory
  let loc ← t.follow (t.origin path) steps
  match t.entry? loc with
  | some .dir => .error .isADirectory
  | _ => .ok (t.insert loc (.file content))

/-- Makes the directories above a path that are missing. -/
def makeParents (t : Tree) (path : String) : Tree × Except Fault Unit :=
  match Path.parent? path with
  | none => (t, .ok ())
  | some dir => t.makeDirs dir

/-- Writes a file after making the directories above it that are missing. -/
def writeWithParents (t : Tree) (path : String) (content : ByteArray) : Tree × Except Fault Unit :=
  match t.makeParents path with
  | (t, .error e) => (t, .error e)
  | (t, .ok ()) =>
    match t.writeFile path content with
    | .error e => (t, .error e)
    | .ok t => (t, .ok ())

/-- Removes what a path denotes, with everything below it. -/
def remove (t : Tree) (path : String) : Tree :=
  match t.locate path with
  | .ok loc => t.eraseBelow loc
  | .error _ => t

/-! ### Comparing -/

/-- The entries of a tree below its working directory that another tree does not have. -/
def changesSince (t old : Tree) : List (Location × Entry) :=
  (t.entries.filter fun e =>
    t.workDir.isPrefixOf e.1 && e.1 != t.workDir && old.entry? e.1 != some e.2).map
      fun e => (e.1.drop t.workDir.length, e.2)

end MailMerge.File.Tree
