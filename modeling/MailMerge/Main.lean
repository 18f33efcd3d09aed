import MailMerge.Program

/-!
# The command line

The part of the disk that a run can look at is read into a file tree, the program is run on the
tree, and what it changed there is written back. Everything else the program does is in its report.
-/

namespace MailMerge.Disk

open File

/-- The path of a location. -/
def pathOf (loc : Location) : String := "/" ++ "/".intercalate loc

/-- What the disk has at a location, without what lies below it. -/
def entryAt? (loc : Location) : IO (Option Entry) := do
  let path := (← IO.currentDir) / pathOf loc
  try
    if ← path.isDir then return some .dir
    if ← path.pathExists then return some (.file (← IO.FS.readBinFile path))
    return none
  catch _ => return none

/-- Adds what the disk has at a location, unless the tree has it already. -/
def addAt (t : Tree) (loc : Location) : IO Tree := do
  if (t.entry? loc).isSome then return t
  match ← entryAt? loc with
  | some e => return t.insert loc e
  | none => return t

/-- Adds what the disk has on the way along some segments. -/
def addAlong (t : Tree) (loc : Location) : List String → IO Tree
  | [] => addAt t loc
  | segment :: rest => do addAlong (← addAt t loc) (Tree.step loc segment) rest

/-- Adds what the disk has on the way along a path. -/
def addPath (t : Tree) (path : String) : IO Tree :=
  if (Tree.checkPath path).isOk then addAlong t (t.origin path) (Tree.segments path) else return t

/-- Adds what the disk has below a directory. -/
partial def addBelow (t : Tree) (loc : Location) : IO Tree := do
  let dir := (← IO.currentDir) / pathOf loc
  unless ← dir.isDir do return t
  let mut t := t
  for e in ← dir.readDir do
    let inner := loc ++ [e.fileName]
    t ← addBelow (← addAt t inner) inner
  return t

/-- The part of the disk that a run with some options can look at. -/
def snapshot (o : Options) : IO Tree := do
  let workDir := Tree.segments (← IO.currentDir).toString
  let mut t : Tree ← addAlong ⟨[], workDir⟩ [] workDir
  let paths :=
    [o.template, o.data, o.variableList, o.fileName, o.modifier, o.placeholder, o.outputDir]
  for path in paths do
    t ← addPath t path
  match t.locate o.outputDir with
  | .ok loc => addBelow t loc
  | .error _ => return t

/-- Writes to the disk what one tree has and another one has not. Directories stand in a tree before
what lies in them. -/
def apply (new old : Tree) : IO Unit := do
  for (loc, e) in new.entries do
    if old.entry? loc != some e then
      let path := (← IO.currentDir) / pathOf loc
      match e with
      | .dir => IO.FS.createDirAll path
      | .file content => IO.FS.writeBinFile path content

end MailMerge.Disk

/-- Runs the program on the disk. -/
def main (args : List String) : IO UInt32 := do
  let t ←
    match MailMerge.CommandLine.parse args with
    | .ok o => MailMerge.Disk.snapshot o
    | .error _ => pure ⟨[], []⟩
  let report := MailMerge.Program.run t args (← IO.getEnv "RUST_LOG")
  MailMerge.Disk.apply report.tree t
  IO.print report.output
  IO.eprint report.errors
  return report.exitCode.toUInt32
