import MailMerge.Run.Blocks

/-!
# Runs

A whole run: the options are read and checked, then the output directory is made, then the template
and the data file are opened, and then the rows are gone through. No phase starts before the one in
front of it has succeeded.
-/

namespace MailMerge.Run

/-- Makes the output directory. -/
def makeOutputDir (t : File.Tree) (path : String) : File.Tree × Logged Unit :=
  let note : List Log.Line :=
    if t.exists path then [] else [⟨.debug, .processor, "Creating output directory " ++ path⟩]
  let (t, made) := t.makeDirs path
  (t, ⟨note, made.mapError (.writeFailed path)⟩)

/-- Reads the template of a configuration and finds its data file. -/
def openInputs (t : File.Tree) (c : Config) : Except Error (String × File.Location) := do
  let template ← (t.readText c.template).mapError .file
  let place ← (t.locate c.data).mapError .file
  return (template, place)

/-- Runs a configuration. -/
def configured (t : File.Tree) (c : Config) : Outcome :=
  let (t, made) := makeOutputDir t c.outputDir
  Outcome.logging (c.summary ++ made.lines) <|
    match made.result >>= fun _ => openInputs t c with
    | .error e => .still t (some e)
    | .ok (template, place) => file c template t place

/-- Runs with options. -/
def all (t : File.Tree) (o : Options) : Outcome :=
  let loaded := Config.load t o
  Outcome.logging loaded.lines <|
    match loaded.result with
    | .error e => .still t (some e)
    | .ok c => configured t c

end MailMerge.Run
