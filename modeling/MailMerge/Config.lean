import MailMerge.FileName
import MailMerge.Filler
import MailMerge.OptionSource
import MailMerge.Options
import MailMerge.Row
import MailMerge.Variables

/-!
# Configurations

A configuration is what the options come to when their files are read and everything in them has
been checked. All faults of the options are found here, in a fixed order, before any row is looked
at.

A configuration knows how to turn a row into an output file.
-/

namespace MailMerge

/-- Checked options. -/
structure Config where
  template : String
  data : String
  outputDir : String
  ignoreHeader : Bool
  skipInvalidRows : Bool
  /-- The names of the variables. -/
  names : List String
  fileName : String
  modifier : Modifier
  placeholder : Placeholder
  filler : Filler
  deriving DecidableEq, Repr

/-- A file to be written. -/
structure Output where
  target : String
  content : String
  deriving DecidableEq, Repr

namespace Config

/-- Refuses a path that does not lead to a file. -/
def requireFile (t : File.Tree) (path : String) (fault : ConfigFault) : Except ConfigFault Unit :=
  if t.isFile path then .ok () else .error fault

/-- Refuses a pattern of file names that is blank. -/
def requireName (pattern : String) : Except ConfigFault Unit :=
  if Text.isBlank pattern then .error .blankFileName else .ok ()

/-- Reads and checks options in the order in which faults are reported. -/
def load (t : File.Tree) (o : Options) : Logged Config := do
  .config (requireFile t o.template (.noTemplate o.template))
  .config (requireFile t o.data (.noData o.data))
  let list ← OptionSource.lineValue t o.variableList
  let names ← .config (Variables.parse list)
  let fileName ← OptionSource.lineValue t o.fileName
  .config (requireName fileName)
  let rules ← OptionSource.value t o.modifier
  let modifier ← .config (Modifier.parse rules)
  let source ← OptionSource.lineValue t o.placeholder
  let placeholder ← .config (Placeholder.ofString source)
  let filler ← .config (Filler.ofNames placeholder names)
  return {
    template := o.template, data := o.data, outputDir := o.outputDir
    ignoreHeader := o.ignoreHeader, skipInvalidRows := o.skipInvalidRows
    names, fileName, modifier, placeholder, filler }

private def flag (b : Bool) : String := if b then "true" else "false"

/-- The lines that tell the options in force. -/
def summary (c : Config) : List Log.Line :=
  [ "Sample template      : " ++ c.template,
    "Data file            : " ++ c.data,
    "Ignoring header      : " ++ flag c.ignoreHeader,
    "Template vars        : " ++ ",".intercalate c.names,
    "Out dir              : " ++ c.outputDir,
    "Out filename pattern : " ++ c.fileName,
    "Field modifiers      : " ++ c.modifier.describe,
    "Replace pattern      : " ++ c.placeholder.source,
    "Skip invalid rows    : " ++ flag c.skipInvalidRows ].map (⟨.info, .config, ·⟩)

/-- The file that a row gives for a template. -/
def render (c : Config) (template : String) (fields : List String) (row : Nat) :
    Except Error Output := do
  let r ← Row.toRecord c.names fields c.modifier row
  let name := FileName.resolve c.fileName c.names r
  let target ← FileName.target c.outputDir name row
  return ⟨target, c.filler.fill template r⟩

end Config
end MailMerge
