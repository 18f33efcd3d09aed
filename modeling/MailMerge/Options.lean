/-!
# Options

What the user asks for, as written on the command line and with the defaults filled in. Nothing here
has been looked at yet: paths may lead nowhere, and patterns may be malformed.
-/

namespace MailMerge

/-- The options of a run. -/
structure Options where
  /-- The path of the template. -/
  template : String
  /-- The path of the data file. -/
  data : String
  /-- The list of variables, or a file that holds it. -/
  variableList : String
  /-- The pattern of the names of output files, or a file that holds it. -/
  fileName : String
  /-- The rules of the field modifier, or a file that holds them. -/
  modifier : String
  /-- The path of the directory for output files. -/
  outputDir : String
  /-- The replace pattern, or a file that holds it. -/
  placeholder : String
  ignoreHeader : Bool
  skipInvalidRows : Bool
  verbose : Bool
  deriving DecidableEq, Repr

namespace Options

/-- The field modifier without rules. -/
def defaultModifier : String := "\x7b\x7d"

def defaultOutputDir : String := "output"

def defaultPlaceholder : String := "@variable"

end Options
end MailMerge
