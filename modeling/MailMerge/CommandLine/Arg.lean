import MailMerge.Options

/-!
# Arguments

The arguments of the command line: how each is written, whether it takes a value, and what it is
for. Options take a value and flags do not.
-/

namespace MailMerge.CommandLine

/-- The arguments, in the order in which they are listed. -/
inductive Arg where
  | template
  | data
  | variableList
  | fileName
  | modifier
  | outputDir
  | placeholder
  | ignoreHeader
  | skipInvalidRows
  | verbose
  | help
  | version
  deriving DecidableEq, Repr

namespace Arg

/-- All arguments, in order. -/
def all : List Arg :=
  [template, data, variableList, fileName, modifier, outputDir, placeholder, ignoreHeader,
    skipInvalidRows, verbose, help, version]

/-- The long name, which is written behind two dashes. -/
def long : Arg → String
  | template => "sample-template"
  | data => "data-file"
  | variableList => "template-variables"
  | fileName => "filename-pattern"
  | modifier => "field-modifier"
  | outputDir => "output-directory"
  | placeholder => "replace-pattern"
  | ignoreHeader => "ignore-header"
  | skipInvalidRows => "skip-invalid-rows"
  | verbose => "verbose"
  | help => "help"
  | version => "version"

/-- The letter that is written behind one dash. -/
def short? : Arg → Option Char
  | template => some 's'
  | data => some 'd'
  | variableList => some 'v'
  | fileName => some 'p'
  | modifier => some 'm'
  | outputDir => some 'o'
  | placeholder => some 'r'
  | ignoreHeader => some 'i'
  | help => some 'h'
  | version => some 'V'
  | skipInvalidRows | verbose => none

/-- The name under which the value of an option is described. -/
def valueName? : Arg → Option String
  | template => some "SAMPLE_TEMPLATE"
  | data => some "DATA_FILE"
  | variableList => some "TEMPLATE_VARS"
  | fileName => some "OUT_FILENAME_PATTERN"
  | modifier => some "FIELD_MODIFIER"
  | outputDir => some "OUTPUT_DIR"
  | placeholder => some "REPLACE_PATTERN"
  | _ => none

/-- Whether an argument is followed by a value. -/
def takesValue (a : Arg) : Bool := a.valueName?.isSome

/-- Whether a value is a path. Paths are not empty. -/
def isPath : Arg → Bool
  | template | data | outputDir => true
  | _ => false

/-- The value of an option that is left out. -/
def default? : Arg → Option String
  | modifier => some Options.defaultModifier
  | outputDir => some Options.defaultOutputDir
  | placeholder => some Options.defaultPlaceholder
  | _ => none

/-- Whether an option must not be left out. -/
def isRequired (a : Arg) : Bool := a.takesValue && a.default?.isNone

/-- What an argument is for. The two lengths of help differ in what they say about themselves. -/
def about (full : Bool) : Arg → String
  | template => "Sample template file path"
  | data => "CSV data file path"
  | variableList => "Template variables mapped to data columns, or a file holding them"
  | fileName =>
    "Pattern used to name created files ('@' prefixed variables), or a file holding it"
  | modifier =>
    "Field value replacements as \x7b\"pattern\": \"value\"\x7d, or a file holding them"
  | outputDir => "Directory where files are created"
  | placeholder => "Variable pattern to replace in the template, or a file holding it"
  | ignoreHeader => "Ignore the header row of the data file"
  | skipInvalidRows => "Skip rows with missing columns or unsafe file names instead of aborting"
  | verbose => "Enable verbose logging output"
  | help =>
    if full then "Print help (see a summary with '-h')" else "Print help (see more with '--help')"
  | version => "Print version"

/-- An argument as it is named in usage lines and messages. -/
def describe (a : Arg) : String :=
  match a.valueName? with
  | some name => "--" ++ a.long ++ " <" ++ name ++ ">"
  | none => "--" ++ a.long

/-- The argument with a long name. -/
def ofLong? (name : String) : Option Arg := all.find? (·.long = name)

/-- The argument with a letter. -/
def ofShort? (c : Char) : Option Arg := all.find? (·.short? = some c)

end Arg
end MailMerge.CommandLine
