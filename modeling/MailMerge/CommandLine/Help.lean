import MailMerge.CommandLine.Arg

/-!
# Help

What the program says about itself: the usage line, a summary of the arguments, and the full help.
-/

namespace MailMerge.CommandLine

/-- The name of the program. -/
def programName : String := "template-processor"

/-- The answer to a question for the version. -/
def versionText : String := programName ++ " 1.0.0\n"

/-! ### Usage -/

/-- Which arguments a usage line lists. -/
inductive Usage where
  /-- The required options, and a hint that there are others. -/
  | general
  /-- The required options and those that were given. -/
  | given (args : List Arg)
  deriving DecidableEq, Repr

/-- A usage line. -/
def Usage.line (u : Usage) : String :=
  let required := Arg.all.filter Arg.isRequired
  let parts :=
    match u with
    | general => "[OPTIONS]" :: required.map Arg.describe
    | given args =>
      let others := (args.filter fun a => !a.isRequired).eraseDups
      (required ++ others).map Arg.describe
  "Usage: " ++ " ".intercalate (programName :: parts)

/-! ### Help texts -/

private def indent : String := "          "

/-- The line that names an argument, with its letter in a column of its own. -/
private def headLine (a : Arg) : String :=
  let short :=
    match a.short? with
    | some c => "-" ++ String.singleton c ++ ", "
    | none => "    "
  "  " ++ short ++ a.describe

/-- How an argument is described. -/
private def entry (full : Bool) (a : Arg) : String :=
  let default :=
    match a.default? with
    | none => ""
    | some value =>
      let note := "[default: " ++ value ++ "]"
      if full then "\n" ++ indent ++ "\n" ++ indent ++ note else " " ++ note
  headLine a ++ "\n" ++ indent ++ a.about full ++ default ++ "\n"

/-- What the program does, in one line. -/
def summaryText : String := "Hydrate a text template once per CSV row\n"

/-- What the program does. -/
def aboutText : String := String.join <| [
  "Template Processor",
  "",
  "Generates one file per row of a CSV data file by replacing variable",
  "placeholders in a template with the row's values.",
  "",
  "SAMPLE_TEMPLATE is a UTF-8 text file holding the template.",
  "",
  "DATA_FILE is a CSV file. Each row produces one hydrated file. Use",
  "--ignore-header when the first row holds column titles.",
  "",
  "TEMPLATE_VARS is a comma separated list of variable names. Columns of",
  "DATA_FILE are mapped to the variables in the same order.",
  "",
  "REPLACE_PATTERN is how a variable appears in SAMPLE_TEMPLATE. It must contain",
  "the text 'variable', which stands for each name in TEMPLATE_VARS. The pattern",
  "is a regular expression. Default '@variable'.",
  "",
  "OUT_FILENAME_PATTERN names the generated files. Variables are referenced by",
  "prefixing them with '@', e.g. '@serial.txt'.",
  "",
  "FIELD_MODIFIER rewrites values before they are used, as a JSON object of",
  "\x7b\"pattern\": \"replacement\"\x7d. Rules run in order. A value stored as",
  "'220V; 1A; 50Hz' together with '\x7b\";\": \",\"\x7d' becomes '220V, 1A, 50Hz'.",
  "",
  "TEMPLATE_VARS, OUT_FILENAME_PATTERN, FIELD_MODIFIER and REPLACE_PATTERN may each",
  "be given as a path to a file holding the value.",
  "",
  "Example:",
  "",
  "  sample.txt",
  "      Hello @name,",
  "",
  "      Your @relation",
  "",
  "  data.csv",
  "      Person Name,Relation",
  "      Ajay,brother",
  "      Seema,sister",
  "",
  "  template-processor -s sample.txt -d data.csv -v name,relation -p @name.txt -o letters -i",
  "",
  "creates 'letters/Ajay.txt' and 'letters/Seema.txt'."].map (· ++ "\n")

/-- The help text, in full or as a summary. -/
def helpText (full : Bool) : String :=
  let entries := Arg.all.map (entry full)
  (if full then aboutText else summaryText) ++ "\n" ++ Usage.general.line ++ "\n\nOptions:\n" ++
    (if full then "\n".intercalate entries else String.join entries)

end MailMerge.CommandLine
