import MailMerge.CommandLine.Help

/-!
# Why arguments give no options

The arguments may ask for help or for the version, or be at fault. Either way there is a text to be
shown and nothing to run.
-/

namespace MailMerge.CommandLine

/-- Why arguments give no options. -/
inductive Stop where
  | help (full : Bool)
  | version
  /-- An option is not followed by a value, or by an empty one where a path is needed. -/
  | missingValue (a : Arg)
  | repeated (a : Arg)
  /-- An argument that there is not, as written, perhaps with one that is written alike. -/
  | unknown (text : String) (similar : Option Arg) (usage : Usage)
  /-- A flag is followed by a value. -/
  | unneededValue (a : Arg) (value : String) (usage : Usage)
  | missingRequired (missing : List Arg) (usage : Usage)
  deriving DecidableEq, Repr

namespace Stop

private def hint : String := "\n\nFor more information, try '--help'.\n"

private def fault (text : String) (usage : Usage) : String :=
  "error: " ++ text ++ "\n\n" ++ usage.line ++ hint

/-- The text to be shown. -/
def message : Stop → String
  | help full => helpText full
  | version => versionText
  | missingValue a =>
    "error: a value is required for '" ++ a.describe ++ "' but none was supplied" ++ hint
  | repeated a =>
    fault ("the argument '" ++ a.describe ++ "' cannot be used multiple times") .general
  | unknown text similar usage =>
    let tip :=
      match similar with
      | some a => "\n\n  tip: a similar argument exists: '--" ++ a.long ++ "'"
      | none => ""
    fault ("unexpected argument '" ++ text ++ "' found" ++ tip) usage
  | unneededValue a value usage =>
    fault ("unexpected value '" ++ value ++ "' for '" ++ a.describe ++
      "' found; no more were expected") usage
  | missingRequired missing usage =>
    fault ("the following required arguments were not provided:" ++
      String.join (missing.map fun a => "\n  " ++ a.describe)) usage

end Stop
end MailMerge.CommandLine
