import MailMerge.Csv
import MailMerge.File.Fault
import MailMerge.Json.Error
import MailMerge.Regex.Error

/-!
# What can go wrong

A `ConfigFault` is found in the options before any row is read. An `Error` is why a run stops. The
errors that concern one row only are `isRowError`; a run may be told to pass over such rows.
-/

namespace MailMerge

/-- What is wrong with the options. -/
inductive ConfigFault where
  | noTemplate (path : String)
  | noData (path : String)
  | unreadable (path : String) (fault : File.Fault)
  /-- A list of variables with an empty name in it. -/
  | emptyName (list : String)
  | blankFileName
  /-- The field modifier is no set of rules. -/
  | notRules (error : Json.Error)
  | badPattern (pattern : String) (error : Regex.Error)
  /-- The replace pattern has no place for the name of a variable. -/
  | noVariable (pattern : String)
  deriving DecidableEq, Repr

/-- Why a run stops, or why a row is passed over. -/
inductive Error where
  | file (fault : File.Fault)
  | data (error : Csv.Error)
  | config (fault : ConfigFault)
  | missingColumn (variableName : String) (row : Nat)
  | unsafeFileName (name : String) (row : Nat)
  | writeFailed (path : String) (fault : File.Fault)
  deriving DecidableEq, Repr

/-- The text that stands for the name of a variable in a replace pattern. -/
def variableToken : String := "variable"

/-- The text of a fault in the options. -/
def ConfigFault.message : ConfigFault → String
  | noTemplate path => "Sample template file " ++ path ++ " doesn't exist"
  | noData path => "Data file " ++ path ++ " doesn't exist"
  | unreadable path fault => "failed to read '" ++ path ++ "': " ++ fault.message
  | emptyName list => "template variables '" ++ list ++ "' contain an empty name"
  | blankFileName => "filename pattern is empty"
  | notRules error =>
    "field modifier must be an object of pattern/value strings: " ++ error.message
  | badPattern pattern error => "invalid pattern '" ++ pattern ++ "': " ++ error.message
  | noVariable pattern =>
    "replace pattern must contain the text '" ++ variableToken ++ "', '" ++ pattern ++
      "' is invalid"

namespace Error

/-- The text of an error. -/
def message : Error → String
  | file fault => "IO error: " ++ fault.message ++ "."
  | data error => "CSV error: " ++ error.message ++ "."
  | config fault => "Configuration error: " ++ fault.message ++ "."
  | missingColumn variableName row =>
    "No column for template variable '" ++ variableName ++ "' in row " ++ toString row ++ "."
  | unsafeFileName name row =>
    "Unsafe output file name '" ++ name ++ "' in row " ++ toString row ++ "."
  | writeFailed path fault => "Failed to write '" ++ path ++ "': " ++ fault.message ++ "."

/-- Whether an error concerns one row and not the whole run. -/
def isRowError : Error → Bool
  | missingColumn .. | unsafeFileName .. => true
  | _ => false

end Error
end MailMerge
