import MailMerge.Error
import MailMerge.Path
import MailMerge.Record
import MailMerge.Text.Substring

/-!
# Names of output files

The name of an output file is made from a pattern in which `@name` stands for the value of a
variable. Values are put in one variable after the other, in the order of the variable list, so of
two names of which one starts with the other the longer one should be listed first.

A name is safe if it leads to a place below the output directory. It may lead into directories
there, but not out of them.
-/

namespace MailMerge.FileName

/-- What stands for the value of a variable. -/
def reference (v : String) : String := "@" ++ v

/-- A name with one variable replaced by its value, if it has one. -/
def resolveOne (r : Record) (name v : String) : String :=
  match r.get? v with
  | some value => Text.replace name (reference v) value
  | none => name

/-- The file name that a pattern makes from the values of variables. -/
def resolve (pattern : String) (names : List String) (r : Record) : String :=
  names.foldl (resolveOne r) pattern

/-- Whether a step of a path stays below the place it starts at. -/
def isDownward : Path.Component → Bool
  | .current | .name _ => true
  | .root | .up => false

/-- Whether a file name leads to a place below the output directory. -/
def isSafe (name : String) : Bool :=
  let steps := Path.components name
  !Text.isBlank name && !steps.isEmpty && steps.all isDownward && (Path.fileName? name).isSome

/-- The path of the file with a name, below the output directory. -/
def target (outputDir name : String) (row : Nat) : Except Error String :=
  if isSafe name then .ok (Path.join outputDir name) else .error (.unsafeFileName name row)

end MailMerge.FileName
