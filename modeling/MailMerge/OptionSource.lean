import MailMerge.File.Tree
import MailMerge.Logged
import MailMerge.Text.White

/-!
# Where the value of an option comes from

Some options may be given as the path of a file that holds the value. A file that exists wins over
the literal text. An option that is one line is read without the line ends that a file may end with.
-/

namespace MailMerge

/-- Where the value of an option comes from. -/
inductive OptionSource where
  | file (path : String)
  | literal (text : String)
  deriving DecidableEq, Repr

namespace OptionSource

/-- Where the value comes from if the option is written so. -/
def ofText (t : File.Tree) (text : String) : OptionSource :=
  if text ≠ "" ∧ t.isFile text then .file text else .literal text

/-- The source as it is shown. -/
def describe : OptionSource → String
  | file path => "file: '" ++ path ++ "'"
  | literal text => "literal: '" ++ text ++ "'"

/-- The value. -/
def load (t : File.Tree) : OptionSource → Logged String
  | file path => do
    .log ⟨.debug, .loader, "Reading option value from " ++ path⟩
    .config ((t.readText path).mapError (.unreadable path))
  | literal text => pure text

/-- The value of an option. -/
def value (t : File.Tree) (text : String) : Logged String := (ofText t text).load t

/-- The value of an option that is one line. -/
def lineValue (t : File.Tree) (text : String) : Logged String := do
  return Text.dropLineEnds (← value t text)

end OptionSource
end MailMerge
