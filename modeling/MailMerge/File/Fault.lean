/-!
# What can go wrong with files

The reasons for which reading a file, making a directory or writing a file fails. Each has a number
by which operating systems know it, or none when the fault lies in the path or in the text read.
-/

namespace MailMerge.File

/-- Why an operation on a file failed. -/
inductive Fault where
  | notFound
  | alreadyExists
  | notADirectory
  | isADirectory
  | nameTooLong
  /-- The path holds the character with the number zero. -/
  | nulInPath
  /-- The file holds no text. -/
  | notText
  deriving DecidableEq, Repr

private def numbered (text : String) (n : Nat) : String :=
  text ++ " (os error " ++ toString n ++ ")"

/-- The text of a fault. -/
def Fault.message : Fault → String
  | notFound => numbered "No such file or directory" 2
  | alreadyExists => numbered "File exists" 17
  | notADirectory => numbered "Not a directory" 20
  | isADirectory => numbered "Is a directory" 21
  | nameTooLong => numbered "File name too long" 36
  | nulInPath => "file name contained an unexpected NUL byte"
  | notText => "stream did not contain valid UTF-8"

end MailMerge.File
