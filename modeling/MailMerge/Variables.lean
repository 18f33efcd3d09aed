import MailMerge.Error
import MailMerge.Text.White

/-!
# Lists of variables

The variables of a template are written as names between commas. White space around a name does not
belong to it, and no name is empty.
-/

namespace MailMerge.Variables

/-- The names of a list, in order. -/
def parse (list : String) : Except ConfigFault (List String) :=
  let names := (list.toList.splitOn ',').map Text.trimChars
  if names.any List.isEmpty then .error (.emptyName list) else .ok (names.map String.ofList)

end MailMerge.Variables
