import MailMerge.Modifier
import MailMerge.Text.Substring

/-!
# Placeholders

A replace pattern tells how variables appear in a template. Where it says `variable` the name of a
variable is put in; the result is the pattern of that variable's placeholder. Names are put in as
they are, so a name may itself be a pattern.
-/

namespace MailMerge

/-- A replace pattern, which has a place for the name of a variable. -/
structure Placeholder where
  source : String
  hasVariable : Text.contains source variableToken = true
  deriving DecidableEq, Repr

namespace Placeholder

/-- The replace pattern that is written so. -/
def ofString (source : String) : Except ConfigFault Placeholder :=
  if h : Text.contains source variableToken = true then .ok ⟨source, h⟩
  else .error (.noVariable source)

/-- The pattern of the placeholder of a variable. -/
def patternFor (p : Placeholder) (name : String) : String :=
  Text.replace p.source variableToken name

/-- The compiled pattern of the placeholder of a variable. -/
def compile (p : Placeholder) (name : String) : Except ConfigFault Regex :=
  compilePattern (p.patternFor name)

end Placeholder
end MailMerge
