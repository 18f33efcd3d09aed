import MailMerge.Placeholder
import MailMerge.Record

/-!
# Filling templates

A template is filled by replacing the placeholders of the variables one after the other, in the
order of the variable list. The value of a variable may therefore bring in placeholders of the
variables behind it. A variable without a value leaves its placeholders where they are.
-/

namespace MailMerge

/-- The variables of a template with the compiled patterns of their placeholders. -/
structure Filler where
  placeholders : List (String × Regex)
  deriving DecidableEq, Repr

namespace Filler

/-- Compiles the placeholders of variables in order. -/
def compileAll (p : Placeholder) : List String → Except ConfigFault (List (String × Regex))
  | [] => .ok []
  | v :: rest => do
    let re ← p.compile v
    return (v, re) :: (← compileAll p rest)

/-- The filler for a list of variables. -/
def ofNames (p : Placeholder) (names : List String) : Except ConfigFault Filler :=
  (compileAll p names).map Filler.mk

/-- A text with the placeholder of one variable replaced by its value. -/
def fillOne (r : Record) (text : String) (v : String × Regex) : String :=
  match r.get? v.1 with
  | some value => v.2.replaceAll text value
  | none => text

/-- A template filled with the values of a record. -/
def fill (f : Filler) (template : String) (r : Record) : String :=
  f.placeholders.foldl (fillOne r) template

end Filler
end MailMerge
