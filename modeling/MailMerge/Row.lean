import MailMerge.Modifier

/-!
# Rows

A row is the fields of one record of the data file. Its fields give values to the variables by
position: the first field to the first variable, and so on. A variable that is listed twice takes
the later field.
-/

namespace MailMerge.Row

/-- Gives the values of fields to variables in a record. -/
def assign (m : Modifier) (row : Nat) (r : Record) :
    (names fields : List String) → Except Error Record
  | [], _ => .ok r
  | v :: _, [] => .error (.missingColumn v row)
  | v :: vs, f :: fs => assign m row (r.insert v (m.apply f)) vs fs

/-- The record of a row. -/
def toRecord (names fields : List String) (m : Modifier) (row : Nat) : Except Error Record :=
  assign m row .empty names fields

end MailMerge.Row
