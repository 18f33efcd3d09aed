/-!
# Records

A record gives values to names and keeps the names in the order in which they were first written.
Writing a name again replaces its value and leaves its place:

    [("a", x), ("b", y)] with "a" written as z is [("a", z), ("b", y)]

Records hold the values of one data row, and also the rules of a field modifier.
-/

namespace MailMerge

/-- Names with values, in the order in which the names were first written. -/
structure Record where
  entries : List (String × String)
  deriving DecidableEq, Repr, Inhabited

namespace Record

/-- The record without names. -/
def empty : Record := ⟨[]⟩

/-- Writes a value into a list of entries: in place of the old value, or at the end. -/
def setIn (name value : String) : List (String × String) → List (String × String)
  | [] => [(name, value)]
  | e :: rest => if e.1 = name then (name, value) :: rest else e :: setIn name value rest

/-- The record with a name written. -/
def insert (r : Record) (name value : String) : Record := ⟨setIn name value r.entries⟩

/-- The value of a name. -/
def get? (r : Record) (name : String) : Option String := r.entries.lookup name

/-- The record that results from writing pairs in order. -/
def ofList (pairs : List (String × String)) : Record :=
  pairs.foldl (fun r p => r.insert p.1 p.2) empty

/-- The names, in order. -/
def names (r : Record) : List String := r.entries.map (·.1)

end Record
end MailMerge
