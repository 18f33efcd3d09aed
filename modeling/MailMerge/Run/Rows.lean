import MailMerge.Config
import MailMerge.Run.Outcome

/-!
# Going through rows

The rows of a data file are taken one by one, in order, and the file that each of them gives is
written before the next one is looked at. The first error ends the run; what was written before
stays. If the run is told so, rows with a row error are passed over instead.

Rows are counted by the records of the data file from one, the header included.
-/

namespace MailMerge.Run

/-- Writes an output file. -/
def write (t : File.Tree) (path content : String) : File.Tree × Except Error Unit :=
  let (t, done) := t.writeWithParents path content.toUTF8
  (t, done.mapError (.writeFailed path))

/-- Runs over records from a row number on. `header` tells whether the next one is the header, and
`failure` why there are no records behind the last one, if they could not be read. -/
def rowsFrom (c : Config) (template : String) (failure : Option Csv.Error) (t : File.Tree)
    (header : Bool) (row : Nat) : List (List String) → Outcome
  | [] => .still t (failure.map .data)
  | fields :: rest =>
    if header then
      (rowsFrom c template failure t false (row + 1) rest).logging
        [⟨.debug, .processor, "Ignoring header row " ++ toString row⟩]
    else
      match c.render template fields row with
      | .error e =>
        if e.isRowError ∧ c.skipInvalidRows then
          ((rowsFrom c template failure t false (row + 1) rest).skipping row).logging
            [⟨.warn, .processor, "Skipping row: " ++ e.message⟩]
        else .still t (some e)
      | .ok out =>
        let note : Log.Line :=
          ⟨.debug, .processor, "Writing row " ++ toString row ++ " to " ++ out.target⟩
        match write t out.target out.content with
        | (t, .error e) => (Outcome.still t (some e)).logging [note]
        | (t, .ok ()) =>
          ((rowsFrom c template failure t false (row + 1) rest).writing out.target).logging [note]

/-- Runs over all records of a data file. -/
def rows (c : Config) (template : String) (t : File.Tree) (data : Csv.Reading) : Outcome :=
  rowsFrom c template data.error t c.ignoreHeader 1 data.records

end MailMerge.Run
