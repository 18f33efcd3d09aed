import MailMerge.File.Write
import MailMerge.Logged

/-!
# Outcomes

What a run leaves behind: the file tree, the files written, the rows passed over, the log, and the
error that ended it. An outcome is built from its end: what a row does is put in front of what the
rows behind it do.
-/

namespace MailMerge

/-- What a run leaves behind. -/
structure Outcome where
  tree : File.Tree
  /-- The paths of the files written, in order. -/
  written : List String
  /-- The numbers of the rows passed over, in order. -/
  skipped : List Nat
  lines : List Log.Line
  /-- The error that ended the run. -/
  error : Option Error

namespace Outcome

/-- The outcome of doing nothing, or nothing but to fail. -/
def still (tree : File.Tree) (error : Option Error) : Outcome := ⟨tree, [], [], [], error⟩

/-- The outcome with lines logged before it. -/
def logging (lines : List Log.Line) (o : Outcome) : Outcome := { o with lines := lines ++ o.lines }

/-- The outcome with a file written before it. -/
def writing (path : String) (o : Outcome) : Outcome := { o with written := path :: o.written }

/-- The outcome with a row passed over before it. -/
def skipping (row : Nat) (o : Outcome) : Outcome := { o with skipped := row :: o.skipped }

/-- The outcome, followed by what is done with the tree it leaves unless an error ended it. -/
def andThen (o : Outcome) (next : File.Tree → Outcome) : Outcome :=
  match o.error with
  | some _ => o
  | none =>
    let n := next o.tree
    ⟨n.tree, o.written ++ n.written, o.skipped ++ n.skipped, o.lines ++ n.lines, n.error⟩

/-- What a run prints: a line for each file. -/
def printed (o : Outcome) : String :=
  String.join (o.written.map fun path => "Created: '" ++ path ++ "'\n")

end Outcome
end MailMerge
