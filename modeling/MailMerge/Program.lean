import MailMerge.CommandLine.Parse
import MailMerge.Log.Filter
import MailMerge.Run

/-!
# The program

What the program does from its command line to its end: the files it leaves, what it writes to the
two outputs, and its exit code.
-/

namespace MailMerge

/-- What the program leaves behind. -/
structure Report where
  exitCode : Nat
  output : String
  errors : String
  tree : File.Tree

namespace Program

private def line (text : String) : String := text ++ "\n"

/-- What is said about a run that is over: the number of rows passed over, if there are any. -/
def closingLines (o : Outcome) : List Log.Line :=
  if o.error.isNone ∧ o.skipped ≠ [] then
    [⟨.warn, .program, "Skipped " ++ toString o.skipped.length ++ " invalid row(s)"⟩]
  else []

/-- The report on a run whose log passes through a filter. -/
def report (f : Log.Filter) (warnings : List String) (o : Outcome) : Report :=
  let shown := (o.lines ++ closingLines o).filter f.admits
  let log := String.join ((warnings ++ shown.map Log.Line.render).map line)
  match o.error with
  | none =>
    { exitCode := 0, errors := log, tree := o.tree
      output := o.printed ++ line ("Generated " ++ toString o.written.length ++ " file(s).") }
  | some e =>
    { exitCode := 1, errors := log ++ line e.message, tree := o.tree, output := o.printed }

/-- The report on arguments that give no options. Who leaves out a required option is shown the full
help. -/
def stopped (t : File.Tree) : CommandLine.Stop → Report
  | .help full => ⟨0, CommandLine.helpText full, "", t⟩
  | .version => ⟨0, CommandLine.versionText, "", t⟩
  | .missingRequired .. => ⟨1, CommandLine.helpText true, "", t⟩
  | stop => ⟨2, "", stop.message, t⟩

/-- Runs the program. `filter` changes which log lines are shown. -/
def run (t : File.Tree) (args : List String) (filter : Option String) : Report :=
  match CommandLine.parse args with
  | .error stop => stopped t stop
  | .ok o =>
    let initial := Log.Filter.initial o.verbose
    let (f, faults) := (filter.map initial.update).getD (initial, [])
    report f (faults.map fun w => "warning: " ++ w ++ ", ignoring it") (Run.all t o)

end Program
end MailMerge
