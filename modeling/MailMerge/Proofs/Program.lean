import MailMerge.Program
import MailMerge.Proofs.CommandLine
import MailMerge.Proofs.Run.Lines

/-!
# What the program reports

The report of the program agrees with what it does to the files (`run_report`). What it does is told
by the trees (`Run.Effects`): a file counts as written if it lies in its place in the tree behind it.
There is a line for each of them, in order, and at the end of a run without error their number. What
the log says of rows passed over is told apart from all that is logged before it
(`Log.Line.IsPlain.render_ne`). Arguments that give no options leave the files alone, and the exit
code says why there are none.
-/

namespace MailMerge

/-! ### The warning behind a run

A reader of the log has to know the warning about rows passed over from all other lines. It
is known by its beginning, which no line of a run has. -/

namespace Log

/-- The warning about rows passed over, as it is shown. -/
def skippedWarning (n : Nat) : String := "[WARN]: Skipped " ++ toString n ++ " invalid row(s)"

theorem render_skippedWarning (n : Nat) :
    Line.render ⟨.warn, .program, "Skipped " ++ toString n ++ " invalid row(s)"⟩ =
      skippedWarning n := by
  have hfront : "[" ++ Level.warn.name ++ "]: " ++ "Skipped " = "[WARN]: Skipped " := by decide
  unfold Line.render skippedWarning
  generalize toString n = digits
  rw [← hfront]
  simp only [String.append_assoc]

/-- The filter that is in force at first shows all warnings. -/
theorem Filter.admits_initial (verbose : Bool) {l : Line} (h : l.level = .warn) :
    (initial verbose).admits l = true := by
  -- the one directive of the filter is for all topics
  obtain ⟨level, topic, text⟩ := l
  obtain rfl : level = .warn := h
  cases verbose <;> rfl

/-- No line of a run is shown as the warning behind it. -/
theorem Line.IsPlain.render_ne {l : Line} (h : l.IsPlain) (n : Nat) :
    l.render ≠ skippedWarning n := by
  obtain ⟨level, topic, text⟩ := l
  intro heq
  unfold render skippedWarning at heq
  generalize toString n = digits at heq
  have hchars := congrArg String.toList heq
  simp only [String.toList_append, List.append_assoc] at hchars
  -- a warning differs behind its level, in `Skipping row`, and any other line in its level
  cases level with
  | warn =>
      obtain ⟨rest, rfl⟩ := h rfl
      simp only [Level.name, String.toList_append] at hchars
      cases hchars
  | _ => cases hchars

end Log

namespace Program

open File

/-! ### Reports

A report is put together from an outcome: what is printed tells the files, the log the lines
and the error. What the outcome stands for is left to the runs. -/

/-- The lines that are printed for files. -/
def created (outs : List Output) : String :=
  String.join (outs.map fun out => "Created: '" ++ out.target ++ "'\n")

/-- The text of a log, line by line. -/
def logText (log : List String) : String := String.join (log.map (· ++ "\n"))

/-- The lines of a log that are shown. -/
def shown (f : Log.Filter) (lines : List Log.Line) : List String :=
  (lines.filter f.admits).map Log.Line.render

theorem printed_eq_created {o : Outcome} {outs : List Output}
    (h : o.written = outs.map Output.target) : o.printed = created outs := by
  rw [Outcome.printed, h, List.map_map]
  rfl

variable {f : Log.Filter} {o : Outcome}

theorem errors_report_of_ok (h : o.error = none) :
    (report f [] o).errors = logText (shown f o.lines ++ shown f (closingLines o)) := by
  simp only [report, h, List.nil_append, List.filter_append, List.map_append]
  simp only [logText, shown, List.map_append]
  rfl

theorem output_report_of_ok (h : o.error = none) (warnings : List String) :
    (report f warnings o).output =
      o.printed ++ ("Generated " ++ toString o.written.length ++ " file(s)." ++ "\n") := by
  simp only [report, h]
  rfl

theorem exitCode_report_of_ok (h : o.error = none) (warnings : List String) :
    (report f warnings o).exitCode = 0 := by
  simp only [report, h]

theorem report_of_error {e : Error} (h : o.error = some e) (warnings : List String) :
    (report f warnings o).exitCode = 1 ∧ (report f warnings o).output = o.printed ∧
      ∃ log, (report f warnings o).errors = log ++ (e.message ++ "\n") := by
  simp only [report, h, true_and]
  exact ⟨_, rfl⟩

theorem tree_report (f : Log.Filter) (warnings : List String) (o : Outcome) :
    (report f warnings o).tree = o.tree := by
  unfold report
  dsimp only
  split <;> rfl

/-- The warning behind a run without error is shown if rows were passed over. -/
theorem shown_closingLines (verbose : Bool) (h : o.error = none) :
    shown (.initial verbose) (closingLines o) =
      if o.skipped = [] then [] else [Log.skippedWarning o.skipped.length] := by
  unfold closingLines
  by_cases hskipped : o.skipped = []
  · simp [hskipped, shown]
  · rw [if_pos ⟨by simp [h], hskipped⟩, if_neg hskipped, shown,
      List.filter_cons_of_pos (Log.Filter.admits_initial verbose rfl)]
    rw [List.filter_nil, List.map_singleton, Log.render_skippedWarning]

/-! ### Runs of the program

The arguments are read before anything is done. If they give options the program is the run
with them and a report; otherwise it stops with a text, and the files are as they were. -/

variable {t : Tree} {args : List String} {filter : Option String}

theorem run_of_parse_eq_ok {o : Options} (h : CommandLine.parse args = .ok o) :
    ∃ f warnings, run t args filter = report f warnings (Run.all t o) ∧
      (filter = none → f = .initial o.verbose ∧ warnings = []) := by
  unfold run
  rw [h]
  exact ⟨_, _, rfl, by rintro rfl; exact ⟨rfl, rfl⟩⟩

theorem run_of_parse_eq_error {stop : CommandLine.Stop} (h : CommandLine.parse args = .error stop) :
    run t args filter = stopped t stop := by
  rw [run, h]

/-- **The report agrees with what was done.** If the arguments give options, the lines printed are
one for each file written, in order. Behind a run without error stands their number, the exit code
is 0, and unless a filter is asked for the log ends with the number of rows passed over, if there
are any, and says nothing of it otherwise. Behind a run with an error nothing else is printed, the
log ends with the text of the error and the exit code is 1. Arguments that give no options change
nothing; the exit code is 1 if a required one is missing and all others can be read, 0 if help or the
version is asked for, and 2 otherwise. -/
theorem run_report (t : Tree) (args : List String) (filter : Option String) :
    let r := run t args filter
    (∀ o, CommandLine.parse args = .ok o →
      ∃ outs rows e, Run.Effects t o outs rows r.tree e ∧
        (e = none → r.exitCode = 0 ∧
          r.output = created outs ++ ("Generated " ++ toString outs.length ++ " file(s)." ++ "\n") ∧
          (filter = none → ∃ log,
            r.errors = logText (log ++
              if rows = [] then [] else [Log.skippedWarning rows.length]) ∧
            ∀ l ∈ log, ∀ n, l ≠ Log.skippedWarning n)) ∧
        (∀ fault, e = some fault → r.exitCode = 1 ∧ r.output = created outs ∧
          ∃ log, r.errors = log ++ (fault.message ++ "\n"))) ∧
    ∀ stop, CommandLine.parse args = .error stop → r.tree = t ∧
      (r.exitCode = 1 ↔ ∃ s, CommandLine.readWords args = .ok s ∧
        ∃ a, CommandLine.Arg.isRequired a = true ∧ s.has a = false) ∧
      (r.exitCode = 1 → r.output = CommandLine.helpText true) ∧
      (r.exitCode = 0 ↔ stop = .version ∨ ∃ full, stop = .help full) ∧
      (r.exitCode = 0 ∨ r.exitCode = 1 ∨ r.exitCode = 2) := by
  intro r
  constructor
  · intro o hparse
    obtain ⟨outs, heffects, hwritten⟩ := Run.tells_all t o
    obtain ⟨f, warnings, hrun, hfilter⟩ := @run_of_parse_eq_ok t args filter o hparse
    have hr : r = report f warnings (Run.all t o) := hrun
    rw [hr, tree_report]
    refine ⟨outs, _, _, heffects, fun hok => ⟨exitCode_report_of_ok hok warnings, ?_,
      fun hnone => ?_⟩, fun fault hfault => ?_⟩
    -- the number printed is that of the files
    · rw [output_report_of_ok hok, printed_eq_created hwritten, hwritten, List.length_map]
    · obtain ⟨rfl, rfl⟩ := hfilter hnone
      refine ⟨shown (.initial o.verbose) (Run.all t o).lines, ?_, fun text htext n => ?_⟩
      · rw [errors_report_of_ok hok, shown_closingLines o.verbose hok]
      · -- what is shown in front of the warning are lines of the run, which are told apart from it
        obtain ⟨l, hl, rfl⟩ := List.mem_map.mp htext
        exact (Run.isPlain_of_mem_all (List.mem_of_mem_filter hl)).render_ne n
    · obtain ⟨hcode, houtput, herrors⟩ := report_of_error hfault warnings
      exact ⟨hcode, houtput.trans (printed_eq_created hwritten), herrors⟩
  · intro stop hparse
    have hr : r = stopped t stop := run_of_parse_eq_error hparse
    -- arguments that give no options: the exit code is that of the kind of stop
    rw [← CommandLine.isMissing_iff hparse, hr]
    cases stop <;> simp [stopped, CommandLine.Stop.isMissing]

/-- A working directory with a data file of two rows, the second of which names no safe file. -/
def twoRowsTree : Tree :=
  { Run.sampleTree with
    entries := Run.sampleTree.entries ++ [(["work", "rows"], .file "Ann\n../Bob".toUTF8)] }

/-- A command line for that directory. -/
def twoRowsArgs (more : List String) : List String :=
  ["-s", "template", "-d", "rows", "-v", "name", "-p", "@name", "-o", "out"] ++ more

/-- A run that passes over the second row, one that fails at it, and one without the required
arguments. -/
theorem run_report_of_three_command_lines :
    (∃ o outs rows, CommandLine.parse (twoRowsArgs ["--skip-invalid-rows"]) = .ok o ∧
      let r := run twoRowsTree (twoRowsArgs ["--skip-invalid-rows"]) none
      Run.Effects twoRowsTree o outs rows r.tree none ∧
        created outs ++ ("Generated " ++ toString outs.length ++ " file(s)." ++ "\n") =
          "Created: 'out/Ann'\nGenerated 1 file(s).\n" ∧
        ∃ log, r.errors =
          logText (log ++ if rows = [] then [] else [Log.skippedWarning rows.length])) ∧
    (∃ o outs rows fault, CommandLine.parse (twoRowsArgs []) = .ok o ∧
      let r := run twoRowsTree (twoRowsArgs []) none
      Run.Effects twoRowsTree o outs rows r.tree (some fault) ∧
        created outs = "Created: 'out/Ann'\n" ∧
        ∃ log, r.errors = log ++ (fault.message ++ "\n")) ∧
    ((run twoRowsTree ["-s", "template"] none).tree = twoRowsTree ∧
      (run twoRowsTree ["-s", "template"] none).output = CommandLine.helpText true) := by
  refine ⟨?_, ?_, ?_⟩
  · have hrun : (run twoRowsTree (twoRowsArgs ["--skip-invalid-rows"]) none).exitCode = 0 ∧
        (run twoRowsTree (twoRowsArgs ["--skip-invalid-rows"]) none).output =
          "Created: 'out/Ann'\nGenerated 1 file(s).\n" := by decide +kernel
    obtain ⟨o, ho⟩ := exists_of_isOk
      (r := CommandLine.parse (twoRowsArgs ["--skip-invalid-rows"])) (by decide +kernel)
    obtain ⟨outs, rows, e, heffects, hok, hfails⟩ := (run_report twoRowsTree _ none).1 o ho
    cases e with
    | some fault => cases hrun.1.symm.trans (hfails fault rfl).1
    | none =>
        obtain ⟨-, houtput, hlog⟩ := hok rfl
        obtain ⟨log, herrors, -⟩ := hlog rfl
        exact ⟨o, outs, rows, ho, heffects, houtput.symm.trans hrun.2, log, herrors⟩
  · have hrun : (run twoRowsTree (twoRowsArgs []) none).exitCode = 1 ∧
        (run twoRowsTree (twoRowsArgs []) none).output = "Created: 'out/Ann'\n" := by decide +kernel
    obtain ⟨o, ho⟩ := exists_of_isOk (r := CommandLine.parse (twoRowsArgs [])) (by decide +kernel)
    obtain ⟨outs, rows, e, heffects, hok, hfails⟩ := (run_report twoRowsTree _ none).1 o ho
    cases e with
    | none => cases hrun.1.symm.trans (hok rfl).1
    | some fault =>
        obtain ⟨-, houtput, herrors⟩ := hfails fault rfl
        exact ⟨o, outs, rows, fault, ho, heffects, houtput.symm.trans hrun.2, herrors⟩
  · have hrun : (run twoRowsTree ["-s", "template"] none).exitCode = 1 := by decide +kernel
    cases hparse : CommandLine.parse ["-s", "template"] with
    | ok o =>
        have hfails : (CommandLine.parse ["-s", "template"]).isOk = false := by decide +kernel
        rw [hparse] at hfails
        cases hfails
    | error stop =>
        obtain ⟨htree, -, hhelp, -⟩ := (run_report twoRowsTree _ none).2 stop hparse
        exact ⟨htree, hhelp hrun⟩

end Program
end MailMerge
