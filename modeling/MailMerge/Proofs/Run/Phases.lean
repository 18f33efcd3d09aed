import MailMerge.Proofs.Config
import MailMerge.Proofs.Run.Blocks
import MailMerge.Proofs.Run.Confinement
import MailMerge.Run

/-!
# Phases of a run

Options are checked before anything is changed, the output directory is made before the template is
read, and the template is read before any row is gone through. So a run that stops in an early phase
has no trace of a later one (`all_phases`): with a wrong option the tree is as it was, and until the
rows begin the only new things in it are directories on the way to the output directory. An error of
the options never comes from a later phase (`wrong_of_all_error`).
-/

namespace MailMerge

open File File.Tree

/-- Whether a run was over before its first row: with nothing written, passed over or printed, and
no line of a row in its log. -/
structure Outcome.OverAt (o : Outcome) (t : Tree) (lines : List Log.Line) (e : Error) : Prop where
  tree : o.tree = t
  lines_eq : o.lines = lines
  error : o.error = some e
  written : o.written = []
  skipped : o.skipped = []
  printed : o.printed = ""

theorem Outcome.logging_logging (o : Outcome) (lines lines' : List Log.Line) :
    (o.logging lines').logging lines = o.logging (lines ++ lines') :=
  congrArg (fun all => { o with lines := all }) (List.append_assoc lines lines' o.lines).symm

theorem Outcome.overAt_still (t : Tree) (lines : List Log.Line) (e : Error) :
    ((Outcome.still t (some e)).logging lines).OverAt t lines e :=
  ⟨rfl, List.append_nil lines, rfl, rfl, rfl, rfl⟩

namespace Run

variable {t : Tree} {o : Options} {c : Config} {template : String}

/-! ### Which errors come from rows

The kinds of errors tell the phases apart. The rows have errors of their own, never one of
the options, and since the loop passes on the first error it meets, neither has a run over a
whole file. -/

/-- An error of the options is none of a row. -/
theorem Step.error_ne_config {row : Nat} {fields : List String} {header : Bool} {out : Outcome}
    (h : Step c template t row fields header out) (fault : ConfigFault) :
    out.error ≠ some (.config fault) := by
  cases h with
  | header lines => exact nofun
  | skipped lines hrender hskip => exact nofun
  | refused hrender hskip =>
      rcases Config.render_eq_error hrender with ⟨v, rfl⟩ | ⟨name, rfl⟩ <;> exact nofun
  -- what cannot be written is an error of writing, which names the file
  | unwritable lines hrender hwrite =>
      obtain ⟨⟨fault', rfl⟩, -⟩ := write_eq_error hwrite
      exact nofun
  | written lines hrender hwrite => exact nofun

theorem andThen_error_ne_config {out : Outcome} {next : Tree → Outcome} {fault : ConfigFault}
    (h : out.error ≠ some (.config fault)) (hnext : ∀ u, (next u).error ≠ some (.config fault)) :
    (out.andThen next).error ≠ some (.config fault) := by
  -- the first row decides, or the rest does
  cases he : out.error with
  | some e => rwa [Outcome.andThen_of_error out next he]
  | none =>
      rw [Outcome.andThen_of_ok out next he]
      exact hnext out.tree

theorem rowsFrom_error_ne_config (failure : Option Csv.Error) (t : Tree) (header : Bool) (row : Nat)
    (records : List (List String)) (fault : ConfigFault) :
    (rowsFrom c template failure t header row records).error ≠ some (.config fault) := by
  induction records generalizing t header row with
  | nil => cases failure <;> exact nofun
  | cons fields rest ih =>
      obtain ⟨out, hstep, hrun⟩ := exists_step c template failure t header row fields rest
      rw [hrun]
      exact andThen_error_ne_config (hstep.error_ne_config fault) fun u => ih u false (row + 1)

theorem file_error_ne_config (t : Tree) (place : Location) (fault : ConfigFault) :
    (file c template t place).error ≠ some (.config fault) := by
  obtain ⟨reading, hrun, -⟩ := exists_file_eq_rows c template t place
  rw [hrun]
  exact rowsFrom_error_ne_config reading.error t c.ignoreHeader 1 reading.records fault

/-! ### The phases

A run is three nested choices: the options load or not, the output directory is made or not,
the inputs open or not. Each of the equations takes one of them, so that the statements
about phases need not unfold the run. -/

theorem openInputs_eq_error {e : Error} (h : openInputs t c = .error e) :
    ∃ fault, e = .file fault := by
  unfold openInputs at h
  cases htemplate : t.readText c.template with
  | error fault =>
      rw [htemplate] at h
      exact ⟨fault, (Except.error.inj h).symm⟩
  | ok text =>
      rw [htemplate] at h
      cases hdata : t.locate c.data with
      | error fault =>
          rw [hdata] at h
          exact ⟨fault, (Except.error.inj h).symm⟩
      | ok place =>
          rw [hdata] at h
          cases h

theorem all_of_load_eq_error {e : Error} (h : (Config.load t o).result = .error e) :
    all t o = (Outcome.still t (some e)).logging (Config.load t o).lines := by
  rw [all, h]

theorem all_of_load_eq_ok (h : (Config.load t o).result = .ok c) :
    all t o = (configured t c).logging (Config.load t o).lines := by
  rw [all, h]

theorem makeOutputDir_eq {path : String} {u : Tree} {made : Except Fault Unit}
    (h : t.makeDirs path = (u, made)) :
    makeOutputDir t path =
      (u, ⟨(makeOutputDir t path).2.lines, made.mapError (.writeFailed path)⟩) := by
  unfold makeOutputDir
  rw [h]

/-- What is logged before the rows of a run. -/
def linesBefore (t : Tree) (c : Config) : List Log.Line :=
  c.summary ++ (makeOutputDir t c.outputDir).2.lines

theorem configured_of_makeDirs_eq_error {u : Tree} {fault : Fault}
    (h : t.makeDirs c.outputDir = (u, .error fault)) :
    configured t c =
      (Outcome.still u (some (.writeFailed c.outputDir fault))).logging (linesBefore t c) := by
  rw [configured, makeOutputDir_eq h]
  rfl

theorem configured_of_makeDirs_eq_ok {u : Tree} (h : t.makeDirs c.outputDir = (u, .ok ())) :
    configured t c = Outcome.logging (linesBefore t c) (match openInputs u c with
      | .error e => .still u (some e)
      | .ok (template, place) => file c template u place) := by
  rw [configured, makeOutputDir_eq h]
  rfl

theorem configured_error_ne_config (t : Tree) (c : Config) (fault : ConfigFault) :
    (configured t c).error ≠ some (.config fault) := by
  rcases hmade : t.makeDirs c.outputDir with ⟨u, made⟩
  cases made with
  | error e =>
      rw [configured_of_makeDirs_eq_error hmade]
      exact nofun
  | ok done =>
      rw [configured_of_makeDirs_eq_ok hmade]
      -- before the rows only files are opened
      rcases hopen : openInputs u c with e | ⟨text, place⟩
      · obtain ⟨fault', rfl⟩ := openInputs_eq_error hopen
        exact nofun
      · exact file_error_ne_config u place fault

/-- A run ends with an error of the options only if one of them is wrong. -/
theorem wrong_of_all_error {fault : ConfigFault} (h : (all t o).error = some (.config fault)) :
    o.Wrong t := by
  cases hload : (Config.load t o).result with
  | error e => exact (Config.load_eq_error hload).2
  | ok c =>
      -- with options that load, everything behind them has another kind of error
      rw [all_of_load_eq_ok hload] at h
      exact absurd h (configured_error_ne_config t c fault)

/-- A run whose output directory cannot be made. -/
theorem overAt_of_makeDirs_eq_error (hload : (Config.load t o).result = .ok c) {u : Tree}
    {fault : Fault} (hmade : t.makeDirs c.outputDir = (u, .error fault)) :
    (all t o).OverAt u ((Config.load t o).lines ++ linesBefore t c)
      (.writeFailed c.outputDir fault) := by
  rw [all_of_load_eq_ok hload, configured_of_makeDirs_eq_error hmade, Outcome.logging_logging]
  exact Outcome.overAt_still u _ _

theorem openInputs_of_notText {content : ByteArray} (hread : t.read c.template = .ok content)
    (htext : String.fromUTF8? content = none) : openInputs t c = .error (.file .notText) := by
  have hreadText : t.readText c.template = .error .notText := by
    rw [readText, hread]
    simp only [bind, Except.bind, htext]
  rw [openInputs, hreadText]
  rfl

/-- A run whose template is no text. -/
theorem overAt_of_notText (hload : (Config.load t o).result = .ok c) {u : Tree}
    (hmade : t.makeDirs c.outputDir = (u, .ok ())) {content : ByteArray}
    (hread : u.read c.template = .ok content) (htext : String.fromUTF8? content = none) :
    (all t o).OverAt u ((Config.load t o).lines ++ linesBefore t c) (.file .notText) := by
  rw [all_of_load_eq_ok hload, configured_of_makeDirs_eq_ok hmade,
    openInputs_of_notText hread htext, Outcome.logging_logging]
  exact Outcome.overAt_still u _ _

/-- **Each phase comes before the next.** With a wrong option a run ends with an error of the
options and changes nothing. With right options it ends with an error that names the output
directory if that cannot be made, and with an error of files if the template is no text; no file has
changed then, and in the second case the only new things are directories at the ancestors of the
path of the output directory. In all these cases the run was over before its first row. An error of
the options comes from a wrong option only. -/
theorem all_phases (t : Tree) (o : Options) :
    let run := all t o
    let loaded := Config.load t o
    let made := t.makeDirs o.outputDir
    let sameFiles := ∀ loc content,
      run.tree.entry? loc = some (.file content) ↔ t.entry? loc = some (.file content)
    (o.Wrong t → ∃ fault, run.OverAt t loaded.lines (.config fault)) ∧
      (¬ o.Wrong t → ∃ c, loaded.result = .ok c ∧
        (∀ fault, made.2 = .error fault → sameFiles ∧
          run.OverAt made.1 (loaded.lines ++ linesBefore t c) (.writeFailed o.outputDir fault)) ∧
        (made.2 = .ok () → ∀ content, t.read o.template = .ok content →
          String.fromUTF8? content = none → sameFiles ∧
            run.OverAt made.1 (loaded.lines ++ linesBefore t c) (.file .notText) ∧
            ∀ loc, run.tree.entry? loc = t.entry? loc ∨
              (t.entry? loc = none ∧ run.tree.entry? loc = some .dir ∧
                (∃ p ∈ Path.ancestors o.outputDir, loc = t.place p) ∧
                (".." ∉ Path.steps o.outputDir → loc <+: t.place o.outputDir)))) ∧
      ∀ fault, run.error = some (.config fault) → o.Wrong t := by
  intro run loaded made sameFiles
  refine ⟨fun hwrong => ?_, fun hright => ?_, fun fault => wrong_of_all_error⟩
  · cases hload : (Config.load t o).result with
    | ok c => exact absurd hwrong (Config.load_eq_ok hload).1
    | error e =>
        obtain ⟨⟨fault, rfl⟩, -⟩ := Config.load_eq_error hload
        refine ⟨fault, ?_⟩
        show (all t o).OverAt _ _ _
        rw [all_of_load_eq_error hload]
        exact Outcome.overAt_still t _ _
  · obtain ⟨c, hload⟩ := Config.exists_load_iff.mpr hright
    obtain ⟨-, htemplate, -, hdir⟩ := Config.load_eq_ok hload
    have hadds : AddsDirs (t.IsPlaceOf (Path.ancestors o.outputDir)) t made.1 :=
      makeDirs_addsDirs t o.outputDir
    have hfiles : run.tree = made.1 → sameFiles := by
      intro htree loc content
      rw [htree]
      exact hadds.file_iff loc content
    refine ⟨c, hload, fun fault hfault => ?_, fun hok content hread htext => ?_⟩
    -- the output directory in the configuration is the one of the options
    · have hmade : t.makeDirs c.outputDir = (made.1, .error fault) := by rw [hdir, ← hfault]
      have hover := overAt_of_makeDirs_eq_error hload hmade
      rw [hdir] at hover
      exact ⟨hfiles hover.tree, hover⟩
    · have hmade : t.makeDirs c.outputDir = (made.1, .ok ()) := by rw [hdir, ← hok]
      -- the new directories hide no file, so the template is read as it was
      have hread' : made.1.read c.template = .ok content := htemplate ▸ hadds.read hread
      have hover := overAt_of_notText hload hmade hread' htext
      refine ⟨hfiles hover.tree, hover, fun loc => ?_⟩
      rw [hover.tree]
      rcases hadds.change loc with heq | ⟨hnone, hnew, p, hp, rfl⟩
      · exact Or.inl heq
      -- without `..` in its path what was made lies above the output directory
      · exact Or.inr ⟨hnone, hnew, ⟨p, hp, rfl⟩, fun hup => place_ancestor_isPrefix t hup hp⟩

/-- The sample directory with a template that is no text. -/
def notTextTree : Tree :=
  ⟨[(["work"], .dir), (["work", "template"], .file ⟨#[0xFF]⟩),
    (["work", "data"], .file "Ann".toUTF8)], ["work"]⟩

/-- A run with a blank pattern of file names, one with an output directory below a file, and one
with a template that is no text. -/
theorem all_phases_of_three_faults :
    (∃ fault, (all sampleTree { sampleOptions "out" false false with fileName := " " }).OverAt
      sampleTree [] (.config fault)) ∧
    (all sampleTree (sampleOptions "data/out" false false)).error =
      some (.writeFailed "data/out" .notADirectory) ∧
    (all notTextTree (sampleOptions "out" false false)).error = some (.file .notText) := by
  refine ⟨?_, ?_, ?_⟩
  -- each fault is found by the general statement, whose conditions are decided on the sample
  · have hblank : Options.Wrong sampleTree
        { sampleOptions "out" false false with fileName := " " } :=
      @Options.Wrong.blankFileName sampleTree _ " " (by decide +kernel) (by decide)
    exact (all_phases _ _).1 hblank
  · have hright := Config.exists_load_iff.mp <| exists_of_isOk
      (r := (Config.load sampleTree (sampleOptions "data/out" false false)).result)
      (by decide +kernel)
    obtain ⟨c, -, hunmade, -⟩ := (all_phases _ _).2.1 hright
    exact (hunmade .notADirectory (by decide +kernel)).2.error
  · have hright := Config.exists_load_iff.mp <| exists_of_isOk
      (r := (Config.load notTextTree (sampleOptions "out" false false)).result)
      (by decide +kernel)
    obtain ⟨c, -, -, hunread⟩ := (all_phases _ _).2.1 hright
    exact (hunread (by decide +kernel) ⟨#[0xFF]⟩ rfl (by decide +kernel)).2.1.error

/-- A run with a template that is no text, whose output directory is named by a path with `..`,
makes a directory beside it, which is neither the output directory nor above it. -/
theorem all_makes_directory_beside_outputDir :
    let o := sampleOptions "x/../out" false false
    let run := all notTextTree o
    run.error = some (.file .notText) ∧ notTextTree.entry? ["work", "x"] = none ∧
      run.tree.entry? ["work", "x"] = some .dir ∧ notTextTree.place o.outputDir = ["work", "out"] ∧
        ¬ ["work", "x"] <+: ["work", "out"] := by
  decide +kernel

end Run
end MailMerge
