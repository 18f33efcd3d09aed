import MailMerge.Proofs.Run.Rows

/-!
# Names that denote a directory

A file name is accepted if it leads somewhere below the output directory. That is not to say that it
denotes a file: a slash or a `.` may stand behind its last step, as in `g/` or `g/.`. A file with such
a name cannot be written in any tree (`exists_write_eq_error`), so that a row which makes one up ends
the run although invalid rows are to be passed over (`rowsFrom_append_of_write_error`).

All other accepted names denote a file. To write one fails with a directory in the way only if there
is one (`dir_of_write_eq_error`).
-/

namespace MailMerge

/-! ### The last piece of a path

A name is joined behind the pieces of the output directory, so the path ends in the same
piece as the name. The piece at the end tells a file from a directory: the empty one stands
behind a slash. -/

namespace Path

/-- What stands behind the last slash of a path. -/
def lastPiece (path : String) : List Char := (pieces path).getLast (pieces_ne_nil path)

/-- Whether the last segment of a path names something. If not, the path can only denote a
directory. -/
def DenotesFile (path : String) : Prop := lastPiece path ≠ [] ∧ lastPiece path ≠ ['.']

instance (path : String) : Decidable (DenotesFile path) :=
  inferInstanceAs (Decidable (lastPiece path ≠ [] ∧ lastPiece path ≠ ['.']))

theorem denotesFile_iff {path : String} :
    DenotesFile path ↔ isSegment (lastPiece path) = true := by
  simp [DenotesFile, isSegment]

theorem lastPiece_of_pieces {path : String} {init : List (List Char)} {last : List Char}
    (h : pieces path = init ++ [last]) : lastPiece path = last := by
  simp [lastPiece, h]

theorem lastPiece_append_slash (a b : String) : lastPiece (a ++ "/" ++ b) = lastPiece b := by
  have hpieces : pieces (a ++ "/" ++ b) = pieces a ++ (pieces b).dropLast ++ [lastPiece b] := by
    rw [pieces_append_slash, List.append_assoc, lastPiece, List.dropLast_append_getLast]
  exact lastPiece_of_pieces hpieces

theorem lastPiece_join {base path : String} (h : isAbsolute path = false) :
    lastPiece (join base path) = lastPiece path := by
  unfold join
  by_cases hb : base = ""
  · rw [if_pos (Or.inr hb)]
  · rw [if_neg (by simp [h, hb])]
    split
    · next hs =>
        obtain ⟨cs, hcs⟩ : ∃ cs, base.toList = cs ++ ['/'] := List.getLast?_eq_some_iff.mp hs
        have hbase : base = String.ofList cs ++ "/" := by
          apply String.toList_inj.mp
          simp [hcs]
        rw [hbase, lastPiece_append_slash]
    · exact lastPiece_append_slash base path

/-- A path that goes a step denotes a file if nothing stands behind its last step. -/
theorem isTrimmed_iff_denotesFile {path : String} (hsteps : steps path ≠ []) :
    IsTrimmed path ↔ DenotesFile path := by
  rw [denotesFile_iff]
  cases hps : pieces path using List.reverseRecOn with
  | nil => exact absurd hps (pieces_ne_nil path)
  | append_singleton init last _ =>
      rw [lastPiece_of_pieces hps]
      cases init with
      | nil =>
          -- the only piece is a step
          have hlast : isSegment last = true := by
            by_contra hc
            exact hsteps (by simp [steps, hps, hc])
          simp [IsTrimmed, hps, trimPieces, Text.trimEndOf, hlast]
      -- behind other pieces the last one is trimmed off exactly if it names nothing
      | cons p init =>
          constructor
          · intro htrim
            exact isSegment_of_trimPieces_eq (htrim.trans hps) (List.cons_ne_nil p init)
          · intro hlast
            rw [IsTrimmed, hps]
            exact congrArg (p :: ·) (List.rdropWhile_eq_self_iff.mpr fun _ => by simp [hlast])

end Path

/-! ### Directories in the way

Only two things report that a directory is in the way: the write itself, and there the slash
at the end or an entry that is one. To follow a path or to make directories reports other
things. -/

namespace File.Tree

variable {t u : Tree} {path : String} {content : ByteArray}

theorem checkPath_ne_isADirectory : checkPath path ≠ .error .isADirectory := by
  unfold checkPath
  split_ifs <;> nofun

theorem follow_ne_isADirectory {loc : Location} {segs : List String} :
    t.follow loc segs ≠ .error .isADirectory := by
  induction segs generalizing loc with
  | nil => nofun
  | cons s segs ih =>
      unfold follow
      split
      · nofun
      · nofun
      · split
        · nofun
        · exact ih

theorem makeDir_ne_isADirectory : t.makeDir path ≠ .error .isADirectory := by
  intro h
  unfold makeDir locate at h
  cases hc : checkPath path with
  | error e =>
      rw [hc] at h
      cases h
      exact checkPath_ne_isADirectory hc
  | ok checked =>
      rw [hc] at h
      simp only [bind, Except.bind] at h
      cases hf : t.follow (t.origin path) (segments path) with
      | error e =>
          rw [hf] at h
          cases h
          exact follow_ne_isADirectory hf
      | ok loc =>
          rw [hf] at h
          dsimp only at h
          split at h <;> cases h

theorem makeEach_ne_isADirectory {paths : List String} :
    (t.makeEach paths).2 ≠ .error .isADirectory := by
  induction paths generalizing t with
  | nil => nofun
  | cons p rest ih =>
      unfold makeEach
      split
      · exact ih
      · next e he =>
          split
          · exact ih
          · intro h
            cases h
            exact makeDir_ne_isADirectory he

theorem climb_ne_isADirectory {missing up : List String} :
    (t.climb missing up).2 ≠ .error .isADirectory := by
  induction up generalizing missing with
  | nil => exact makeEach_ne_isADirectory
  | cons p up ih =>
      unfold climb
      split
      · exact makeEach_ne_isADirectory
      · exact ih
      · next e _ he =>
          split
          · exact makeEach_ne_isADirectory
          · intro h
            cases h
            exact makeDir_ne_isADirectory he

theorem makeParents_ne_isADirectory : (t.makeParents path).2 ≠ .error .isADirectory := by
  unfold makeParents
  split
  · nofun
  · exact climb_ne_isADirectory

/-- A path that ends in no slash is refused for a directory if there is one. -/
theorem dir_of_writeFile_eq_error (hslash : endsInSlash path = false)
    (h : t.writeFile path content = .error .isADirectory) :
    t.entry? (t.place path) = some .dir := by
  unfold writeFile at h
  cases hc : checkPath path with
  | error e =>
      rw [hc] at h
      cases h
      exact absurd hc checkPath_ne_isADirectory
  | ok checked =>
      -- without a slash at the end what is left is the entry that the path leads to
      simp only [hc, bind, Except.bind, hslash, Bool.false_eq_true, and_false, if_false] at h
      cases hf : t.follow (t.origin path) (segments path) with
      | error e =>
          rw [hf] at h
          cases h
          exact absurd hf follow_ne_isADirectory
      | ok loc =>
          have hloc : loc = t.place path := by
            rw [follow_eq_ok hf, foldl_step_segments]
            rfl
          rw [hf] at h
          dsimp only at h
          split at h
          · next hdir => exact hloc ▸ hdir
          · cases h

theorem dir_of_writeWithParents_eq_error (hslash : endsInSlash path = false)
    (h : t.writeWithParents path content = (u, .error .isADirectory)) :
    u.entry? (u.place path) = some .dir := by
  have hparents : (t.makeParents path).2 ≠ .error .isADirectory := makeParents_ne_isADirectory
  unfold writeWithParents at h
  rcases hmade : t.makeParents path with ⟨t₁, e | ⟨⟩⟩
  · rw [hmade] at h hparents
    cases h
    exact absurd rfl hparents
  · rw [hmade] at h
    dsimp only at h
    cases hw : t₁.writeFile path content with
    | error e =>
        rw [hw] at h
        cases h
        exact dir_of_writeFile_eq_error hslash hw
    | ok v =>
        rw [hw] at h
        cases h

end File.Tree

namespace Run

open File

variable {c : Config} {template : String} {fields : List String} {row : Nat} {t u : Tree}

/-! ### Writing to accepted names

Of an accepted name it is decided by its last piece alone whether it can be written: joined
to the output directory it goes a step, and ends as the name does. -/

/-- Why a name is refused: it is blank, it does not start at the output directory, it goes a step
upwards, or it goes no step at all. -/
def IsRefused (name : String) : Prop :=
  Text.isBlank name = true ∨ Path.isAbsolute name = true ∨ ".." ∈ Path.steps name ∨
    Path.steps name = []

instance (name : String) : Decidable (IsRefused name) :=
  inferInstanceAs (Decidable (Text.isBlank name = true ∨ Path.isAbsolute name = true ∨
    ".." ∈ Path.steps name ∨ Path.steps name = []))

theorem isSafe_iff_not_isRefused {name : String} :
    FileName.isSafe name = true ↔ ¬ IsRefused name := by
  rw [FileName.isSafe_iff, IsRefused]
  simp only [not_or, Bool.not_eq_true]

theorem isTrimmed_join_iff {outputDir name : String} (h : ¬ IsRefused name) :
    Path.IsTrimmed (Path.join outputDir name) ↔ Path.DenotesFile name := by
  obtain ⟨-, hrel, -, hne⟩ := FileName.isSafe_iff.mp (isSafe_iff_not_isRefused.mpr h)
  have hsteps : Path.steps (Path.join outputDir name) ≠ [] := by
    rw [Path.steps_join hrel]
    exact List.append_ne_nil_of_right_ne_nil _ hne
  rw [Path.isTrimmed_iff_denotesFile hsteps, Path.DenotesFile, Path.DenotesFile,
    Path.lastPiece_join hrel]

theorem dir_of_write_eq_error {path content : String} (htrim : Path.IsTrimmed path)
    (h : write t path content = (u, .error (.writeFailed path .isADirectory))) :
    u.entry? (u.place path) = some .dir := by
  have hslash : Tree.endsInSlash path = false := decide_eq_false htrim.getLast?_ne
  unfold write at h
  rcases hw : t.writeWithParents path content.toUTF8 with ⟨v, e | done⟩
  · rw [hw] at h
    cases h
    exact Tree.dir_of_writeWithParents_eq_error hslash hw
  · rw [hw] at h
    cases h

/-- No file is written to an accepted name that denotes a directory. -/
theorem exists_write_eq_error (outputDir : String) {name : String} (h : ¬ IsRefused name)
    (hdir : ¬ Path.DenotesFile name) (t : Tree) (content : String) :
    ∃ u fault, write t (Path.join outputDir name) content =
      (u, .error (.writeFailed (Path.join outputDir name) fault)) := by
  obtain ⟨-, hrel, hup, hne⟩ := FileName.isSafe_iff.mp (isSafe_iff_not_isRefused.mpr h)
  rcases write_cases t (Path.join outputDir name) content with
    ⟨u, fault, hw, -⟩ | ⟨t₁, u, -, -, hfile⟩
  · exact ⟨u, fault, hw⟩
  · have hlast : (Path.steps (Path.join outputDir name)).getLast? =
        some ((Path.steps name).getLast hne) := by
      rw [Path.steps_join hrel, List.getLast?_append_of_ne_nil _ hne,
        List.getLast?_eq_some_getLast hne]
    have hname : (Path.steps name).getLast hne ≠ ".." := fun he => hup (he ▸ List.getLast_mem hne)
    have htrim := Tree.isTrimmed_of_writeFile_eq_ok hfile hlast hname
    exact absurd ((isTrimmed_join_iff h).mp htrim) hdir

/-! ### Rows with such names

The error of a row is of two kinds. A row without a file is passed over if that was asked
for, but a row whose file cannot be written ends the run in any case. -/

/-- Whether a row gives its file a name. -/
def Names (c : Config) (fields : List String) (row : Nat) (name : String) : Prop :=
  ∃ r, Row.toRecord c.names fields c.modifier row = .ok r ∧
    FileName.resolve c.fileName c.names r = name

theorem Names.render_eq_error {name : String} (h : Names c fields row name)
    (hrefused : IsRefused name) :
    c.render template fields row = .error (.unsafeFileName name row) := by
  obtain ⟨r, hr, rfl⟩ := h
  have hsafe := fun hsafe => isSafe_iff_not_isRefused.mp hsafe hrefused
  rw [Config.render_of_record hr, if_neg hsafe]

theorem Names.render_eq_ok {name : String} (h : Names c fields row name)
    (haccepted : ¬ IsRefused name) (template : String) :
    ∃ content, c.render template fields row = .ok ⟨Path.join c.outputDir name, content⟩ := by
  obtain ⟨r, hr, rfl⟩ := h
  exact ⟨_, by rw [Config.render_of_record hr, if_pos (isSafe_iff_not_isRefused.mpr haccepted)]⟩

/-- A row whose file cannot be written ends a run that has come to it. -/
theorem rowsFrom_append_of_write_error {header : Bool} {first : Nat}
    {before : List (List String)} {out : Output} {e : Error}
    (hbefore : (rowsFrom c template none t header first before).error = none)
    (hheader : (header && before.isEmpty) = false)
    (hrender : c.render template fields (first + before.length) = .ok out)
    (hwrite : write (rowsFrom c template none t header first before).tree out.target out.content =
      (u, .error e)) (failure : Option Csv.Error) (rest : List (List String)) :
    let run := rowsFrom c template failure t header first (before ++ fields :: rest)
    run.error = some e ∧
      run.written = (rowsFrom c template none t header first before).written ∧
      run.skipped = (rowsFrom c template none t header first before).skipped := by
  -- the row is the first of those left, in a run from where the rows before it have led
  have hrow : rowsFrom c template failure (rowsFrom c template none t header first before).tree
      (header && before.isEmpty) (first + before.length) (fields :: rest) =
        ⟨u, [], [], [⟨.debug, .processor, "Writing row " ++ toString (first + before.length) ++
          " to " ++ out.target⟩], some e⟩ := by
    rw [hheader, rowsFrom, if_neg Bool.false_ne_true, hrender]
    dsimp only
    rw [hwrite]
    rfl
  intro run
  have hrun : run = _ := (rowsFrom_append c template failure t header first before _).trans
    (Outcome.andThen_of_ok _ _ hbefore)
  rw [hrun, hrow]
  exact ⟨rfl, List.append_nil _, List.append_nil _⟩

/-- **What becomes of a name.** A name is refused with an error of its row, or it is accepted. If an
accepted name denotes a file, to write it fails for a directory only where there is one. If it does
not, each write to it fails, and a run that comes to a row with that name ends there, whether or not
invalid rows are to be passed over. -/
theorem denotesFile_or_stops (outputDir name : String) (row : Nat) :
    let target := FileName.target outputDir name row
    let path := Path.join outputDir name
    (IsRefused name ∧ target = .error (.unsafeFileName name row) ∧
      ∀ c template fields, Names c fields row name →
        c.render template fields row = .error (.unsafeFileName name row)) ∨
    (¬ IsRefused name ∧ target = .ok path ∧ Path.DenotesFile name ∧
      ∀ t content u, write t path content = (u, .error (.writeFailed path .isADirectory)) →
        u.entry? (u.place path) = some .dir) ∨
    (¬ IsRefused name ∧ target = .ok path ∧ ¬ Path.DenotesFile name ∧
      (∀ t content, ∃ u fault,
        write t path content = (u, .error (.writeFailed path fault))) ∧
      ∀ c template failure t header first before fields rest,
        let run := rowsFrom c template failure t header first (before ++ fields :: rest)
        let sofar := rowsFrom c template none t header first before
        c.outputDir = outputDir → Names c fields row name → row = first + before.length →
        (header && before.isEmpty) = false → sofar.error = none →
          run.written = sofar.written ∧ run.skipped = sofar.skipped ∧
            ∃ fault, run.error = some (.writeFailed path fault)) := by
  intro target path
  by_cases hrefused : IsRefused name
  · left
    have hsafe := fun hsafe => isSafe_iff_not_isRefused.mp hsafe hrefused
    exact ⟨hrefused, if_neg hsafe, fun c template fields h => h.render_eq_error hrefused⟩
  · right
    have htarget : target = .ok path := if_pos (isSafe_iff_not_isRefused.mpr hrefused)
    -- accepted: it depends on what the name ends in
    by_cases hfile : Path.DenotesFile name
    · left
      refine ⟨hrefused, htarget, hfile, fun t content u h => ?_⟩
      exact dir_of_write_eq_error ((isTrimmed_join_iff hrefused).mpr hfile) h
    · right
      refine ⟨hrefused, htarget, hfile, exists_write_eq_error outputDir hrefused hfile, ?_⟩
      intro c template failure t header first before fields rest run sofar hdir hnames hrow hheader
        hsofar
      obtain ⟨content, hrender⟩ := hnames.render_eq_ok hrefused template
      rw [hdir, hrow] at hrender
      obtain ⟨u, fault, hwrite⟩ :=
        exists_write_eq_error outputDir hrefused hfile sofar.tree content
      obtain ⟨herror, hwritten, hskipped⟩ :=
        rowsFrom_append_of_write_error hsofar hheader hrender hwrite failure rest
      exact ⟨hwritten, hskipped, fault, herror⟩

/-- Files in directories by group, of which one row gives no name for the file. -/
theorem denotesFile_or_stops_of_empty_value :
    ∃ c, (Config.load sampleTree { sampleOptions "out" false true with
        variableList := "group,serial", fileName := "@group/@serial" }).result = .ok c ∧
      c.skipInvalidRows = true ∧ Names c ["g", ""] 2 "g/" ∧
      let run := rowsFrom c "Dear @group" none sampleTree false 1 [["f", "1"], ["g", ""], ["h", "2"]]
      run.written = ["out/f/1"] ∧ run.skipped = [] ∧
        ∃ fault, run.error = some (.writeFailed "out/g/" fault) := by
  have h : ((Config.load sampleTree { sampleOptions "out" false true with
      variableList := "group,serial", fileName := "@group/@serial" }).result.toOption.any fun c =>
      let sofar := rowsFrom c "Dear @group" none sampleTree false 1 [["f", "1"]]
      c.skipInvalidRows && c.outputDir == "out" && decide (sofar.error = none) &&
        decide (sofar.written = ["out/f/1"]) && decide (sofar.skipped = []) &&
        (Row.toRecord c.names ["g", ""] c.modifier 2).toOption.any fun r =>
          FileName.resolve c.fileName c.names r == "g/") = true := by
    decide +kernel
  obtain ⟨c, hc, hrun⟩ := exists_of_any_toOption h
  simp only [Bool.and_eq_true, decide_eq_true_eq, beq_iff_eq] at hrun
  obtain ⟨⟨⟨⟨⟨hskip, hdir⟩, herror⟩, hwritten⟩, hskipped⟩, hrecord⟩ := hrun
  obtain ⟨r, hr, hname⟩ := exists_of_any_toOption hrecord
  have hnames : Names c ["g", ""] 2 "g/" := ⟨r, hr, by simpa using hname⟩
  rcases denotesFile_or_stops "out" "g/" 2 with ⟨hrefused, -⟩ | ⟨-, -, hfile, -⟩ | ⟨-, -, -, -, h⟩
  · exact absurd hrefused (by decide +kernel)
  · exact absurd hfile (by decide +kernel)
  · obtain ⟨hwritten', hskipped', hstop⟩ := h c "Dear @group" none sampleTree false 1 [["f", "1"]]
      ["g", ""] [["h", "2"]] hdir hnames rfl rfl herror
    exact ⟨c, hc, hskip, hnames, hwritten'.trans hwritten, hskipped'.trans hskipped, hstop⟩

/-- A name that denotes no file is accepted, and ends a run that is told to pass over invalid rows. -/
theorem directory_name_is_accepted :
    (∃ path, FileName.target "out" "g/" 1 = .ok path ∧ ¬ Path.DenotesFile "g/") ∧
      ∃ c, (Config.load sampleTree { sampleOptions "out" false true with
          variableList := "group,serial", fileName := "@group/@serial" }).result = .ok c ∧
        c.skipInvalidRows = true ∧
        (rows c "Dear @group" sampleTree (Csv.read "g,\nh,1".toUTF8.toList none)).error =
          some (.writeFailed "out/g/" .isADirectory) := by
  have h : ((Config.load sampleTree { sampleOptions "out" false true with
      variableList := "group,serial", fileName := "@group/@serial" }).result.toOption.any fun c =>
      c.skipInvalidRows && decide
        ((rows c "Dear @group" sampleTree (Csv.read "g,\nh,1".toUTF8.toList none)).error =
          some (.writeFailed "out/g/" .isADirectory))) = true := by
    decide +kernel
  obtain ⟨c, hc, hrun⟩ := exists_of_any_toOption h
  simp only [Bool.and_eq_true, decide_eq_true_eq] at hrun
  exact ⟨⟨"out/g/", by decide +kernel, by decide +kernel⟩, c, hc, hrun.1, hrun.2⟩

end Run
end MailMerge
