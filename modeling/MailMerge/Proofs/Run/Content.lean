import MailMerge.Proofs.Run.Summary

/-!
# What the files hold after a run

A run never takes anything away: directories stay directories and files stay files (`Keeps`). If it
ends without error, each location holds what the last row whose file lies there gave it, and what no
row has its file at is as before, but that directories may be new (`rowsFrom_entry`). Rows have
their files at one location exactly if the paths of these have the same steps
(`place_target_eq_iff`).
-/

namespace MailMerge.Run

open File File.Tree

/-! ### Nothing disappears

It is said of one write what it keeps, and a run is a sequence of writes. What a write may
do to a file is to give it another content. -/

/-- A tree in which the directories and files of another one are directories and files still. -/
structure Keeps (t u : Tree) : Prop where
  workDir_eq : u.workDir = t.workDir
  dir : ∀ loc, t.entry? loc = some .dir → u.entry? loc = some .dir
  file : ∀ loc content, t.entry? loc = some (.file content) →
    ∃ content', u.entry? loc = some (.file content')

namespace Keeps

variable {t u v : Tree}

theorem refl (t : Tree) : Keeps t t := ⟨rfl, fun _ h => h, fun _ content h => ⟨content, h⟩⟩

theorem trans (h : Keeps t u) (hv : Keeps u v) : Keeps t v := by
  refine ⟨hv.workDir_eq.trans h.workDir_eq, fun loc hdir => hv.dir loc (h.dir loc hdir),
    fun loc content hfile => ?_⟩
  obtain ⟨content', hfile'⟩ := h.file loc content hfile
  exact hv.file loc content' hfile'

theorem of_addsDirs {places : Location → Prop} (h : AddsDirs places t u) : Keeps t u :=
  ⟨h.workDir_eq, fun _ hdir => h.keeps hdir, fun _ content hfile => ⟨content, h.keeps hfile⟩⟩

/-- A file is written over a file or over nothing. -/
theorem of_writeFile {path : String} {content : ByteArray}
    (h : t.writeFile path content = .ok u) : Keeps t u := by
  obtain ⟨-, hdir, rfl, -⟩ := writeFile_eq_ok h
  have hlookup := lookup_insert t (ne_nil_of_ne_dir hdir) (.file content)
  refine ⟨rfl, fun loc hloc => ?_, fun loc old hold => ?_⟩
  -- the location that was written to held no directory
  · have hne : loc ≠ t.place path := fun he => hdir (he ▸ hloc)
    rw [hlookup, if_neg hne, hloc]
  · rw [hlookup]
    split
    · exact ⟨content, rfl⟩
    · exact ⟨old, hold⟩

end Keeps

theorem keeps_write (t : Tree) (path content : String) : Keeps t (write t path content).1 := by
  rcases write_cases t path content with ⟨u, fault, h, hadds⟩ | ⟨t₁, u, h, hadds, hw⟩
  · rw [h]
    exact .of_addsDirs hadds
  · rw [h]
    exact (Keeps.of_addsDirs hadds).trans (.of_writeFile hw)

theorem keeps_rowsFrom (c : Config) (template : String) (failure : Option Csv.Error) (t : Tree)
    (header : Bool) (row : Nat) (records : List (List String)) :
    Keeps t (rowsFrom c template failure t header row records).tree :=
  rowsFrom_rel c template failure Keeps.refl (fun _ _ _ => Keeps.trans)
    (fun t _ _ out _ => keeps_write t out.target out.content) t header row records

/-! ### Files stay where they can be read

A file that was written is found under its path then. It is found there to the end of the
run, for none of the directories on the way goes away. -/

variable {c : Config} {template : String}

/-- The path of a file that was written can be followed and ends in no slash. -/
def Readable (t : Tree) (path : String) : Prop :=
  t.locate path = .ok (t.place path) ∧ endsInSlash path = false

theorem Readable.of_keeps {t u : Tree} {path : String} (h : Readable t path) (hkeeps : Keeps t u) :
    Readable u path := by
  refine ⟨?_, h.2⟩
  rw [place_of_workDir_eq hkeeps.workDir_eq]
  exact locate_mono hkeeps.workDir_eq hkeeps.dir h.1

theorem readable_of_write {t u : Tree} {fields : List String} {row : Nat} {out : Output}
    (hrender : c.render template fields row = .ok out)
    (h : write t out.target out.content = (u, .ok ())) : Readable u out.target := by
  obtain ⟨n, hlast, hup⟩ := Config.getLast?_steps_target hrender
  obtain ⟨t₁, -, hfile⟩ := write_eq_ok h
  have hread : Readable t₁ out.target :=
    ⟨(writeFile_eq_ok hfile).1, endsInSlash_of_writeFile_eq_ok hfile hlast hup⟩
  exact hread.of_keeps (.of_writeFile hfile)

theorem readable_of_mem_written {failure : Option Csv.Error} {t : Tree} {header : Bool} {row : Nat}
    {records : List (List String)} {path : String}
    (hpath : path ∈ (rowsFrom c template failure t header row records).written) :
    Readable (rowsFrom c template failure t header row records).tree path := by
  induction records generalizing t header row with
  | nil => cases hpath
  | cons fields rest ih =>
      obtain ⟨o, hstep, hrun⟩ := exists_step c template failure t header row fields rest
      rw [hrun] at hpath ⊢
      cases hstep with
      | header lines => exact ih hpath
      | skipped lines hrender hskip => exact ih hpath
      | refused hrender hskip => cases hpath
      | unwritable lines hrender hwrite => cases hpath
      | written lines hrender hwrite =>
          rcases List.mem_cons.mp hpath with rfl | hpath
          -- the rows behind keep what is on the way to this file
          · exact (readable_of_write hrender hwrite).of_keeps (keeps_rowsFrom ..)
          · exact ih hpath

/-! ### The last row for a location

The invariant of a run from the last row to the first: each location holds what the last row
for it gave. A row put in front is the last one for its location only if no row behind it
has its file there. -/

/-- What the last of some rows with its file at a location gives. -/
def LastAt (c : Config) (template : String) (t : Tree) (rs : List (List String × Nat))
    (loc : Location) (out : Output) : Prop :=
  ∃ before r behind, rs = before ++ r :: behind ∧ output? c template r = some out ∧
    t.place out.target = loc ∧
    ∀ s ∈ behind, ∀ out', output? c template s = some out' → t.place out'.target ≠ loc

/-- None of some rows has its file at a location. -/
def NoneAt (c : Config) (template : String) (t : Tree) (rs : List (List String × Nat))
    (loc : Location) : Prop :=
  ∀ r ∈ rs, ∀ out, output? c template r = some out → t.place out.target ≠ loc

theorem LastAt.cons {t : Tree} {rs : List (List String × Nat)} {loc : Location} {out : Output}
    (h : LastAt c template t rs loc out) (r : List String × Nat) :
    LastAt c template t (r :: rs) loc out := by
  obtain ⟨before, s, behind, rfl, hlast⟩ := h
  exact ⟨r :: before, s, behind, rfl, hlast⟩

theorem NoneAt.cons {t : Tree} {rs : List (List String × Nat)} {loc : Location}
    (h : NoneAt c template t rs loc) {r : List String × Nat}
    (hr : ∀ out, output? c template r = some out → t.place out.target ≠ loc) :
    NoneAt c template t (r :: rs) loc := by
  intro s hs
  rcases List.mem_cons.mp hs with rfl | hs
  · exact hr
  · exact h s hs

/-- What a location holds after rows were gone through: what the last row for it gave, or else what
it held before, or a new directory. -/
def Holds (c : Config) (template : String) (t : Tree) (rs : List (List String × Nat)) (u : Tree)
    (loc : Location) : Prop :=
  (∃ out, LastAt c template t rs loc out ∧
      u.entry? loc = some (.file out.content.toUTF8)) ∨
    (NoneAt c template t rs loc ∧
      (u.entry? loc = t.entry? loc ∨ (t.entry? loc = none ∧ u.entry? loc = some .dir)))

theorem Holds.cons_none {t u : Tree} {rs : List (List String × Nat)} {loc : Location}
    (h : Holds c template t rs u loc) {r : List String × Nat}
    (hr : output? c template r = none) : Holds c template t (r :: rs) u loc := by
  rcases h with ⟨out, hlast, hentry⟩ | ⟨hnone, hentry⟩
  · exact Or.inl ⟨out, hlast.cons r, hentry⟩
  · refine Or.inr ⟨hnone.cons fun out hout => ?_, hentry⟩
    rw [hr] at hout
    cases hout

/-- A row is written, and then others are gone through. -/
theorem Holds.cons_some {t u v : Tree} {rs : List (List String × Nat)} {loc : Location}
    {r : List String × Nat} {out : Output} (h : Holds c template u rs v loc)
    (hr : output? c template r = some out)
    (hwrite : write t out.target out.content = (u, .ok ())) :
    Holds c template t (r :: rs) v loc := by
  have hplace : ∀ p, u.place p = t.place p := by
    have hwork := workDir_write t out.target out.content
    rw [hwrite] at hwork
    exact place_of_workDir_eq hwork
  have hentry := write_entry hwrite loc
  unfold Holds LastAt NoneAt at h
  simp only [hplace] at h
  -- a row behind has its file there, and is the last one still
  rcases h with ⟨out', hlast, hv⟩ | ⟨hnone, hv⟩
  · exact Or.inl ⟨out', LastAt.cons hlast r, hv⟩
  · by_cases hloc : loc = t.place out.target
    · -- the row itself is the last one, and no directory was made in its place
      left
      rw [if_pos hloc] at hentry
      refine ⟨out, ⟨[], r, rs, rfl, hr, hloc.symm, hnone⟩, ?_⟩
      rcases hv with heq | ⟨hempty, -⟩
      · rw [heq, hentry]
      · rw [hentry] at hempty
        cases hempty
    -- the row has its file elsewhere, and made at most a directory here
    · right
      rw [if_neg hloc] at hentry
      refine ⟨NoneAt.cons hnone fun out' hout' => ?_, ?_⟩
      · rw [hr] at hout'
        cases hout'
        exact fun he => hloc he.symm
      · rcases hentry with heq | ⟨hempty, hnew⟩
        · rwa [heq] at hv
        · rcases hv with heq | ⟨hnone', -⟩
          · exact Or.inr ⟨hempty, heq.trans hnew⟩
          · rw [hnew] at hnone'
            cases hnone'

/-- After a run without error each location holds what the last row for it gave, or what it held
before, or a new directory. -/
theorem rowsFrom_entry {failure : Option Csv.Error} {t : Tree} {header : Bool} {row : Nat}
    {records : List (List String)}
    (h : (rowsFrom c template failure t header row records).error = none) (loc : Location) :
    Holds c template t (dataRows header row records)
      (rowsFrom c template failure t header row records).tree loc := by
  induction records generalizing t header row with
  | nil =>
      rw [dataRows_nil]
      exact Or.inr ⟨fun r hr => (List.not_mem_nil hr).elim, Or.inl rfl⟩
  | cons fields rest ih =>
      obtain ⟨o, hstep, hrun⟩ := exists_step c template failure t header row fields rest
      rw [hrun] at h ⊢
      cases hstep with
      | header lines =>
          rw [dataRows_header]
          exact ih h
      | skipped lines hrender hskip =>
          rw [dataRows_cons]
          exact (ih h).cons_none (output?_eq_none.mpr ⟨_, hrender⟩)
      | refused hrender hskip => cases h
      | unwritable lines hrender hwrite => cases h
      | written lines hrender hwrite =>
          rw [dataRows_cons]
          exact (ih h).cons_some (output?_eq_some.mpr hrender) hwrite

/-! ### One location under several names -/

/-- Output files lie at one location exactly if their paths have the same steps. -/
theorem place_target_eq_iff (t : Tree) {fields fields' : List String} {row row' : Nat}
    {out out' : Output} (h : c.render template fields row = .ok out)
    (h' : c.render template fields' row' = .ok out') :
    t.place out.target = t.place out'.target ↔ Path.steps out.target = Path.steps out'.target := by
  obtain ⟨names, -, hup, hsteps, habs⟩ := Config.steps_target h
  obtain ⟨names', -, hup', hsteps', habs'⟩ := Config.steps_target h'
  rw [place_of_steps_eq_append t hsteps habs hup, place_of_steps_eq_append t hsteps' habs' hup',
    hsteps, hsteps', List.append_right_inj, List.append_right_inj]

/-- In rows with increasing numbers, a row with a greater number stands behind. -/
theorem mem_of_append_cons {before behind : List (List String × Nat)} {r s : List String × Nat}
    (hp : (before ++ r :: behind).Pairwise fun r s => r.2 < s.2)
    (hs : s ∈ before ++ r :: behind) (hlt : r.2 < s.2) : s ∈ behind := by
  obtain ⟨-, -, hbefore⟩ := List.pairwise_append.mp hp
  -- the rows before have smaller numbers
  rcases List.mem_append.mp hs with hs | hs
  · have hsr : s.2 < r.2 := hbefore s hs r List.mem_cons_self
    omega
  · rcases List.mem_cons.mp hs with rfl | hs
    · omega
    · exact hs

/-- The last row for a location, by the numbers of the rows. -/
theorem LastAt.exists_row {t : Tree} {header : Bool} {records : List (List String)}
    {loc : Location} {out : Output}
    (h : LastAt c template t (dataRows header 1 records) loc out) :
    ∃ i fields, headerLength header records < i ∧ records[i - 1]? = some fields ∧
      c.render template fields i = .ok out ∧ t.place out.target = loc ∧
      ∀ j fields' out', i < j → records[j - 1]? = some fields' →
        c.render template fields' j = .ok out' → t.place out'.target ≠ loc := by
  obtain ⟨before, ⟨fields, i⟩, behind, hrows, hsome, hat, hbehind⟩ := h
  have hmem : (fields, i) ∈ dataRows header 1 records := by
    rw [hrows]
    exact List.mem_append_right _ List.mem_cons_self
  obtain ⟨hi, hfields⟩ := mem_dataRows.mp hmem
  refine ⟨i, fields, hi, hfields, output?_eq_some.mp hsome, hat, ?_⟩
  intro j fields' out' hij hfields' hrender'
  have hmem' : (fields', j) ∈ dataRows header 1 records :=
    mem_dataRows.mpr ⟨Nat.lt_trans hi hij, hfields'⟩
  have hp := pairwise_dataRows header 1 records
  rw [hrows] at hmem' hp
  exact hbehind _ (mem_of_append_cons hp hmem' hij) out' (output?_eq_some.mpr hrender')

/-- **After a run each file holds what the last row for it gave.** If a run ends without error, each
file written can be read under its path and holds the content of the last row whose path has the
same steps. A file at a location no row has its file at is as before, and what was a directory or a
file before is one still. -/
theorem rows_content (c : Config) (template : String) (t : Tree) (data : List UInt8)
    (failure : Option String)
    (hok : (rows c template t (Csv.read data failure)).error = none) :
    let records := (Csv.read data failure).records
    let run := rows c template t (Csv.read data failure)
    let h := if c.ignoreHeader ∧ records ≠ [] then 1 else 0
    (∀ path ∈ run.written, ∃ i fields out, h < i ∧ records[i - 1]? = some fields ∧
        c.render template fields i = .ok out ∧ Path.steps out.target = Path.steps path ∧
        (∀ j fields' out', i < j → records[j - 1]? = some fields' →
          c.render template fields' j = .ok out' → Path.steps out'.target ≠ Path.steps path) ∧
        run.tree.entry? (t.place path) = some (.file out.content.toUTF8) ∧
        run.tree.read path = .ok out.content.toUTF8) ∧
      (∀ loc, (∀ i fields out, h < i → records[i - 1]? = some fields →
          c.render template fields i = .ok out → t.place out.target ≠ loc) →
        ∀ content, run.tree.entry? loc = some (.file content) ↔
          t.entry? loc = some (.file content)) ∧
      (∀ loc, t.entry? loc = some .dir → run.tree.entry? loc = some .dir) ∧
      (∀ loc content, t.entry? loc = some (.file content) →
        ∃ content', run.tree.entry? loc = some (.file content')) := by
  intro records run h
  have hkeeps : Keeps t run.tree := keeps_rowsFrom c template _ t _ _ _
  have hholds : ∀ loc, Holds c template t (dataRows c.ignoreHeader 1 records) run.tree loc :=
    rowsFrom_entry hok
  have hwritten : run.written =
      (outputs c template (dataRows c.ignoreHeader 1 records)).map Output.target :=
    (rowsFrom_ok hok).2.1
  refine ⟨fun path hpath => ?_, fun loc hloc content => ?_, hkeeps.dir, hkeeps.file⟩
  · have hreadable : Readable run.tree path := readable_of_mem_written hpath
    have hplace : run.tree.place path = t.place path := place_of_workDir_eq hkeeps.workDir_eq path
    -- the path is that of some row, so there is a last row for its place
    rw [hwritten] at hpath
    obtain ⟨out₀, hout₀, rfl⟩ := List.mem_map.mp hpath
    obtain ⟨r₀, hrow₀, hsome₀⟩ := List.mem_filterMap.mp hout₀
    have hrender₀ := output?_eq_some.mp hsome₀
    rcases hholds (t.place out₀.target) with ⟨out, hlast, hentry⟩ | ⟨hnone, -⟩
    · obtain ⟨i, fields, hi, hfields, hrender, hat, hbehind⟩ := hlast.exists_row
      refine ⟨i, fields, out, hi, hfields, hrender, ?_, ?_, hentry, ?_⟩
      · exact (place_target_eq_iff t hrender hrender₀).mp hat
      · intro j fields' out' hij hfields' hrender' hsteps
        exact hbehind j fields' out' hij hfields' hrender'
          ((place_target_eq_iff t hrender' hrender₀).mpr hsteps)
      · rw [← hplace] at hentry
        exact read_eq_ok hreadable.1 hreadable.2 hentry
    · exact absurd rfl (hnone r₀ hrow₀ out₀ hsome₀)
  · rcases hholds loc with ⟨out, hlast, -⟩ | ⟨-, heq | ⟨hnone, hdir⟩⟩
    · obtain ⟨i, fields, hi, hfields, hrender, hat, -⟩ := hlast.exists_row
      exact absurd hat (hloc i fields out hi hfields hrender)
    · rw [heq]
    · rw [hnone, hdir]
      simp

/-- Two rows name one file, and the file is there under both names. -/
theorem rows_content_of_two_names :
    ∃ c, (Config.load sampleTree (sampleOptions "out" false false)).result = .ok c ∧
      let run := rows c "Dear @name" sampleTree (Csv.read "Ann\n./Ann\nBob".toUTF8.toList none)
      run.error = none ∧ run.written = ["out/Ann.txt", "out/./Ann.txt", "out/Bob.txt"] ∧
        ∀ path ∈ run.written, ∃ i fields out, c.render "Dear @name" fields i = .ok out ∧
          run.tree.read path = .ok out.content.toUTF8 := by
  have h : ((Config.load sampleTree (sampleOptions "out" false false)).result.toOption.any
      fun c => decide
        ((rows c "Dear @name" sampleTree
          (Csv.read "Ann\n./Ann\nBob".toUTF8.toList none)).error = none ∧
        (rows c "Dear @name" sampleTree
          (Csv.read "Ann\n./Ann\nBob".toUTF8.toList none)).written =
            ["out/Ann.txt", "out/./Ann.txt", "out/Bob.txt"])) = true := by
    decide +kernel
  obtain ⟨c, hc, hrun⟩ := exists_of_any_toOption h
  obtain ⟨hok, hwritten⟩ := of_decide_eq_true hrun
  refine ⟨c, hc, hok, hwritten, fun path hpath => ?_⟩
  obtain ⟨i, fields, out, -, -, hrender, -, -, -, hread⟩ :=
    (rows_content c "Dear @name" sampleTree _ none hok).1 path hpath
  exact ⟨i, fields, out, hrender, hread⟩

end MailMerge.Run
