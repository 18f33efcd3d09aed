import MailMerge.Proofs.Run.Order
import MailMerge.Proofs.Run.Phases

/-!
# What a run does to the files

What a run has done is told by the trees that it goes through. A file counts as written if it could
be, lies in its place then and can be read back (`Wrote`); if it could not be, all files are as they
were (`CouldNot`). So the files that a run writes lead from tree to tree (`Trail`), one for each row
that can be rendered, up to the row that ends the run (`Ends`). Before the rows there are at most new
directories, and if the run is over by then, no file has changed (`Effects`).

The outcome of a run tells just this (`tells_all`).
-/

namespace MailMerge

open File File.Tree

/-- Whether an outcome tells of what was done: of the files written, by their paths, of the rows
passed over, of the tree left and of the error at the end. -/
def Outcome.Tells (o : Outcome)
    (done : List Output → List Nat → Tree → Option Error → Prop) : Prop :=
  ∃ outs, done outs o.skipped o.tree o.error ∧ o.written = outs.map Output.target

namespace Run

variable {c : Config} {template : String} {t u v : Tree} {out : Output} {outs : List Output}
  {fields : List String} {row : Nat}

/-! ### Writing files

A write is judged by the trees before and after it. The conditions do not mention how it is
done: whether it can be is a matter of what lies on the way of its path, and what it does is
seen at each location. -/

/-- What the writing of a file has done: nothing was in its way, it lies in its place with the
directories above it, all else is as before, and it can be read back. -/
structure Wrote (t : Tree) (out : Output) (u : Tree) : Prop where
  canWrite : t.CanWrite out.target
  written : t.Written out.target out.content.toUTF8 u
  read_eq : u.read out.target = .ok out.content.toUTF8

/-- What is left where a file could not be written: new directories above it at most. -/
structure CouldNot (t : Tree) (out : Output) (u : Tree) : Prop where
  cannot : ¬ t.CanWrite out.target
  addsDirs : AddsDirs (t.IsPlaceOf (Path.above out.target)) t u

/-- Files written one after the other, each into the tree that the ones before it have left. -/
inductive Trail : Tree → List Output → Tree → Prop
  | nil {t : Tree} : Trail t [] t
  | cons {t u v : Tree} {out : Output} {outs : List Output} :
      Wrote t out u → Trail u outs v → Trail t (out :: outs) v

theorem wrote_of_write_eq_ok (hrender : c.render template fields row = .ok out)
    (h : write t out.target out.content = (u, .ok ())) : Wrote t out u := by
  obtain ⟨hcan, hwritten⟩ := of_write_eq_ok hrender h
  obtain ⟨hlocate, hslash⟩ := readable_of_write hrender h
  refine ⟨hcan, hwritten, read_eq_ok hlocate hslash ?_⟩
  rw [hwritten.place_eq]
  exact hwritten.file

theorem couldNot_of_write_eq_error (hrender : c.render template fields row = .ok out) {e : Error}
    (h : write t out.target out.content = (u, .error e)) : CouldNot t out u := by
  refine ⟨fun hcan => ?_, (write_eq_error h).2⟩
  obtain ⟨v, hv⟩ := exists_write_eq_ok hrender hcan
  rw [h] at hv
  cases hv

/-! ### Rows

A course is told from its end: a run that ends at once, and a row that was passed over or
written in front of one. The rows gone through are those that it ends behind. -/

/-- Why a run ends in front of some numbered rows, with the tree it leaves and its error: there are
none left to read, the next one cannot be rendered, or its file cannot be written. -/
inductive Ends (c : Config) (template : String) (failure : Option Csv.Error) (t : Tree) :
    List (List String × Nat) → Tree → Option Error → Prop
  | read : Ends c template failure t [] t (failure.map .data)
  | refused {r rest e} : c.render template r.1 r.2 = .error e → c.skipInvalidRows = false →
      Ends c template failure t (r :: rest) t (some e)
  | unwritable {r rest out u fault} : c.render template r.1 r.2 = .ok out → CouldNot t out u →
      Ends c template failure t (r :: rest) u (some (.writeFailed out.target fault))

/-- What a run over numbered rows does. It has come to the end of the rows or to one that ends it; of
those in front, the ones that can be rendered have their files written in order, and the others are
passed over, if that is wanted. -/
def Course (c : Config) (template : String) (failure : Option Csv.Error) (t : Tree)
    (rs : List (List String × Nat)) (outs : List Output) (skipped : List Nat) (u : Tree)
    (e : Option Error) : Prop :=
  ∃ done rest v, rs = done ++ rest ∧ outs = outputs c template done ∧
    skipped = refused c template done ∧ (c.skipInvalidRows = false → skipped = []) ∧
    Trail t outs v ∧ Ends c template failure v rest u e

namespace Course

variable {failure : Option Csv.Error} {rs : List (List String × Nat)} {skipped : List Nat}
  {e : Option Error}

/-- A run that ends in front of the first row has done nothing before. -/
theorem of_ends (h : Ends c template failure t rs u e) :
    Course c template failure t rs [] [] u e :=
  ⟨[], rs, t, rfl, rfl, rfl, fun _ => rfl, .nil, h⟩

theorem passing {fault : Error} (hrender : c.render template fields row = .error fault)
    (hskip : c.skipInvalidRows = true) (h : Course c template failure t rs outs skipped u e) :
    Course c template failure t ((fields, row) :: rs) outs (row :: skipped) u e := by
  obtain ⟨done, rest, v, rfl, rfl, rfl, -, htrail, hends⟩ := h
  have hnone : output? c template (fields, row) = none := output?_eq_none.mpr ⟨_, hrender⟩
  refine ⟨(fields, row) :: done, rest, v, rfl, ?_, ?_, ?_, htrail, hends⟩
  · rw [outputs, outputs, List.filterMap_cons_none hnone]
  · rw [refused, refused, List.filter_cons_of_pos (by simp [hnone]), List.map_cons]
  · intro hstrict
    cases hskip.symm.trans hstrict

theorem writing (hrender : c.render template fields row = .ok out) (hwrote : Wrote t out u)
    (h : Course c template failure u rs outs skipped v e) :
    Course c template failure t ((fields, row) :: rs) (out :: outs) skipped v e := by
  obtain ⟨done, rest, w, rfl, rfl, rfl, hskip, htrail, hends⟩ := h
  have hsome := output?_eq_some.mpr hrender
  refine ⟨(fields, row) :: done, rest, w, rfl, ?_, ?_, hskip, .cons hwrote htrail, hends⟩
  · rw [outputs, outputs, List.filterMap_cons_some hsome]
  · rw [refused, refused, List.filter_cons_of_neg (by simp [hsome])]

end Course

theorem tells_rowsFrom (c : Config) (template : String) (failure : Option Csv.Error) (t : Tree)
    (header : Bool) (row : Nat) (records : List (List String)) :
    (rowsFrom c template failure t header row records).Tells
      (Course c template failure t (dataRows header row records)) := by
  induction records generalizing t header row with
  | nil =>
      rw [dataRows_nil]
      exact ⟨[], .of_ends .read, rfl⟩
  | cons fields rest ih =>
      obtain ⟨o, hstep, hrun⟩ := exists_step c template failure t header row fields rest
      rw [hrun]
      cases hstep with
      | header lines =>
          rw [dataRows_header]
          exact ih t false (row + 1)
      | skipped lines hrender hskip =>
          obtain ⟨outs, hcourse, hwritten⟩ := ih t false (row + 1)
          rw [dataRows_cons]
          exact ⟨outs, hcourse.passing hrender hskip, hwritten⟩
      | refused hrender hskip =>
          rw [dataRows_cons]
          exact ⟨[], .of_ends (.refused hrender hskip), rfl⟩
      -- what could not be written has left directories at most, and the course ends there
      | unwritable lines hrender hwrite =>
          obtain ⟨⟨fault, rfl⟩, -⟩ := write_eq_error hwrite
          rw [dataRows_cons]
          exact ⟨[], .of_ends (.unwritable hrender (couldNot_of_write_eq_error hrender hwrite)), rfl⟩
      | written lines hrender hwrite =>
          obtain ⟨outs, hcourse, hwritten⟩ := ih _ false (row + 1)
          rw [dataRows_cons]
          exact ⟨_ :: outs, hcourse.writing hrender (wrote_of_write_eq_ok hrender hwrite),
            congrArg (_ :: ·) hwritten⟩

/-! ### Whole runs

In front of the rows the configuration is loaded, the output directory made and the inputs
opened, each of which can end a run. No file is written by then. -/

variable {o : Options}

/-- Why a run is over before its rows: the options give no configuration, the output directory cannot
be made, or the template or the data file cannot be opened. -/
inductive Unready (t : Tree) (o : Options) : Error → Prop
  | unloaded {e} : (Config.load t o).result = .error e → Unready t o e
  | unmade {c u fault} : (Config.load t o).result = .ok c →
      t.makeDirs c.outputDir = (u, .error fault) → Unready t o (.writeFailed c.outputDir fault)
  | unopened {c u e} : (Config.load t o).result = .ok c → t.makeDirs c.outputDir = (u, .ok ()) →
      openInputs u c = .error e → Unready t o e

/-- What a run with options does. Before its rows it makes directories at most. The rows are those
of the data file as it is then, if the run writes no file in its place. -/
inductive Effects (t : Tree) (o : Options) :
    List Output → List Nat → Tree → Option Error → Prop
  | idle {u e} : Unready t o e → AddsDirs (t.IsPlaceOf (Path.ancestors o.outputDir)) t u →
      Effects t o [] [] u (some e)
  | rows {c u template place outs skipped v e} (reading : Csv.Reading) :
      (Config.load t o).result = .ok c →
      AddsDirs (t.IsPlaceOf (Path.ancestors o.outputDir)) t u →
      openInputs u c = .ok (template, place) →
      ((dataAt u place).data.toList.length ≤ fileLimit →
        (∀ out ∈ outs, u.place out.target ≠ place) →
        reading = Csv.read (dataAt u place).data.toList none) →
      Course c template reading.error u (dataRows c.ignoreHeader 1 reading.records) outs skipped v
        e →
      Effects t o outs skipped v e

/-- How far a run with options comes, and what it has logged by then. -/
theorem all_cases (t : Tree) (o : Options) :
    (∃ e, (Config.load t o).result = .error e ∧
      all t o = (Outcome.still t (some e)).logging (Config.load t o).lines) ∨
    ∃ c, (Config.load t o).result = .ok c ∧
      ((∃ u fault, t.makeDirs c.outputDir = (u, .error fault) ∧
        all t o = (Outcome.still u (some (.writeFailed c.outputDir fault))).logging
          ((Config.load t o).lines ++ linesBefore t c)) ∨
      ∃ u, t.makeDirs c.outputDir = (u, .ok ()) ∧
        ((∃ e, openInputs u c = .error e ∧
          all t o = (Outcome.still u (some e)).logging
            ((Config.load t o).lines ++ linesBefore t c)) ∨
        ∃ template place, openInputs u c = .ok (template, place) ∧
          all t o = (file c template u place).logging
            ((Config.load t o).lines ++ linesBefore t c))) := by
  cases hload : (Config.load t o).result with
  | error e => exact Or.inl ⟨e, rfl, all_of_load_eq_error hload⟩
  | ok c =>
      refine Or.inr ⟨c, rfl, ?_⟩
      rw [all_of_load_eq_ok hload]
      rcases hmade : t.makeDirs c.outputDir with ⟨u, fault | ⟨⟩⟩
      · rw [configured_of_makeDirs_eq_error hmade, Outcome.logging_logging]
        exact Or.inl ⟨u, fault, rfl, rfl⟩
      · rw [configured_of_makeDirs_eq_ok hmade, Outcome.logging_logging]
        refine Or.inr ⟨u, rfl, ?_⟩
        rcases hopen : openInputs u c with e | ⟨template, place⟩
        · exact Or.inl ⟨e, rfl, rfl⟩
        · exact Or.inr ⟨template, place, rfl, rfl⟩

/-- **A run tells what it does.** The files that it tells are those written, in order and as often as
they were written. -/
theorem tells_all (t : Tree) (o : Options) : (all t o).Tells (Effects t o) := by
  -- whatever is made before the rows are directories on the way to the output directory
  have hadds {c u made} (hload : (Config.load t o).result = .ok c)
      (hmade : t.makeDirs c.outputDir = (u, made)) :
      AddsDirs (t.IsPlaceOf (Path.ancestors o.outputDir)) t u := by
    obtain ⟨-, -, -, hdir⟩ := Config.load_eq_ok hload
    have h := makeDirs_addsDirs t c.outputDir
    rwa [hmade, hdir] at h
  rcases all_cases t o with ⟨e, hload, hrun⟩ | ⟨c, hload, ⟨u, fault, hmade, hrun⟩ |
    ⟨u, hmade, ⟨e, hopen, hrun⟩ | ⟨template, place, hopen, hrun⟩⟩⟩
  · rw [hrun]
    exact ⟨[], .idle (.unloaded hload) (AddsDirs.refl _ t), rfl⟩
  · rw [hrun]
    exact ⟨[], .idle (.unmade hload hmade) (hadds hload hmade), rfl⟩
  · rw [hrun]
    exact ⟨[], .idle (.unopened hload hmade hopen) (hadds hload hmade), rfl⟩
  · obtain ⟨reading, hfile, hread⟩ := exists_file_eq_rows c template u place
    obtain ⟨outs, hcourse, hwritten⟩ :=
      tells_rowsFrom c template reading.error u c.ignoreHeader 1 reading.records
    rw [hrun]
    refine ⟨outs, .rows reading hload (hadds hload hmade) hopen (fun hlimit hplace => ?_) ?_, ?_⟩
    -- a path told as written is that of a file which was, so the data file is read as it was
    · refine hread hlimit fun path hpath => ?_
      rw [hfile, rows, hwritten] at hpath
      obtain ⟨out, hout, rfl⟩ := List.mem_map.mp hpath
      exact hplace out hout
    · rw [hfile]
      exact hcourse
    · rw [hfile]
      exact hwritten

end Run
end MailMerge
