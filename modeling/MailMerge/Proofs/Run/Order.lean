import MailMerge.Proofs.File.Writable
import MailMerge.Proofs.Run.Summary
import Mathlib.Data.List.FinRange
import Mathlib.Logic.Equiv.Fin.Rotate

/-!
# The order of the rows

Rows whose files lie in different places may come in any order: if a run over them ends without
error, so does the run over them in another order, with the same files written, the same rows passed
over, and the same tree (`rows_reordered`).

Both for whether the files of some rows can be written beside each other (`Fits`) and for what a
location holds then (`Settled`) it only matters which files there are. A run ends without error
exactly if its files fit (`rowsFrom_error_eq_none_iff`), and leaves each location settled
(`rowsFrom_settled`).
-/

namespace MailMerge.Run

open File File.Tree

variable {c : Config} {template : String} {t u : Tree} {out : Output} {outs : List Output}

/-! ### Files beside each other

Files may be written one after the other in any order if each of them can be written into
the tree alone, and none lies where another one needs a directory. What a location then
holds is said by the files as a set, not by the order they came in. -/

/-- Whether files can be written into a tree beside each other, in whatever order. -/
structure Fits (t : Tree) (outs : List Output) : Prop where
  canWrite : ∀ o ∈ outs, t.CanWrite o.target
  /-- No directory is needed where a file is to be. -/
  apart : ∀ o ∈ outs, ∀ p ∈ outs, ¬ t.IsPlaceOf (Path.above p.target) (t.place o.target)

theorem fits_nil : Fits t [] where
  canWrite o ho := by cases ho
  apart o ho := by cases ho

theorem Fits.of_mem {outs' : List Output} (h : Fits t outs) (hmem : ∀ o, o ∈ outs' → o ∈ outs) :
    Fits t outs' :=
  ⟨fun o ho => h.canWrite o (hmem o ho),
    fun o ho p hp => h.apart o (hmem o ho) p (hmem p hp)⟩

/-- What a location holds when files were written into a tree: the file that lies there, or a
directory above a file, or else what it held before. -/
inductive Settled (t : Tree) (outs : List Output) (loc : Location) : Option Entry → Prop
  | file {o : Output} (ho : o ∈ outs) (hloc : t.place o.target = loc) :
      Settled t outs loc (some (.file o.content.toUTF8))
  | above (hnone : ∀ o ∈ outs, t.place o.target ≠ loc) {o : Output} (ho : o ∈ outs)
      (hloc : t.IsPlaceOf (Path.above o.target) loc) : Settled t outs loc (some .dir)
  | kept (hnone : ∀ o ∈ outs, t.place o.target ≠ loc)
      (hfree : ∀ o ∈ outs, ¬ t.IsPlaceOf (Path.above o.target) loc) :
      Settled t outs loc (t.entry? loc)

theorem Settled.of_mem_iff {outs' : List Output} {loc : Location} {e : Option Entry}
    (h : Settled t outs loc e) (hmem : ∀ o, o ∈ outs' ↔ o ∈ outs) : Settled t outs' loc e := by
  cases h with
  | file ho hloc => exact .file ((hmem _).mpr ho) hloc
  | above hnone ho hloc => exact .above (fun o h => hnone o ((hmem o).mp h)) ((hmem _).mpr ho) hloc
  | kept hnone hfree =>
      exact .kept (fun o h => hnone o ((hmem o).mp h)) fun o h => hfree o ((hmem o).mp h)

/-- Files in different places leave no choice of what a location holds. -/
theorem Settled.unique {loc : Location} {e e' : Option Entry}
    (hapart : ∀ o ∈ outs, ∀ p ∈ outs, t.place o.target = t.place p.target → o = p)
    (h : Settled t outs loc e) (h' : Settled t outs loc e') : e = e' := by
  -- in different places at most one file lies at a location, and then it is the same for both
  cases h with
  | file ho hloc =>
      cases h' with
      | file hp hloc' => rw [hapart _ ho _ hp (hloc.trans hloc'.symm)]
      | above hnone _ _ => exact absurd hloc (hnone _ ho)
      | kept hnone _ => exact absurd hloc (hnone _ ho)
  | above hnone ho hloc =>
      cases h' with
      | file hp hloc' => exact absurd hloc' (hnone _ hp)
      | above _ _ _ => rfl
      | kept _ hfree => exact absurd hloc (hfree _ ho)
  | kept hnone hfree =>
      cases h' with
      | file hp hloc' => exact absurd hloc' (hnone _ hp)
      | above _ hp hloc' => exact absurd hloc' (hfree _ hp)
      | kept _ _ => rfl

/-! ### One file more

The step of both inductions over a run: a file is written first, and the others fit behind
it, or settle what they settle, as they do beside it. -/

/-- Files fit if the first one can be written and the others fit behind it. -/
theorem fits_cons_iff (hwritten : t.Written out.target out.content.toUTF8 u)
    (hout : t.CanWrite out.target)
    (habs : ∀ o ∈ outs, Path.isAbsolute o.target = Path.isAbsolute out.target) :
    Fits t (out :: outs) ↔ Fits u outs := by
  have hiff := fun o ho => hwritten.canWrite_iff hout (habs o ho)
  constructor
  · intro h
    refine ⟨fun o ho => (hiff o ho).mpr ⟨?_, ?_, ?_⟩, fun o ho p hp => ?_⟩
    · exact h.canWrite o (List.mem_cons_of_mem _ ho)
    · exact h.apart out List.mem_cons_self o (List.mem_cons_of_mem _ ho)
    · exact h.apart o (List.mem_cons_of_mem _ ho) out List.mem_cons_self
    · rw [hwritten.isPlaceOf_iff, hwritten.place_eq]
      exact h.apart o (List.mem_cons_of_mem _ ho) p (List.mem_cons_of_mem _ hp)
  · intro h
    refine ⟨List.forall_mem_cons.mpr ⟨hout, fun o ho => ((hiff o ho).mp (h.canWrite o ho)).1⟩, ?_⟩
    refine List.forall_mem_cons.mpr
      ⟨List.forall_mem_cons.mpr ⟨hout.apart, fun p hp => ?_⟩, fun o ho => ?_⟩
    · exact ((hiff p hp).mp (h.canWrite p hp)).2.1
    · refine List.forall_mem_cons.mpr ⟨((hiff o ho).mp (h.canWrite o ho)).2.2, fun p hp => ?_⟩
      have happart := h.apart o ho p hp
      rwa [hwritten.isPlaceOf_iff, hwritten.place_eq] at happart

/-- What is settled behind a file is settled with it, if the file is not where the others need a
directory. -/
theorem Settled.cons (hwritten : t.Written out.target out.content.toUTF8 u)
    (hneeded : ∀ o ∈ outs, ¬ t.IsPlaceOf (Path.above o.target) (t.place out.target))
    {loc : Location} {e : Option Entry} (h : Settled u outs loc e) :
    Settled t (out :: outs) loc e := by
  cases h with
  | file ho hloc => exact .file (List.mem_cons_of_mem _ ho) (hwritten.place_eq _ ▸ hloc)
  | above hnone ho hloc =>
      rw [hwritten.isPlaceOf_iff] at hloc
      refine .above (List.forall_mem_cons.mpr ⟨?_, fun o ho => ?_⟩) (List.mem_cons_of_mem _ ho) hloc
      · rintro rfl
        exact hneeded _ ho hloc
      · exact hwritten.place_eq _ ▸ hnone o ho
  | kept hnone hfree =>
      simp only [hwritten.isPlaceOf_iff, hwritten.place_eq] at hnone hfree
      -- at the location the others leave alone, there is the file, a directory above it, or
      -- what was there
      by_cases hloc : t.place out.target = loc
      · rw [← hloc, hwritten.file]
        exact .file List.mem_cons_self rfl
      · have hnone' : ∀ o ∈ out :: outs, t.place o.target ≠ loc :=
          List.forall_mem_cons.mpr ⟨hloc, hnone⟩
        by_cases habove : t.IsPlaceOf (Path.above out.target) loc
        · rw [hwritten.above loc habove]
          exact .above hnone' List.mem_cons_self habove
        · rw [hwritten.elsewhere loc (Ne.symm hloc) habove]
          exact .kept hnone' (List.forall_mem_cons.mpr ⟨habove, hfree⟩)

/-! ### Whole runs

A record counts by its file only, which does not depend on its number. So the conditions for
a run to succeed, and the tree that it leaves, are those of a set of files. -/

/-- The number of a row does not matter for its file. -/
theorem output?_atRow (fields : List String) (row row' : Nat) :
    output? c template (fields, row') = output? c template (fields, row) := by
  unfold output?
  rw [c.render_atRow template fields row row']
  cases c.render template fields row <;> rfl

/-- The files of the records that can be rendered. -/
def files (c : Config) (template : String) (records : List (List String)) : List Output :=
  records.filterMap fun fields => output? c template (fields, 1)

theorem outputs_dataRows (row : Nat) (records : List (List String)) :
    outputs c template (dataRows false row records) = files c template records := by
  have hrow : output? c template = (fun fields => output? c template (fields, 1)) ∘ Prod.fst :=
    funext fun r => output?_atRow r.1 1 r.2
  rw [outputs, hrow, ← List.filterMap_map]
  exact congrArg (files c template) (List.zipIdx_map_fst row records)

theorem mem_files {records : List (List String)} :
    out ∈ files c template records ↔
      ∃ fields ∈ records, c.render template fields 1 = .ok out := by
  simp only [files, List.mem_filterMap, output?_eq_some]

theorem exists_render_of_mem_files {records : List (List String)}
    (h : out ∈ files c template records) : ∃ fields, c.render template fields 1 = .ok out := by
  obtain ⟨fields, -, hrender⟩ := mem_files.mp h
  exact ⟨fields, hrender⟩

theorem files_cons_of_ok {fields : List String} {rest : List (List String)} {row : Nat}
    (h : c.render template fields row = .ok out) :
    files c template (fields :: rest) = out :: files c template rest :=
  List.filterMap_cons_some (output?_eq_some.mpr (Config.render_eq_ok_of_row h 1))

theorem files_cons_of_error {fields : List String} {rest : List (List String)} {row : Nat}
    {e : Error} (h : c.render template fields row = .error e) :
    files c template (fields :: rest) = files c template rest := by
  apply List.filterMap_cons_none
  rw [output?_atRow fields row 1]
  exact output?_eq_none.mpr ⟨e, h⟩

/-- What the writing of an output file comes to. -/
theorem of_write_eq_ok {fields : List String} {row : Nat}
    (hrender : c.render template fields row = .ok out)
    (h : write t out.target out.content = (u, .ok ())) :
    t.CanWrite out.target ∧ t.Written out.target out.content.toUTF8 u := by
  obtain ⟨n, hn, hup⟩ := Config.getLast?_steps_target hrender
  apply of_writeWithParents_eq_ok hn hup
  unfold write at h
  rcases hw : t.writeWithParents out.target out.content.toUTF8 with ⟨v, fault | ⟨⟩⟩
  · rw [hw] at h
    cases h
  · rw [hw] at h
    cases h
    rfl

theorem exists_write_eq_ok {fields : List String} {row : Nat}
    (hrender : c.render template fields row = .ok out) (h : t.CanWrite out.target) :
    ∃ u, write t out.target out.content = (u, .ok ()) := by
  obtain ⟨names, hne, -, hsteps, -⟩ := Config.steps_target hrender
  have hnil : Path.steps out.target ≠ [] := by
    rw [hsteps]
    exact List.append_ne_nil_of_right_ne_nil _ hne
  obtain ⟨u, hw⟩ := h.exists_eq_ok hnil out.content.toUTF8
  exact ⟨u, by rw [write, hw]; rfl⟩

theorem isAbsolute_target_eq {fields : List String} {row : Nat} {records : List (List String)}
    (hrender : c.render template fields row = .ok out) {o : Output}
    (ho : o ∈ files c template records) :
    Path.isAbsolute o.target = Path.isAbsolute out.target := by
  obtain ⟨fields', hrender'⟩ := exists_render_of_mem_files ho
  obtain ⟨-, -, -, -, habs⟩ := Config.steps_target hrender
  obtain ⟨-, -, -, -, habs'⟩ := Config.steps_target hrender'
  exact habs'.trans habs.symm

/-- A run over rows ends without error exactly if all records were read, the rows that cannot be
rendered are to be passed over, and the files of the others fit. -/
theorem rowsFrom_error_eq_none_iff {failure : Option Csv.Error} {row : Nat}
    {records : List (List String)} :
    (rowsFrom c template failure t false row records).error = none ↔ failure = none ∧
      (∀ fields ∈ records, output? c template (fields, 1) = none → c.skipInvalidRows = true) ∧
      Fits t (files c template records) := by
  -- of the files that are left it is asked whether they fit into the tree as it is by then
  induction records generalizing t row with
  | nil =>
      simp [rowsFrom, Outcome.still, files, fits_nil]
  | cons fields rest ih =>
      obtain ⟨o, hstep, hrun⟩ := exists_step c template failure t false row fields rest
      rw [hrun, List.forall_mem_cons]
      cases hstep with
      | skipped lines hrender hskip =>
          rw [Outcome.andThen_of_ok _ _ rfl, files_cons_of_error hrender]
          simpa [hskip] using ih
      | refused hrender hskip =>
          have hnone : output? c template (fields, 1) = none := by
            rw [output?_atRow fields row 1]
            exact output?_eq_none.mpr ⟨_, hrender⟩
          simp [Outcome.andThen_of_error, hnone, hskip]
      | unwritable lines hrender hwrite =>
          rw [Outcome.andThen_of_error _ _ rfl, files_cons_of_ok hrender]
          constructor
          · intro h
            cases h
          · intro h
            obtain ⟨v, hv⟩ := exists_write_eq_ok hrender (h.2.2.canWrite _ List.mem_cons_self)
            rw [hwrite] at hv
            cases hv
      | written lines hrender hwrite =>
          obtain ⟨hcan, hwritten⟩ := of_write_eq_ok hrender hwrite
          have hsome : output? c template (fields, 1) ≠ none := by
            rw [output?_eq_some.mpr (Config.render_eq_ok_of_row hrender 1)]
            exact Option.some_ne_none _
          rw [Outcome.andThen_of_ok _ _ rfl, files_cons_of_ok hrender,
            fits_cons_iff hwritten hcan fun o ho => isAbsolute_target_eq hrender ho]
          simpa [hsome] using ih

/-- Behind a run without error each location is settled. -/
theorem rowsFrom_settled {failure : Option Csv.Error} {row : Nat} {records : List (List String)}
    (h : (rowsFrom c template failure t false row records).error = none) (loc : Location) :
    Settled t (files c template records) loc
      ((rowsFrom c template failure t false row records).tree.entry? loc) := by
  induction records generalizing t row with
  | nil => exact .kept nofun nofun
  | cons fields rest ih =>
      have hfits := (rowsFrom_error_eq_none_iff.mp h).2.2
      obtain ⟨o, hstep, hrun⟩ := exists_step c template failure t false row fields rest
      rw [hrun] at h ⊢
      cases hstep with
      | skipped lines hrender hskip =>
          rw [files_cons_of_error hrender]
          exact ih h
      | refused hrender hskip => cases h
      | unwritable lines hrender hwrite => cases h
      | written lines hrender hwrite =>
          obtain ⟨hcan, hwritten⟩ := of_write_eq_ok hrender hwrite
          rw [files_cons_of_ok hrender] at hfits ⊢
          refine (ih h).cons hwritten fun p hp => ?_
          exact hfits.apart _ List.mem_cons_self p (List.mem_cons_of_mem _ hp)

/-! ### Rows in another order

A permutation of the records is one of their files, and both runs go over the same files.
Only the numbers of the records, by which the rows passed over are listed, have to be
followed through it. -/

variable {n : Nat} (f : Fin n → List String)

theorem dataRows_ofFn : dataRows false 1 (List.ofFn f) =
    (List.finRange n).map fun i => (f i, (i : Nat) + 1) := by
  apply List.ext_getElem
  · simp [dataRows]
  · intro i h₁ h₂
    simp [dataRows, Nat.add_comm]

theorem written_ofFn {failure : Option Csv.Error}
    (h : (rowsFrom c template failure t false 1 (List.ofFn f)).error = none) :
    (rowsFrom c template failure t false 1 (List.ofFn f)).written =
      (List.finRange n).filterMap fun i => (output? c template (f i, 1)).map Output.target := by
  rw [(rowsFrom_ok h).2.1, outputs_dataRows, files, List.ofFn_eq_map, List.filterMap_map,
    List.map_filterMap]
  rfl

theorem skipped_ofFn {failure : Option Csv.Error}
    (h : (rowsFrom c template failure t false 1 (List.ofFn f)).error = none) :
    (rowsFrom c template failure t false 1 (List.ofFn f)).skipped =
      ((List.finRange n).filter fun i => (output? c template (f i, 1)).isNone).map
        fun i : Fin n => (i : Nat) + 1 := by
  have hnone : (fun r => (output? c template r).isNone) ∘ (fun i => (f i, (i : Nat) + 1)) =
      fun i => (output? c template (f i, 1)).isNone :=
    funext fun i => congrArg Option.isNone (output?_atRow (f i) 1 _)
  rw [(rowsFrom_ok h).2.2.1, refused, dataRows_ofFn, List.filter_map, List.map_map, hnone]
  rfl

theorem mem_skipped_ofFn {failure : Option Csv.Error}
    (h : (rowsFrom c template failure t false 1 (List.ofFn f)).error = none) (i : Fin n) :
    (i : Nat) + 1 ∈ (rowsFrom c template failure t false 1 (List.ofFn f)).skipped ↔
      output? c template (f i, 1) = none := by
  rw [skipped_ofFn f h, List.mem_map]
  constructor
  · rintro ⟨j, hj, hij⟩
    obtain rfl : j = i := Fin.ext (Nat.succ.inj hij)
    simpa using (List.mem_filter.mp hj).2
  · intro hnone
    exact ⟨i, List.mem_filter.mpr ⟨List.mem_finRange i, by simp [hnone]⟩, rfl⟩

/-- **The order of rows with files in different places does not matter.** If a run without a header
ends without error, and no two of its files lie at one location, then the run over the records in
another order ends without error as well. It writes the same files in the order of their records,
passes over the same records under their new numbers, and leaves the same tree. -/
theorem rows_reordered (c : Config) (template : String) (t : Tree) (failure : Option Csv.Error)
    {n : Nat} (f : Fin n → List String) (σ : Equiv.Perm (Fin n)) (hheader : c.ignoreHeader = false)
    (hok : (rows c template t ⟨List.ofFn f, failure⟩).error = none)
    (hapart : ((rows c template t ⟨List.ofFn f, failure⟩).written.map t.place).Nodup) :
    let run := rows c template t ⟨List.ofFn f, failure⟩
    let again := rows c template t ⟨List.ofFn (f ∘ σ), failure⟩
    let target := fun i : Fin n => (c.render template (f i) (i + 1)).toOption.map Output.target
    again.error = none ∧
      run.written = (List.finRange n).filterMap target ∧
      again.written = ((List.finRange n).map σ).filterMap target ∧
      again.written.Perm run.written ∧
      again.skipped = ((List.finRange n).filter fun i => (σ i : Nat) + 1 ∈ run.skipped).map
        (fun i : Fin n => (i : Nat) + 1) ∧
      again.tree.workDir = run.tree.workDir ∧
      ∀ loc, again.tree.entry? loc = run.tree.entry? loc := by
  intro run again target
  have hrows : ∀ records, rows c template t ⟨records, failure⟩ =
      rowsFrom c template failure t false 1 records := fun records => by rw [← hheader]; rfl
  have hrun : run = rowsFrom c template failure t false 1 (List.ofFn f) := hrows _
  have hagain : again = rowsFrom c template failure t false 1 (List.ofFn (f ∘ σ)) := hrows _
  have htarget : target = fun i => (output? c template (f i, 1)).map Output.target :=
    funext fun i => congrArg (Option.map Output.target) (output?_atRow (f i) 1 _)
  clear_value run again target
  subst hrun hagain htarget
  rw [hrows] at hok hapart
  have hrecords : (List.ofFn (f ∘ σ)).Perm (List.ofFn f) := σ.ofFn_comp_perm f
  have hfiles : (files c template (List.ofFn (f ∘ σ))).Perm (files c template (List.ofFn f)) :=
    hrecords.filterMap _
  -- whether a run ends without error depends on which files there are
  have hok' : (rowsFrom c template failure t false 1 (List.ofFn (f ∘ σ))).error = none := by
    obtain ⟨hfailure, hskip, hfits⟩ := rowsFrom_error_eq_none_iff.mp hok
    refine rowsFrom_error_eq_none_iff.mpr ⟨hfailure, fun fields hfields => ?_, ?_⟩
    · exact hskip fields (hrecords.mem_iff.mp hfields)
    · exact hfits.of_mem fun o ho => hfiles.mem_iff.mp ho
  have hwritten := written_ofFn f hok
  have hwritten' := written_ofFn (f ∘ σ) hok'
  refine ⟨hok', hwritten, ?_, ?_, ?_, ?_, fun loc => ?_⟩
  · rw [hwritten', List.filterMap_map]
    rfl
  · rw [hwritten, hwritten']
    have hmap := (σ.map_finRange_perm).filterMap fun i =>
      (output? c template (f i, 1)).map Output.target
    rwa [List.filterMap_map] at hmap
  · rw [skipped_ofFn (f ∘ σ) hok']
    congr 2
    funext i
    rw [Bool.eq_iff_iff]
    simp [mem_skipped_ofFn f hok]
  · rw [workDir_rowsFrom, workDir_rowsFrom]
  · have hplaces : ∀ o ∈ files c template (List.ofFn f), ∀ p ∈ files c template (List.ofFn f),
        t.place o.target = t.place p.target → o = p := by
      apply List.inj_on_of_nodup_map
      rwa [(rowsFrom_ok hok).2.1, outputs_dataRows, List.map_map] at hapart
    -- and so does what a location holds, since no two files lie at one
    refine Settled.unique hplaces ?_ (rowsFrom_settled hok loc)
    exact (rowsFrom_settled hok' loc).of_mem_iff fun o => hfiles.mem_iff.symm

/-- Three rows, one of them passed over and one with a directory of its own, in another order. -/
theorem rows_reordered_of_three_rows :
    let f := fun i : Fin 3 => [["a/Ann", "../x", "Bob"].get i]
    ∃ c, (Config.load sampleTree (sampleOptions "out" false true)).result = .ok c ∧
      let run := rows c "Dear @name" sampleTree ⟨List.ofFn f, none⟩
      let again := rows c "Dear @name" sampleTree ⟨List.ofFn (f ∘ finRotate 3), none⟩
      run.written = ["out/a/Ann.txt", "out/Bob.txt"] ∧ run.skipped = [2] ∧
        again.error = none ∧ again.written.Perm run.written ∧ again.skipped = [1] ∧
        ∀ loc, again.tree.entry? loc = run.tree.entry? loc := by
  intro f
  have h : ((Config.load sampleTree (sampleOptions "out" false true)).result.toOption.any fun c =>
      let run := rows c "Dear @name" sampleTree ⟨List.ofFn f, none⟩
      decide (c.ignoreHeader = false ∧ run.error = none ∧
        (run.written.map sampleTree.place).Nodup ∧
        run.written = ["out/a/Ann.txt", "out/Bob.txt"] ∧ run.skipped = [2])) = true := by
    decide +kernel
  obtain ⟨c, hc, hrun⟩ := exists_of_any_toOption h
  obtain ⟨hheader, hok, hapart, hwritten, hskipped⟩ := of_decide_eq_true hrun
  obtain ⟨hok', -, -, hperm, hskipped', -, htree⟩ :=
    rows_reordered c "Dear @name" sampleTree none f (finRotate 3) hheader hok hapart
  refine ⟨c, hc, hwritten, hskipped, hok', hperm, ?_, htree⟩
  rw [hskipped', hskipped]
  decide

end MailMerge.Run
