import MailMerge.Proofs.Run.Content
import MailMerge.Proofs.Run.Order

/-!
# Running again

A run that ended without error can be made again, from the tree it left. It ends without error then,
with the same files written and the same rows passed over, and it leaves the tree as it is
(`rows_again`).

For the files to fit a second time (`Fits.again`) it is enough that each location is settled behind
the first run: no directory is where a file is to be, and no file where a directory is needed. That
the contents are the same comes from the last row for a location, which is the same row in both runs
(`LastAt.unique`).
-/

namespace MailMerge.Run

open File File.Tree

variable {c : Config} {template : String} {t u v : Tree} {outs : List Output}

/-! ### Files in their places

The first run has left a file or a directory at every place it needed, and everything else
as it was. That is enough for the second run: it meets its own files where it puts files,
and its own directories where it needs directories. -/

/-- Where files fitted and were put they fit again. -/
theorem Fits.again (h : Fits t outs) (hkeeps : Keeps t u)
    (hsettled : ∀ loc, Settled t outs loc (u.entry? loc)) : Fits u outs := by
  have hplace : ∀ p, u.place p = t.place p := place_of_workDir_eq hkeeps.workDir_eq
  have hisPlaceOf : ∀ paths loc, u.IsPlaceOf paths loc ↔ t.IsPlaceOf paths loc := fun paths loc => by
    simp only [IsPlaceOf, hplace]
  refine ⟨fun o ho => ?_, fun o ho p hp => ?_⟩
  · obtain ⟨hnamed, horigin, -, hapart, -⟩ := h.canWrite o ho
    refine ⟨hnamed, ?_, fun loc hloc content hfile => ?_, ?_, fun hdir => ?_⟩
    · rw [origin_of_workDir_eq hkeeps.workDir_eq]
      exact hkeeps.dir _ horigin
    · -- the only files are those that were put there, and none of them is needed as a directory
      rw [hisPlaceOf] at hloc
      have hat := hsettled loc
      rw [hfile] at hat
      generalize hentry : some (Entry.file content) = e at hat
      cases hat with
      | file hp hplace' =>
          -- the file there is one that was written, which lies on the way of no other
          subst hplace'
          exact h.apart _ hp o ho hloc
      | above => cases hentry
      -- a file that was there before, and then the first run could not have made its directory
      | kept _ hfree => exact hfree o ho hloc
    · rw [hisPlaceOf, hplace]
      exact hapart
    -- a directory at the place of the file can neither have been put there nor been there before
    · rw [hplace] at hdir
      have hat := hsettled (t.place o.target)
      rw [hdir] at hat
      generalize hentry : some Entry.dir = e at hat
      cases hat with
      | file => cases hentry
      | above hnone => exact hnone o ho rfl
      | kept hnone => exact hnone o ho rfl
  · rw [hisPlaceOf, hplace]
    exact h.apart o ho p hp

/-! ### The last row for a location

Each location has the content of the last row that is written there. Both runs go through
the same rows, so it is the same row, as long as paths lead to the same places in both
trees; they do, since a run does not change the working directory. -/

/-- Of two places in one list either one is behind the other, or they are the same. -/
theorem eq_or_mem_of_append_cons {α : Type} {before behind before' behind' : List α} {r r' : α}
    (h : before ++ r :: behind = before' ++ r' :: behind') :
    r = r' ∨ r' ∈ behind ∨ r ∈ behind' := by
  -- one of the two stretches before goes on where the other ends
  rcases List.append_eq_append_iff.mp h with ⟨between, -, heq⟩ | ⟨between, -, heq⟩
  · cases between with
    | nil => exact Or.inl (List.cons.inj heq).1
    | cons s between =>
        rw [(List.cons.inj heq).2]
        exact Or.inr (Or.inl (List.mem_append_right _ List.mem_cons_self))
  · cases between with
    | nil => exact Or.inl (List.cons.inj heq).1.symm
    | cons s between =>
        rw [(List.cons.inj heq).2]
        exact Or.inr (Or.inr (List.mem_append_right _ List.mem_cons_self))

/-- There is one last row for a location, in all trees in which paths lead to the same places. -/
theorem LastAt.unique {rs : List (List String × Nat)} {loc : Location} {out out' : Output}
    (hwork : u.workDir = t.workDir) (h : LastAt c template t rs loc out)
    (h' : LastAt c template u rs loc out') : out = out' := by
  obtain ⟨before, r, behind, hrs, hout, hat, hlast⟩ := h
  obtain ⟨before', r', behind', hrs', hout', hat', hlast'⟩ := h'
  simp only [place_of_workDir_eq hwork] at hat' hlast'
  rcases eq_or_mem_of_append_cons (hrs.symm.trans hrs') with rfl | hr | hr
  · exact Option.some.inj (hout.symm.trans hout')
  · exact absurd hat' (hlast r' hr out' hout')
  · exact absurd hat (hlast' r hr out hout)

/-! ### The second run

The header, if there is one, is passed over in both runs, so the statements are made without
it and brought to the whole run by `exists_rowsFrom_drop`. -/

/-- Where nothing is behind some files, none of them needs a directory. -/
theorem Settled.free_of_none {loc : Location} {e : Option Entry} (h : Settled t outs loc e)
    (hnone : e = none) : ∀ o ∈ outs, ¬ t.IsPlaceOf (Path.above o.target) loc := by
  cases h with
  | file => cases hnone
  | above => cases hnone
  | kept _ hfree => exact hfree

/-- Behind a run from where files were settled before, there are no new directories. -/
theorem Settled.ne_dir_of_none {loc : Location} {e : Option Entry} (h : Settled u outs loc e)
    (hnone : u.entry? loc = none) (hfree : ∀ o ∈ outs, ¬ u.IsPlaceOf (Path.above o.target) loc) :
    e ≠ some .dir := by
  cases h with
  | file => exact nofun
  | above _ ho hloc => exact absurd hloc (hfree _ ho)
  | kept =>
      rw [hnone]
      exact nofun

variable {failure : Option Csv.Error} {row : Nat} {records : List (List String)}

/-- A run without error can be made again from the tree it left. -/
theorem rowsFrom_again (hrun : (rowsFrom c template failure t false row records).tree = u)
    (h : (rowsFrom c template failure t false row records).error = none) :
    (rowsFrom c template failure u false row records).error = none := by
  obtain ⟨hfailure, hskip, hfits⟩ := rowsFrom_error_eq_none_iff.mp h
  have hkeeps := keeps_rowsFrom c template failure t false row records
  have hsettled := rowsFrom_settled h
  rw [hrun] at hkeeps hsettled
  exact rowsFrom_error_eq_none_iff.mpr ⟨hfailure, hskip, hfits.again hkeeps hsettled⟩

/-- It leaves each location as it is. -/
theorem entry_rowsFrom_again (hrun : (rowsFrom c template failure t false row records).tree = u)
    (h : (rowsFrom c template failure t false row records).error = none) (loc : Location) :
    (rowsFrom c template failure u false row records).tree.entry? loc = u.entry? loc := by
  have hagain := rowsFrom_again hrun h
  have hwork : u.workDir = t.workDir :=
    hrun ▸ workDir_rowsFrom c template failure t false row records
  have hfirst := rowsFrom_entry h loc
  have hsettled := rowsFrom_settled h loc
  rw [hrun] at hfirst hsettled
  rcases rowsFrom_entry hagain loc with ⟨out, hlast, hentry⟩ | ⟨-, heq | ⟨hnone, hdir⟩⟩
  · rw [hentry]
    -- the same row is the last one for the location in both runs
    rcases hfirst with ⟨out', hlast', hentry'⟩ | ⟨hnone, -⟩
    · rw [hentry', LastAt.unique hwork hlast' hlast]
    -- the first run had no row for it, but the rows are the same
    · obtain ⟨before, r, behind, hrows, hout, hat, -⟩ := hlast
      rw [place_of_workDir_eq hwork] at hat
      exact absurd hat (hnone r (hrows ▸ List.mem_append_right _ List.mem_cons_self) out hout)
  · exact heq
  · -- a directory that the second run needs was needed by the first one, and is there
    refine absurd hdir ((rowsFrom_settled hagain loc).ne_dir_of_none hnone fun o ho => ?_)
    simp only [IsPlaceOf, place_of_workDir_eq hwork]
    exact hsettled.free_of_none hnone o ho

/-- Behind a header the run is one over the other records. -/
theorem exists_rowsFrom_drop (c : Config) (template : String) (failure : Option Csv.Error)
    (header : Bool) (row : Nat) (records : List (List String)) :
    ∃ lines row', ∀ t, rowsFrom c template failure t header row records =
      (rowsFrom c template failure t false row' (records.drop header.toNat)).logging lines := by
  cases header with
  | false => exact ⟨[], row, fun t => rfl⟩
  | true =>
      cases records with
      | nil => exact ⟨[], row, fun t => rfl⟩
      | cons fields rest => exact ⟨_, row + 1, fun t => rfl⟩

/-- **Running again changes nothing.** If a run ends without error, then the same run from the tree
it left ends without error as well, with the same files written and the same rows passed over, and
leaves each file and each directory as it was. -/
theorem rows_again (c : Config) (template : String) (t : Tree) (data : List UInt8)
    (failure : Option String)
    (hok : (rows c template t (Csv.read data failure)).error = none) :
    let run := rows c template t (Csv.read data failure)
    let again := rows c template run.tree (Csv.read data failure)
    again.error = none ∧ again.written = run.written ∧ again.skipped = run.skipped ∧
      again.tree.workDir = run.tree.workDir ∧
      ∀ loc, again.tree.entry? loc = run.tree.entry? loc := by
  intro run again
  obtain ⟨lines, row, hdrop⟩ := exists_rowsFrom_drop c template (Csv.read data failure).error
    c.ignoreHeader 1 (Csv.read data failure).records
  have hrun : run = _ := hdrop t
  have hagain : again = _ := hdrop run.tree
  have htree := congrArg Outcome.tree hrun
  have hfirst := congrArg Outcome.error hrun
  have hsecond : again.error = none := by
    -- the records are the same, so the second run is a run over the same rows from the tree
    -- that is left
    rw [hagain]
    exact rowsFrom_again htree.symm (hfirst.symm.trans hok)
  refine ⟨hsecond, ?_, ?_, workDir_rowsFrom .., fun loc => ?_⟩
  -- both lists are told by the records, whatever the tree
  · exact (rowsFrom_ok hsecond).2.1.trans (rowsFrom_ok hok).2.1.symm
  · exact (rowsFrom_ok hsecond).2.2.1.trans (rowsFrom_ok hok).2.2.1.symm
  · rw [hagain]
    exact entry_rowsFrom_again htree.symm (hfirst.symm.trans hok) loc

/-- A run over a header and three rows, of which two name one file in a directory of its own and one
is passed over, made twice. -/
theorem rows_again_of_one_file_twice :
    ∃ c, (Config.load sampleTree (sampleOptions "out" true true)).result = .ok c ∧
      let data := "name\na/Ann\n../x\na/./Ann".toUTF8.toList
      let run := rows c "Dear @name" sampleTree (Csv.read data none)
      let again := rows c "Dear @name" run.tree (Csv.read data none)
      run.written = ["out/a/Ann.txt", "out/a/./Ann.txt"] ∧ run.skipped = [3] ∧
        again.error = none ∧ again.written = run.written ∧ again.skipped = run.skipped ∧
        ∀ loc, again.tree.entry? loc = run.tree.entry? loc := by
  have h : ((Config.load sampleTree (sampleOptions "out" true true)).result.toOption.any fun c =>
      let run := rows c "Dear @name" sampleTree
        (Csv.read "name\na/Ann\n../x\na/./Ann".toUTF8.toList none)
      decide (run.error = none ∧ run.written = ["out/a/Ann.txt", "out/a/./Ann.txt"] ∧
        run.skipped = [3])) = true := by
    decide +kernel
  obtain ⟨c, hc, hrun⟩ := exists_of_any_toOption h
  obtain ⟨hok, hwritten, hskipped⟩ := of_decide_eq_true hrun
  obtain ⟨hok', hwritten', hskipped', -, htree⟩ := rows_again c "Dear @name" sampleTree _ none hok
  exact ⟨c, hc, hwritten, hskipped, hok', hwritten', hskipped', htree⟩

end MailMerge.Run
