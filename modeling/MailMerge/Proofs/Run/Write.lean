import MailMerge.Proofs.File.Writable
import MailMerge.Proofs.Run.Content

/-!
# What writing one file changes

Writing a file ends in one of two ways, whatever the tree and the path are (`write_frame`). Either
the file is in its place, and the directories above its path are there. Or the error names the path,
and no file has changed. In both cases the only other change is that directories above the path may
be new.

A file that was written can be read back under its path. A slash or a `..` at the end of a path
could only be in the way where the path climbs out of the working directory, into a directory that
is not there; real trees have all of these (`Rooted`).
-/

namespace MailMerge

namespace File.Tree

variable {t u : Tree} {path : String} {content : ByteArray}

/-! ### Steps upwards

A path that goes upwards leaves the directory it has come to for the one above, and that one
must be there: below the start since the path has come through it, above the start since the
tree is rooted. -/

/-- Whether the working directory and the directories above it are there. -/
def Rooted (t : Tree) : Prop := ∀ loc, loc <+: t.workDir → t.entry? loc = some .dir

theorem Rooted.origin (h : t.Rooted) (path : String) :
    ∀ loc, loc <+: t.origin path → t.entry? loc = some .dir := by
  unfold Tree.origin
  split
  · intro loc hloc
    rw [List.prefix_nil.mp hloc]
    rfl
  · exact h

theorem AddsDirs.rooted {places : Location → Prop} (h : AddsDirs places t u) (ht : t.Rooted) :
    u.Rooted := by
  intro loc hloc
  rw [h.workDir_eq] at hloc
  exact h.keeps (ht loc hloc)

/-- A path that is followed on from a place has gone through directories only, so all that is above
the place is there if that was so at the start. -/
theorem dir_of_isPrefix {loc l : Location} {pre post : List String} {s : String}
    (hloc : ∀ p, p <+: loc → t.entry? p = some .dir)
    (h : t.follow loc (pre ++ s :: post) = .ok l) :
    ∀ p, p <+: pre.foldl step loc → t.entry? p = some .dir := by
  induction pre generalizing loc with
  | nil => exact hloc
  | cons a pre ih =>
      have hnext : t.entry? (step loc a) = some .dir := by
        cases pre with
        | nil => exact (@of_follow_eq_ok _ _ _ [a] post s h).1
        | cons b pre => exact (@of_follow_eq_ok _ _ _ [a] (pre ++ s :: post) b h).1
      -- what is left of the path is followed on from the next place
      have hrest : t.follow (step loc a) (pre ++ s :: post) = .ok l := by
        rw [List.cons_append, follow] at h
        split at h
        · cases h
        · cases h
        · split at h
          · cases h
          · exact h
      refine ih (fun p hp => ?_) hrest
      -- a step leads to the place itself, to the one above it, or to one below it
      unfold step at hp hnext
      split at hp
      · exact hloc p hp
      · split at hp
        · exact hloc p (hp.trans (List.dropLast_prefix loc))
        · next hdot hup =>
            rw [if_neg hdot, if_neg hup] at hnext
            rcases List.prefix_concat_iff.mp hp with rfl | hp
            · exact hnext
            · exact hloc p hp

/-- A path that ends in `..` leads to a directory. -/
theorem Rooted.dir_of_getLast? (ht : t.Rooted) (hl : t.locate path = .ok (t.place path))
    (hlast : (segments path).getLast? = some "..") : t.entry? (t.place path) = some .dir := by
  obtain ⟨init, hsegs⟩ := List.getLast?_eq_some_iff.mp hlast
  have hfollow := follow_of_locate_eq_ok hl
  have hplace : t.place path = (init.foldl step (t.origin path)).dropLast := by
    rw [follow_eq_ok hfollow, hsegs, List.foldl_append]
    rfl
  rw [hsegs] at hfollow
  rw [hplace]
  apply dir_of_isPrefix (ht.origin path) hfollow
  exact List.dropLast_prefix _

/-- What can be written as a file ends in no slash. -/
theorem Rooted.endsInSlash_eq_false (ht : t.Rooted) (h : t.writeFile path content = .ok u) :
    endsInSlash path = false := by
  obtain ⟨hl, hdir, -, hslash⟩ := writeFile_eq_ok h
  by_contra hc
  rw [Bool.not_eq_false] at hc
  apply hdir
  -- a slash may stand behind a path without segments, or behind one whose last segment is `.`
  -- or `..`: all of them lead to directories
  cases hs : (segments path).getLast? with
  | none =>
      have hplace : t.place path = t.origin path := by
        rw [follow_eq_ok (follow_of_locate_eq_ok hl), List.getLast?_eq_none_iff.mp hs]
        rfl
      rw [hplace]
      exact ht.origin path _ List.prefix_rfl
  | some n =>
      rcases hslash hc n hs with rfl | rfl
      · exact absurd hs (getLast?_segments_of_writeFile_eq_ok h)
      · exact ht.dir_of_getLast? hl hs

/-- A path that can be written as a file goes some step. -/
theorem steps_ne_nil_of_writeFile (h : t.writeFile path content = .ok u) :
    Path.steps path ≠ [] := by
  obtain ⟨hl, hdir, -, -⟩ := writeFile_eq_ok h
  intro hnil
  cases hs : segments path using List.reverseRecOn with
  | nil =>
      -- only the root is a place that a path without segments leads to
      have hne : path ≠ "" := by
        rintro rfl
        cases hl
      have habs : Path.isAbsolute path = true := by
        by_contra hrel
        exact segments_ne_nil hne (by simpa using hrel) hs
      apply hdir
      rw [place, hnil, Tree.origin, if_pos habs]
      rfl
  -- the last segment is a step, for a path that ends in a `.` is one to a directory
  | append_singleton init last _ =>
      have hlast := getLast?_segments_of_writeFile_eq_ok h
      rw [hs, List.getLast?_concat] at hlast
      have hmem : last ∈ Path.steps path := by
        rw [steps_eq_filter_segments, hs]
        have hname : last ≠ "." := fun e => hlast (congrArg some e)
        exact List.mem_filter.mpr ⟨List.mem_append_right _ List.mem_cons_self, by simpa using hname⟩
      rw [hnil] at hmem
      cases hmem

end File.Tree

namespace Run

open File File.Tree

/-- **Writing a file puts it in its place or changes no file.** If a file is written, its path leads
to the place where it is then, no directory was there before, and the directories above the path
are there. If it is not, the error names the path. In both cases every other location is as before,
or is that of a path above the one written, where a directory is new. -/
theorem write_frame (t : Tree) (path content : String) :
    (∃ u, write t path content = (u, .ok ()) ∧ u.workDir = t.workDir ∧
      u.locate path = .ok (t.place path) ∧
      u.entry? (t.place path) = some (.file content.toUTF8) ∧
      (t.Rooted → u.read path = .ok content.toUTF8) ∧
      t.entry? (t.place path) ≠ some .dir ∧
      (∀ p ∈ Path.above path, u.entry? (t.place p) = some .dir) ∧
      ∀ loc, loc ≠ t.place path → u.entry? loc = t.entry? loc ∨
        (t.entry? loc = none ∧ u.entry? loc = some .dir ∧ ∃ p ∈ Path.above path, loc = t.place p)) ∨
    ∃ u fault, write t path content = (u, .error (.writeFailed path fault)) ∧
      u.workDir = t.workDir ∧
      ∀ loc, u.entry? loc = t.entry? loc ∨
        (t.entry? loc = none ∧ u.entry? loc = some .dir ∧
          ∃ p ∈ Path.above path, loc = t.place p) := by
  rcases write_cases t path content with ⟨u, fault, h, hadds⟩ | ⟨t₁, u, h, hadds, hw⟩
  · exact Or.inr ⟨u, fault, h, hadds.workDir_eq, hadds.change⟩
  · left
    obtain ⟨hl, hdir, hu, -⟩ := writeFile_eq_ok hw
    have hkeeps : Keeps t₁ u := .of_writeFile hw
    have hlookup := lookup_insert t₁ (ne_nil_of_ne_dir hdir) (.file content.toUTF8)
    rw [← hu] at hlookup
    rw [hadds.place_eq] at hl hdir hlookup
    have hlocate : u.locate path = .ok (t.place path) := locate_mono hkeeps.workDir_eq hkeeps.dir hl
    have hfile : u.entry? (t.place path) = some (.file content.toUTF8) := by
      rw [hlookup, if_pos rfl]
    refine ⟨u, h, hkeeps.workDir_eq.trans hadds.workDir_eq, hlocate, hfile, fun ht => ?_,
      fun hfree => hdir (hadds.keeps hfree), fun p hp => ?_, fun loc hne => ?_⟩
    · have hplace : u.place path = t.place path :=
        place_of_workDir_eq (hkeeps.workDir_eq.trans hadds.workDir_eq) path
      rw [← hplace] at hlocate hfile
      exact read_eq_ok hlocate ((hadds.rooted ht).endsInSlash_eq_false hw) hfile
    -- what was made before the write is there after it
    · apply hkeeps.dir
      exact dir_of_locate hl (steps_ne_nil_of_writeFile hw) ⟨p, hp, (hadds.place_eq p).symm⟩
    · rw [hlookup, if_neg hne]
      exact hadds.change loc

/-- A file below a directory that is not there yet can be written and read. A path that ends in a
slash leaves such a directory behind, and no file. -/
theorem write_frame_of_new_directory :
    sampleTree.Rooted ∧
      (∃ u, write sampleTree "new/a" "Dear Ann" = (u, .ok ()) ∧
        u.read "new/a" = .ok "Dear Ann".toUTF8 ∧ u.entry? ["work", "new"] = some .dir) ∧
      ∃ u, write sampleTree "new/a/" "Dear Ann" =
          (u, .error (.writeFailed "new/a/" .isADirectory)) ∧
        u.entry? ["work", "new"] = some .dir ∧
        ∀ loc, u.entry? loc = sampleTree.entry? loc ∨ u.entry? loc = some .dir := by
  have hroot : sampleTree.Rooted := by
    intro loc hloc
    change loc <+: [] ++ ["work"] at hloc
    rcases List.prefix_concat_iff.mp hloc with rfl | hloc
    · rfl
    · rw [List.prefix_nil.mp hloc]
      rfl
  refine ⟨hroot, ?_, ?_⟩
  · have hdone : (write sampleTree "new/a" "Dear Ann").2.isOk = true := by decide +kernel
    rcases write_frame sampleTree "new/a" "Dear Ann" with
      ⟨u, h, -, -, -, hread, -, habove, -⟩ | ⟨u, fault, h, -⟩
    · exact ⟨u, h, hread hroot, habove "new" (by decide)⟩
    · rw [h] at hdone
      cases hdone
  · have hfailed : (write sampleTree "new/a/" "Dear Ann").2 =
        .error (.writeFailed "new/a/" .isADirectory) ∧
        Tree.entry? (write sampleTree "new/a/" "Dear Ann").1 ["work", "new"] = some .dir := by
      decide +kernel
    rcases write_frame sampleTree "new/a/" "Dear Ann" with ⟨u, h, -⟩ | ⟨u, fault, h, -, hchange⟩
    · rw [h] at hfailed
      cases hfailed.1
    · rw [h] at hfailed
      obtain ⟨herror, hnew⟩ := hfailed
      refine ⟨u, by rw [h, ← herror], hnew, fun loc => ?_⟩
      rcases hchange loc with heq | ⟨-, hdir, -⟩
      · exact Or.inl heq
      · exact Or.inr hdir

end Run
end MailMerge
