import MailMerge.Proofs.File.Place
import MailMerge.Proofs.Record

/-!
# What changing a tree leaves alone

Each operation on a tree changes it in one of two ways: it adds directories where nothing was, or it
puts a file in a place where no directory is. `AddsDirs` is the first kind, closed under doing one
thing after the other; a directory made with all directories above it is of that kind whether or not
the making succeeds (`makeDirs_addsDirs`). Writing a file is the second kind behind the first, and a
write that fails is of the first kind alone (`writeWithParents_cases`).
-/

namespace MailMerge.File.Tree

/-! ### Inserting

A tree is looked up through `entry?`, which answers for the root without looking at the
entries. So an insertion is seen there only if it is not at the root, and it never is: the
root is a directory already. -/

/-- An entry is found where it was put, and nothing else has changed. -/
theorem lookup_insert (t : Tree) {loc : Location} (hloc : loc ≠ []) (e : Entry) (l : Location) :
    entry? (t.insert loc e) l = if l = loc then some e else t.entry? l := by
  unfold entry?
  -- the root is found without looking; everywhere else it is the list of entries
  by_cases hl : l = []
  · have hne : l ≠ loc := fun h => hloc (h ▸ hl)
    rw [if_pos hl, if_neg hne, if_pos hl]
  · rw [if_neg hl, if_neg hl]
    exact lookup_of_setIn (setIn loc e) rfl (fun _ _ => rfl) t.entries l

/-- The root is a directory and nothing else. -/
theorem ne_nil_of_ne_dir {t : Tree} {loc : Location} (h : t.entry? loc ≠ some .dir) :
    loc ≠ [] := by
  rintro rfl
  exact h rfl

/-! ### Adding directories

The relation carries along where the new directories may lie. Each function on directories
is shown to stay within the places of the paths it was given, and the relation puts these
together: `refl` for what does nothing, `cons` for one path and then the others. -/

/-- A tree that differs from another one by new directories only, all of them in some places. -/
structure AddsDirs (places : Location → Prop) (t u : Tree) : Prop where
  workDir_eq : u.workDir = t.workDir
  change : ∀ loc, u.entry? loc = t.entry? loc ∨
    (t.entry? loc = none ∧ u.entry? loc = some .dir ∧ places loc)

namespace AddsDirs

variable {places places' : Location → Prop} {t u v : Tree}

theorem refl (places : Location → Prop) (t : Tree) : AddsDirs places t t :=
  ⟨rfl, fun _ => Or.inl rfl⟩

theorem mono (h : AddsDirs places t u) (hsub : ∀ loc, places loc → places' loc) :
    AddsDirs places' t u := by
  refine ⟨h.workDir_eq, fun loc => ?_⟩
  rcases h.change loc with he | ⟨h0, h1, hp⟩
  · exact Or.inl he
  · exact Or.inr ⟨h0, h1, hsub loc hp⟩

theorem trans (h : AddsDirs places t u) (hv : AddsDirs places u v) :
    AddsDirs places t v := by
  refine ⟨hv.workDir_eq.trans h.workDir_eq, fun loc => ?_⟩
  rcases h.change loc with he | ⟨h0, h1, hp⟩
  · rw [← he]
    exact hv.change loc
  -- a directory added first is not added again
  · right
    rcases hv.change loc with he' | ⟨hnone, -, -⟩
    · exact ⟨h0, he'.trans h1, hp⟩
    · rw [h1] at hnone
      cases hnone

/-- What was there is there still. -/
theorem keeps (h : AddsDirs places t u) {loc : Location} {e : Entry}
    (he : t.entry? loc = some e) : u.entry? loc = some e := by
  rcases h.change loc with heq | ⟨hnone, -, -⟩
  · rw [heq, he]
  · rw [he] at hnone
    cases hnone

/-- The files are the same. -/
theorem file_iff (h : AddsDirs places t u) (loc : Location) (content : ByteArray) :
    u.entry? loc = some (.file content) ↔ t.entry? loc = some (.file content) := by
  refine ⟨fun hf => ?_, fun hf => h.keeps hf⟩
  rcases h.change loc with heq | ⟨-, hdir, -⟩
  · rw [← heq, hf]
  · rw [hf] at hdir
    cases hdir

theorem place_eq (h : AddsDirs places t u) (path : String) : u.place path = t.place path :=
  place_of_workDir_eq h.workDir_eq path

end AddsDirs

/-- Whether a location is the place of one of some paths. -/
def IsPlaceOf (t : Tree) (paths : List String) (loc : Location) : Prop :=
  ∃ p ∈ paths, loc = t.place p

theorem IsPlaceOf.mono {t : Tree} {paths paths' : List String} (hsub : paths ⊆ paths')
    {loc : Location} (h : t.IsPlaceOf paths loc) : t.IsPlaceOf paths' loc := by
  obtain ⟨p, hp, hloc⟩ := h
  exact ⟨p, hsub hp, hloc⟩

/-- First one directory, then others. -/
theorem AddsDirs.cons {t u v : Tree} {path : String} {paths : List String}
    (hu : AddsDirs (· = t.place path) t u) (hv : AddsDirs (u.IsPlaceOf paths) u v) :
    AddsDirs (t.IsPlaceOf (path :: paths)) t v := by
  refine (hu.mono fun loc hloc => ⟨path, List.mem_cons_self, hloc⟩).trans ?_
  refine hv.mono ?_
  -- the places of the other paths are the same in the tree between,
  -- which has the same working directory
  rintro loc ⟨p, hp, rfl⟩
  exact ⟨p, List.mem_cons_of_mem path hp, hu.place_eq p⟩

/-- A directory is made at the place of its path, where nothing was. -/
theorem makeDir_eq_ok {t u : Tree} {path : String} (h : t.makeDir path = .ok u) :
    t.entry? (t.place path) = none ∧ u = t.insert (t.place path) .dir := by
  unfold makeDir at h
  cases hl : t.locate path with
  | error e => rw [hl] at h; cases h
  | ok loc =>
      obtain rfl := locate_eq_ok hl
      rw [hl] at h
      cases he : t.entry? (t.place path) with
      | some e => simp [bind, Except.bind, he] at h
      | none => exact ⟨rfl, by simpa [bind, Except.bind, he] using h.symm⟩

theorem makeDir_addsDirs {t u : Tree} {path : String} (h : t.makeDir path = .ok u) :
    AddsDirs (· = t.place path) t u := by
  obtain ⟨hnone, rfl⟩ := makeDir_eq_ok h
  have hne : t.place path ≠ [] := ne_nil_of_ne_dir (t := t) (by simp [hnone])
  refine ⟨rfl, fun loc => ?_⟩
  rw [lookup_insert t hne]
  by_cases hloc : loc = t.place path
  · exact Or.inr ⟨hloc ▸ hnone, if_pos hloc, hloc⟩
  · exact Or.inl (if_neg hloc)

theorem makeEach_addsDirs (t : Tree) (paths : List String) :
    AddsDirs (t.IsPlaceOf paths) t (t.makeEach paths).1 := by
  induction paths generalizing t with
  | nil => exact AddsDirs.refl _ t
  | cons path rest ih =>
      unfold makeEach
      split
      · next u h => exact (makeDir_addsDirs h).cons (ih u)
      · split
        · exact (AddsDirs.refl _ t).cons (ih t)
        · exact AddsDirs.refl _ t

theorem climb_addsDirs (t : Tree) (missing up : List String) :
    AddsDirs (t.IsPlaceOf (missing ++ up)) t (t.climb missing up).1 := by
  induction up generalizing missing with
  | nil =>
      rw [List.append_nil]
      exact makeEach_addsDirs t missing
  -- the path reached, or found there, is the last of the climb: what waits is made below it
  | cons path up ih =>
      have hmissing : ∀ u, AddsDirs (· = t.place path) t u →
          AddsDirs (t.IsPlaceOf (missing ++ path :: up)) t (u.makeEach missing).1 := by
        intro u hu
        refine (hu.cons (makeEach_addsDirs u missing)).mono fun _ => IsPlaceOf.mono ?_
        exact List.cons_subset.mpr ⟨by simp, List.subset_append_left missing _⟩
      unfold climb
      split
      · next u h => exact hmissing u (makeDir_addsDirs h)
      · -- the path itself is missing now, and is made behind those above it
        refine (ih (path :: missing)).mono fun _ => IsPlaceOf.mono ?_
        exact List.perm_middle.symm.subset
      · split
        · exact hmissing t (AddsDirs.refl _ t)
        · exact AddsDirs.refl _ t

/-- Making a directory with those above it adds directories at ancestors of its path. -/
theorem makeDirs_addsDirs (t : Tree) (path : String) :
    AddsDirs (t.IsPlaceOf (Path.ancestors path)) t (t.makeDirs path).1 := by
  refine (climb_addsDirs t [] _).mono fun _ => IsPlaceOf.mono ?_
  exact (List.takeWhile_prefix _).subset

/-! ### Writing a file

Behind the directories one file is written. A success says where its path leads and what
stood there; most of what follows is read off that, such as that the path ends in a name and
in nothing behind it. -/

/-- A file is put in the place of its path, where it may replace a file but no directory. If the
path ends in a slash it does not end in a name. -/
theorem writeFile_eq_ok {t u : Tree} {path : String} {content : ByteArray}
    (h : t.writeFile path content = .ok u) :
    t.locate path = .ok (t.place path) ∧ t.entry? (t.place path) ≠ some .dir ∧
      u = t.insert (t.place path) (.file content) ∧
      (endsInSlash path = true →
        ∀ n, (segments path).getLast? = some n → n = "." ∨ n = "..") := by
  unfold writeFile at h
  simp only [bind, Except.bind, throw, throwThe, MonadExceptOf.throw] at h
  split at h
  · cases h
  · next hc =>
      split at h
      -- a slash at the end of a name: nothing is written
      · split at h <;> cases h
      · next hslash =>
          split at h
          · cases h
          · next loc hf =>
              have hl : t.locate path = .ok loc := by
                rw [locate, hc]
                exact hf
              obtain rfl := locate_eq_ok hl
              split at h
              · cases h
              · next hdir =>
                  refine ⟨hl, hdir, by simpa using h.symm, fun he n hn => ?_⟩
                  by_contra hname
                  rw [not_or] at hname
                  simp [hn, hname, he] at hslash

/-- From a `.` at its end a path comes to a directory, where no file is written. -/
theorem getLast?_segments_of_writeFile_eq_ok {t u : Tree} {path : String} {content : ByteArray}
    (h : t.writeFile path content = .ok u) : (segments path).getLast? ≠ some "." := by
  intro hlast
  obtain ⟨hl, hdir, -, -⟩ := writeFile_eq_ok h
  obtain ⟨init, hsegs⟩ := List.getLast?_eq_some_iff.mp hlast
  have hfollow := follow_of_locate_eq_ok hl
  -- following up to the dot leads to the place already, and a
  -- dot can be followed from directories only
  have hplace : t.place path = init.foldl step (t.origin path) := by
    rw [follow_eq_ok hfollow, hsegs, List.foldl_append]
    exact step_dot _
  rw [hsegs] at hfollow
  exact hdir (hplace ▸ (of_follow_eq_ok hfollow).1)

/-- What can be written as a file ends in no slash, if its last step is a name. -/
theorem endsInSlash_of_writeFile_eq_ok {t u : Tree} {path : String} {content : ByteArray}
    (h : t.writeFile path content = .ok u) {n : String} (hn : (Path.steps path).getLast? = some n)
    (hname : n ≠ "..") : endsInSlash path = false := by
  obtain ⟨-, -, -, hslash⟩ := writeFile_eq_ok h
  rw [steps_eq_filter_segments] at hn
  by_contra hc
  -- the last segment decides: a name would be the last step, and then the slash is not allowed
  cases hs : segments path using List.reverseRecOn with
  | nil => simp [hs] at hn
  | append_singleton init last _ =>
      rcases hslash (by simpa using hc) last (by simp [hs]) with rfl | rfl
      · exact getLast?_segments_of_writeFile_eq_ok h (by simp [hs])
      · have hlast : n = ".." := by simpa [hs] using hn.symm
        exact hname hlast

/-- What can be written as a file has nothing behind its last step, if that is a name. -/
theorem isTrimmed_of_writeFile_eq_ok {t u : Tree} {path : String} {content : ByteArray}
    (h : t.writeFile path content = .ok u) {n : String} (hn : (Path.steps path).getLast? = some n)
    (hname : n ≠ "..") : Path.IsTrimmed path := by
  have hslash := endsInSlash_of_writeFile_eq_ok h hn hname
  refine Path.isTrimmed_of_getLast? (of_decide_eq_false hslash) fun init _ hpieces => ?_
  exact getLast?_segments_of_writeFile_eq_ok h (by simp [segments, hpieces])

/-- A path that can be followed to a file is read as that file. -/
theorem read_eq_ok {t : Tree} {path : String} {content : ByteArray}
    (hl : t.locate path = .ok (t.place path)) (hslash : endsInSlash path = false)
    (he : t.entry? (t.place path) = some (.file content)) : t.read path = .ok content := by
  have hstat : t.stat path = .ok (.file content) := by
    unfold stat
    rw [hl]
    simp [bind, Except.bind, he, hslash]
  rw [read, hstat]
  rfl

/-- A path that is read leads to a file and ends in no slash. -/
theorem of_read_eq_ok {t : Tree} {path : String} {content : ByteArray}
    (h : t.read path = .ok content) : t.locate path = .ok (t.place path) ∧
      endsInSlash path = false ∧ t.entry? (t.place path) = some (.file content) := by
  unfold read stat at h
  cases hl : t.locate path with
  | error e => rw [hl] at h; cases h
  | ok loc =>
      obtain rfl := locate_eq_ok hl
      rw [hl] at h
      simp only [bind, Except.bind] at h
      -- of the entries only a file can be read, and only without a slash
      cases he : t.entry? (t.place path) with
      | none => rw [he] at h; cases h
      | some e =>
          cases e with
          | dir => rw [he] at h; cases h
          | file content' =>
              cases hslash : endsInSlash path with
              | true => rw [he, hslash] at h; cases h
              | false =>
                  rw [he, hslash] at h
                  cases h
                  exact ⟨rfl, rfl, rfl⟩

/-- A file is read alike where directories were added. -/
theorem AddsDirs.read {places : Location → Prop} {t u : Tree} (h : AddsDirs places t u)
    {path : String} {content : ByteArray} (hread : t.read path = .ok content) :
    u.read path = .ok content := by
  obtain ⟨hl, hslash, he⟩ := of_read_eq_ok hread
  have hplace : u.place path = t.place path := h.place_eq path
  apply read_eq_ok _ hslash
  · rw [hplace]
    exact h.keeps he
  · rw [hplace]
    exact locate_mono h.workDir_eq (fun _ hdir => h.keeps hdir) hl

theorem makeParents_addsDirs (t : Tree) (path : String) :
    AddsDirs (t.IsPlaceOf (Path.above path)) t (t.makeParents path).1 := by
  unfold makeParents Path.above
  cases Path.parent? path with
  | none => exact AddsDirs.refl _ t
  | some q => exact makeDirs_addsDirs t q

/-- Writing a file and the directories above it that are missing: what is done in front of the file
adds directories, and then the file is written or nothing. -/
theorem writeWithParents_cases (t : Tree) (path : String) (content : ByteArray) :
    (∃ u e, t.writeWithParents path content = (u, .error e) ∧
      AddsDirs (t.IsPlaceOf (Path.above path)) t u) ∨
    ∃ t₁ u, t.writeWithParents path content = (u, .ok ()) ∧
      AddsDirs (t.IsPlaceOf (Path.above path)) t t₁ ∧
      t₁.writeFile path content = .ok u := by
  have hadds := makeParents_addsDirs t path
  unfold writeWithParents
  rcases hm : t.makeParents path with ⟨t₁, made⟩
  rw [hm] at hadds
  cases made with
  | error e => exact Or.inl ⟨t₁, e, rfl, hadds⟩
  | ok done =>
      dsimp only
      cases hw : t₁.writeFile path content with
      | error e => exact Or.inl ⟨t₁, e, rfl, hadds⟩
      | ok u => exact Or.inr ⟨t₁, u, rfl, hadds, hw⟩

end MailMerge.File.Tree
