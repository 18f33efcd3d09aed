import MailMerge.Proofs.File.Write

/-!
# When a file can be written

A file can be written, with the directories above it that are missing, exactly if its path is well
named and starts at a directory, no file stands where a directory is needed, and no directory is or
is needed where the file is to be (`CanWrite.exists_eq_ok`, `of_writeWithParents_eq_ok`). None of
this depends on which of the directories are there already. What the writing makes of the tree is
fixed then (`Written`).

Directories are made from the first one that can be found upwards. That it always comes to one is
shown along the ancestors of the path (`climb_eq_ok`).
-/

namespace MailMerge.File.Tree

/-- A path that operating systems take: nothing stands behind its last segment, it has no zero
character, and neither it nor one of its segments is too long. -/
structure WellNamed (path : String) : Prop where
  trimmed : Path.IsTrimmed path
  checked : checkPath path = .ok ()
  short : ∀ s ∈ segments path, s.utf8ByteSize ≤ nameLimit

theorem checkPath_eq_ok_iff {path : String} : checkPath path = .ok () ↔
    '\x00' ∉ path.toList ∧ path ≠ "" ∧ path.utf8ByteSize < pathLimit := by
  unfold checkPath
  split
  · next h => exact ⟨nofun, fun hc => absurd (by simpa using h) hc.1⟩
  · next hnul =>
      split
      · next h => simp [h]
      · next hne =>
          split
          · next h => simp [Nat.not_lt.mpr h]
          · next h => simpa [hne, Nat.lt_of_not_le h] using hnul

theorem checkPath_of_isPrefix {path q : String} (hpre : q.toList <+: path.toList) (hne : q ≠ "")
    (h : checkPath path = .ok ()) : checkPath q = .ok () := by
  obtain ⟨hnul, -, hsize⟩ := checkPath_eq_ok_iff.mp h
  obtain ⟨rest, hrest⟩ := hpre
  -- what stands behind the prefix only makes the text longer
  have hpath : path = q ++ String.ofList rest := by
    apply String.toList_inj.mp
    simp [hrest]
  refine checkPath_eq_ok_iff.mpr ⟨fun hmem => ?_, hne, ?_⟩
  · exact hnul (hrest ▸ List.mem_append_left rest hmem)
  · rw [hpath, String.utf8ByteSize_append] at hsize
    exact Nat.lt_of_le_of_lt (Nat.le_add_right _ _) hsize

theorem segments_isPrefix {path q : String} (h : Path.pieces q <+: Path.pieces path) :
    segments q <+: segments path := (h.filter _).map String.ofList

/-- The parent of such a path is such a path, if it is not the top. -/
theorem WellNamed.parent {path q p : String} (h : WellNamed path) (hq : Path.parent? path = some q)
    (hp : Path.parent? q = some p) : WellNamed q := by
  obtain ⟨htrim, hpre, -⟩ := Path.pieces_parent? hq hp
  have hne : q ≠ "" := by
    rintro rfl
    rw [Path.parent?_empty] at hp
    cases hp
  exact ⟨htrim, checkPath_of_isPrefix (Path.toList_isPrefix hpre) hne h.checked,
    fun s hs => h.short s ((segments_isPrefix hpre).subset hs)⟩

/-- Whether a path can be followed to a directory. -/
structure IsOpen (t : Tree) (path : String) : Prop where
  follow_eq : t.follow (t.origin path) (segments path) = .ok (t.place path)
  dir : t.entry? (t.place path) = some .dir

/-- Whether no file stands on the way that a path goes, nor at its end. -/
def IsClear (t : Tree) (path : String) : Prop :=
  ∀ pre, pre <+: Path.steps path → ∀ content,
    t.entry? (pre.foldl step (t.origin path)) ≠ some (.file content)

variable {t : Tree} {path q : String}

theorem origin_parent? (h : Path.parent? path = some q) : t.origin q = t.origin path := by
  rw [origin, origin, Path.isAbsolute_parent? h]

theorem IsClear.parent (h : t.IsClear path) (hq : Path.parent? path = some q) : t.IsClear q := by
  intro pre hpre content
  rw [Path.steps_parent? hq] at hpre
  rw [origin_parent? hq]
  exact h pre (hpre.trans (List.dropLast_prefix _)) content

/-- A path without steps is open if it starts at a directory. -/
theorem isOpen_of_parent?_eq_none (h : Path.parent? path = none)
    (horigin : t.entry? (t.origin path) = some .dir) : t.IsOpen path := by
  have hsteps : Path.steps path = [] := Path.steps_of_parent?_eq_none h
  have hplace : t.place path = t.origin path := by rw [place, hsteps]; rfl
  -- a path without a parent has no step, so all its segments are single dots
  have hdots : ∀ d ∈ segments path, d = "." := by
    intro d hd
    by_contra hne
    have hmem : d ∈ Path.steps path := by
      rw [steps_eq_filter_segments]
      exact List.mem_filter.mpr ⟨hd, by simpa using hne⟩
    rw [hsteps] at hmem
    cases hmem
  rw [← hplace] at horigin
  refine ⟨?_, horigin⟩
  rw [← hplace]
  exact follow_dots hdots horigin

/-- From a directory one more step can be followed. -/
theorem IsOpen.locate (hq : t.IsOpen q) (h : Path.parent? path = some q) (hnamed : WellNamed path) :
    t.locate path = .ok (t.place path) := by
  obtain ⟨dots, last, hsegs, hdots⟩ := segments_of_parent? h hnamed.trimmed
  have hfollow : t.follow (t.origin path) (segments path) = .ok (t.place path) := by
    -- the parent is followed to a directory; from there the dots lead nowhere and the last
    -- segment is one more step
    have hlast : last.utf8ByteSize ≤ nameLimit := hnamed.short last (by simp [hsegs])
    have hstep : t.follow (t.place q) [last] = .ok (step (t.place q) last) := by
      rw [follow, hq.dir]
      dsimp only
      rw [if_neg (Nat.not_lt.mpr hlast)]
      rfl
    have hall : t.follow (t.origin path) (segments path) = .ok (step (t.place q) last) := by
      rw [hsegs, follow_append, follow_append, ← origin_parent? h, hq.follow_eq]
      change (t.follow (t.place q) dots >>= fun l => t.follow l [last]) = _
      rw [follow_dots hdots hq.dir]
      exact hstep
    rw [hall, follow_eq_ok hall, foldl_step_segments]
    rfl
  rw [Tree.locate, hnamed.checked]
  exact hfollow

/-- Where no file is in the way, following stops only where nothing is. -/
theorem IsClear.locate_eq_error (hclear : t.IsClear path) (hnamed : WellNamed path) {e : Fault}
    (h : t.locate path = .error e) : e = .notFound := by
  rw [Tree.locate, hnamed.checked] at h
  rcases follow_eq_error h with he | ⟨pre, s, post, hsegs, ⟨content, hfile⟩ | hlong⟩
  · exact he
  -- the place where a file stands is reached by steps of the path, the dots before it left out
  · have hpre : pre.filter (· ≠ ".") <+: Path.steps path := by
      rw [steps_eq_filter_segments, hsegs, List.filter_append]
      exact List.prefix_append _ _
    rw [← foldl_step_filter] at hfile
    exact absurd hfile (hclear _ hpre content)
  · have hshort := hnamed.short s (by simp [hsegs])
    exact absurd hlong (Nat.not_lt.mpr hshort)

theorem IsClear.at_place (h : t.IsClear path) (content : ByteArray) :
    t.entry? (t.place path) ≠ some (.file content) := h _ List.prefix_rfl content

-- A tree in which no file is in the way stays one while directories are added, so the
-- conditions need to be checked on the tree at the start only. Making a directory then has
-- three ends (`IsClear.makeDir_cases`), and the two loops over directories choose by them: the
-- climb goes up past those that have nothing to stand in, and behind it they are made
-- downwards.
/-! ### Making directories -/

theorem AddsDirs.isClear {places : Location → Prop} {u : Tree} (h : AddsDirs places t u)
    (hclear : t.IsClear path) : u.IsClear path := by
  intro pre hpre content
  rw [origin_of_workDir_eq h.workDir_eq]
  exact fun hfile => hclear pre hpre content ((h.file_iff _ content).mp hfile)

theorem AddsDirs.missing {places : Location → Prop} {u : Tree} (h : AddsDirs places t u)
    {missing : List String} (hmissing : ∀ r ∈ missing, WellNamed r ∧ t.IsClear r) :
    ∀ r ∈ missing, WellNamed r ∧ u.IsClear r :=
  fun r hr => ⟨(hmissing r hr).1, h.isClear (hmissing r hr).2⟩

/-- Making a directory where no file is in the way makes it, or finds it, or finds nothing to make
it in. -/
theorem IsClear.makeDir_cases (hclear : t.IsClear path) (hnamed : WellNamed path) :
    (∃ u, t.makeDir path = .ok u ∧ u.IsOpen path) ∨
      (t.makeDir path = .error .alreadyExists ∧ t.isDir path = true ∧ t.IsOpen path) ∨
      (t.makeDir path = .error .notFound ∧ t.locate path = .error .notFound) := by
  cases hl : t.locate path with
  | error e =>
      obtain rfl := hclear.locate_eq_error hnamed hl
      exact Or.inr (Or.inr ⟨by rw [makeDir, hl]; rfl, rfl⟩)
  | ok loc =>
      -- following succeeds, so the entry at the end decides
      obtain rfl := locate_eq_ok hl
      have hfollow := follow_of_locate_eq_ok hl
      cases he : t.entry? (t.place path) with
      | none =>
          have hmade : t.makeDir path = .ok (t.insert (t.place path) .dir) := by
            rw [makeDir, hl]
            simp [bind, Except.bind, he]
          have hadds := makeDir_addsDirs hmade
          refine Or.inl ⟨_, hmade, follow_mono (fun _ hdir => hadds.keeps hdir) hfollow, ?_⟩
          change entry? (t.insert (t.place path) .dir) (t.place path) = some .dir
          rw [lookup_insert t (ne_nil_of_ne_dir (t := t) (by simp [he])), if_pos rfl]
      | some e =>
          cases e with
          | file content => exact absurd he (hclear.at_place content)
          | dir =>
              refine Or.inr (Or.inl ⟨?_, ?_, hfollow, he⟩)
              · rw [makeDir, hl]
                simp [bind, Except.bind, he]
              · rw [isDir, stat, hl]
                simp [bind, Except.bind, he]

/-- Directories are made one in the other where no file is in the way. -/
theorem makeEach_eq_ok {missing : List String} (hopen : t.IsOpen q)
    (hchain : (q :: missing).IsChain fun p r => Path.parent? r = some p)
    (hmissing : ∀ r ∈ missing, WellNamed r ∧ t.IsClear r) :
    ∃ u, t.makeEach missing = (u, .ok ()) ∧
      u.IsOpen ((q :: missing).getLast (List.cons_ne_nil _ _)) := by
  induction missing generalizing t q with
  | nil => exact ⟨t, rfl, hopen⟩
  | cons r rest ih =>
      obtain ⟨hparent, hrest⟩ := List.isChain_cons_cons.mp hchain
      obtain ⟨⟨hnamed, hclear⟩, hothers⟩ := List.forall_mem_cons.mp hmissing
      rw [List.getLast_cons (List.cons_ne_nil _ _)]
      -- the one above is open, so the third case, nothing to make it in, cannot come up
      rcases hclear.makeDir_cases hnamed with ⟨u, hmade, hu⟩ | ⟨hmade, hdir, hr⟩ | ⟨-, hl⟩
      · rw [makeEach, hmade]
        exact ih hu hrest ((makeDir_addsDirs hmade).missing hothers)
      · rw [makeEach, hmade]
        dsimp only
        rw [if_pos ⟨rfl, hdir⟩]
        exact ih hr hrest hothers
      · rw [hopen.locate hparent hnamed] at hl
        cases hl

/-- Climbing ends at a directory if it starts at one that is there. The induction is on the bound of
the ancestors, which is met by the pieces that are left. -/
theorem climb_eq_ok {n : Nat} {missing : List String}
    (hn : (Path.pieces path).length ≤ n ∨ Path.parent? path = none)
    (horigin : t.entry? (t.origin path) = some .dir) (hclear : t.IsClear path)
    (hname : Path.parent? path ≠ none → WellNamed path)
    (hchain : (path :: missing).IsChain fun p r => Path.parent? r = some p)
    (hmissing : ∀ r ∈ missing, WellNamed r ∧ t.IsClear r) :
    ∃ u, t.climb missing ((Path.upFrom n path).takeWhile fun p =>
        p ≠ "" ∧ (Path.parent? p).isSome) = (u, .ok ()) ∧
      u.IsOpen ((path :: missing).getLast (List.cons_ne_nil _ _)) := by
  induction n generalizing path missing with
  | zero =>
      have hpos := List.length_pos_of_ne_nil (Path.pieces_ne_nil path)
      -- every path has a piece, so a bound of zero leaves only the top
      have htop : Path.parent? path = none := hn.resolve_left (Nat.not_le.mpr hpos)
      have hup : (Path.upFrom 0 path).takeWhile
          (fun p => p ≠ "" ∧ (Path.parent? p).isSome) = [] := by
        simp [Path.upFrom, htop]
      rw [hup]
      exact makeEach_eq_ok (isOpen_of_parent?_eq_none htop horigin) hchain hmissing
  | succ n ih =>
      cases hq : Path.parent? path with
      | none =>
          have hup : (Path.upFrom (n + 1) path).takeWhile
              (fun p => p ≠ "" ∧ (Path.parent? p).isSome) = [] := by
            simp [Path.upFrom, hq]
          rw [hup]
          exact makeEach_eq_ok (isOpen_of_parent?_eq_none hq horigin) hchain hmissing
      | some q =>
          have hnamed : WellNamed path := hname (by simp [hq])
          have hne : path ≠ "" := by
            rintro rfl
            rw [Path.parent?_empty] at hq
            cases hq
          have hup : (Path.upFrom (n + 1) path).takeWhile
              (fun p => p ≠ "" ∧ (Path.parent? p).isSome) =
                path :: (Path.upFrom n q).takeWhile fun p => p ≠ "" ∧ (Path.parent? p).isSome := by
            simp [Path.upFrom, hq, hne]
          rw [hup]
          rcases hclear.makeDir_cases hnamed with ⟨u, hmade, hu⟩ | ⟨hmade, hdir, hopen⟩ | ⟨hmade, -⟩
          · rw [climb, hmade]
            -- from here on the ones that waited are made, each in the one before it
            exact makeEach_eq_ok hu hchain ((makeDir_addsDirs hmade).missing hmissing)
          · rw [climb, hmade]
            dsimp only
            rw [if_pos ⟨rfl, hdir⟩]
            exact makeEach_eq_ok hopen hchain hmissing
          · -- nothing is there to make the path in, so it waits for the one above it
            rw [climb, hmade]
            dsimp only
            have hlast : (path :: missing).getLast (List.cons_ne_nil _ _) =
                (q :: path :: missing).getLast (List.cons_ne_nil _ _) :=
              (List.getLast_cons (List.cons_ne_nil _ _)).symm
            rw [hlast]
            apply ih
            · cases hp : Path.parent? q with
              | none => exact Or.inr rfl
              | some p =>
                  obtain ⟨-, -, hlt⟩ := Path.pieces_parent? hq hp
                  have hle := hn.resolve_right (by simp [hq])
                  exact Or.inl (by omega)
            · rwa [origin_parent? hq]
            · exact hclear.parent hq
            · intro hp
              obtain ⟨p, hp⟩ := Option.ne_none_iff_exists'.mp hp
              exact hnamed.parent hq hp
            · exact List.isChain_cons_cons.mpr ⟨hq, hchain⟩
            · exact List.forall_mem_cons.mpr ⟨⟨hnamed, hclear⟩, hmissing⟩

/-- A directory can be made with those above it where no file is in the way. -/
theorem makeDirs_eq_ok (horigin : t.entry? (t.origin path) = some .dir) (hclear : t.IsClear path)
    (hname : Path.parent? path ≠ none → WellNamed path) :
    ∃ u, t.makeDirs path = (u, .ok ()) ∧ u.IsOpen path := by
  have hnone : ∀ r ∈ ([] : List String), WellNamed r ∧ t.IsClear r := nofun
  obtain ⟨u, hmade, hopen⟩ := climb_eq_ok (Or.inl (Nat.le_refl _)) horigin hclear hname
    (.singleton path) hnone
  exact ⟨u, hmade, hopen⟩

-- A path that is not absolute starts at the working directory, which may be gone. Then no
-- directory is made on the way and the tree stays as it was: this is what lets a success say
-- that the start was a directory all along.
/-! ### Where paths start -/

theorem segments_ne_nil (hne : path ≠ "") (hrel : Path.isAbsolute path = false) :
    segments path ≠ [] := by
  obtain ⟨c, cs, hcs⟩ := List.exists_cons_of_ne_nil (mt String.toList_eq_nil_iff.mp hne)
  obtain ⟨p, ps, hps⟩ := List.exists_cons_of_ne_nil (List.splitOn_ne_nil '/' cs)
  have hslash : c ≠ '/' := by simpa [Path.isAbsolute, hcs] using hrel
  simp [segments, Path.pieces, hcs, List.splitOn_cons_eq_if_modifyHead, hslash, hps]

/-- No directory is made by a path that does not start at one. -/
theorem makeDir_of_origin (horigin : t.entry? (t.origin path) ≠ some .dir) :
    ∃ e, t.makeDir path = .error e := by
  cases hmade : t.makeDir path with
  | error e => exact ⟨e, rfl⟩
  | ok u =>
      exfalso
      cases hl : t.locate path with
      | error e =>
          rw [makeDir, hl] at hmade
          cases hmade
      | ok loc =>
          -- the root is a directory, so only a relative path can start elsewhere
          have hrel : Path.isAbsolute path = false := by
            by_contra habs
            exact horigin (by simp [origin, habs, entry?])
          have hne : path ≠ "" := by
            rintro rfl
            cases hl
          obtain ⟨s, segs, hsegs⟩ := List.exists_cons_of_ne_nil (segments_ne_nil hne hrel)
          have hfollow := follow_of_locate_eq_ok hl
          rw [hsegs] at hfollow
          exact horigin (@of_follow_eq_ok _ _ _ [] segs s hfollow).1

/-- Where no directory can be made, nothing is done. -/
theorem makeEach_of_fails {paths : List String}
    (h : ∀ p ∈ paths, ∃ e, t.makeDir p = .error e) : (t.makeEach paths).1 = t := by
  induction paths with
  | nil => rfl
  | cons p rest ih =>
      obtain ⟨⟨e, he⟩, hrest⟩ := List.forall_mem_cons.mp h
      rw [makeEach, he]
      dsimp only
      split
      · exact ih hrest
      · rfl

theorem climb_of_fails {missing up : List String}
    (h : ∀ p ∈ missing ++ up, ∃ e, t.makeDir p = .error e) : (t.climb missing up).1 = t := by
  induction up generalizing missing with
  | nil => exact makeEach_of_fails fun p hp => h p (List.mem_append_left _ hp)
  | cons p up ih =>
      obtain ⟨e, he⟩ := h p (by simp)
      unfold climb
      rw [he]
      -- nothing can be made here, so the climb goes on with the next one up
      split
      · next hok => cases hok
      · exact ih fun r hr => h r (List.perm_middle.mem_iff.mpr hr)
      · split
        · exact makeEach_of_fails fun r hr => h r (List.mem_append_left _ hr)
        · rfl

theorem makeParents_of_origin (horigin : t.entry? (t.origin path) ≠ some .dir) :
    (t.makeParents path).1 = t := by
  unfold makeParents
  cases hq : Path.parent? path with
  | none => rfl
  | some q =>
      refine climb_of_fails fun p hp => makeDir_of_origin ?_
      have hp' : p ∈ Path.ancestors q := (List.takeWhile_prefix _).subset hp
      have habs := (Path.steps_isPrefix_of_mem_ancestors hp').2.trans (Path.isAbsolute_parent? hq)
      rwa [origin, habs]

-- The conditions of `CanWrite` speak of the places above the path in the tree before, not of
-- which of them exist. That they are enough puts the two halves together, first the
-- directories and then the file; that they are needed reads them off what was done.
/-! ### When a file can be written -/

/-- The places of the paths above a path are those that its first steps lead to. -/
theorem isPlaceOf_above_iff (hsteps : Path.steps path ≠ []) {loc : Location} :
    t.IsPlaceOf (Path.above path) loc ↔
      ∃ pre, pre <+: (Path.steps path).dropLast ∧ loc = pre.foldl step (t.origin path) := by
  constructor
  · rintro ⟨p, hp, rfl⟩
    obtain ⟨hpre, habs⟩ := Path.steps_isPrefix_of_mem_above hp
    exact ⟨_, hpre, by rw [place, origin, origin, habs]⟩
  · rintro ⟨pre, hpre, rfl⟩
    cases hq : Path.parent? path with
    | none => exact absurd (Path.steps_of_parent?_eq_none hq) hsteps
    | some q =>
        rw [← Path.steps_parent? hq] at hpre
        obtain ⟨p, hp, rfl⟩ := Path.exists_mem_ancestors hpre
        refine ⟨p, by rwa [Path.above, hq], ?_⟩
        have habs := (Path.steps_isPrefix_of_mem_ancestors hp).2.trans (Path.isAbsolute_parent? hq)
        rw [place, origin, origin, habs]

/-- Whether a file can be written at a path, with the directories above it that are missing. -/
structure CanWrite (t : Tree) (path : String) : Prop where
  named : WellNamed path
  origin : t.entry? (t.origin path) = some .dir
  /-- No file stands where a directory is needed. -/
  clear : ∀ loc, t.IsPlaceOf (Path.above path) loc → ∀ content, t.entry? loc ≠ some (.file content)
  /-- No directory is needed where the file is to be. -/
  apart : ¬ t.IsPlaceOf (Path.above path) (t.place path)
  free : t.entry? (t.place path) ≠ some .dir

/-- What writing a file with the directories above it makes of a tree. -/
structure Written (t : Tree) (path : String) (content : ByteArray) (u : Tree) : Prop where
  workDir_eq : u.workDir = t.workDir
  file : u.entry? (t.place path) = some (.file content)
  above : ∀ loc, t.IsPlaceOf (Path.above path) loc → u.entry? loc = some .dir
  elsewhere : ∀ loc, loc ≠ t.place path → ¬ t.IsPlaceOf (Path.above path) loc →
    u.entry? loc = t.entry? loc

/-- What can be followed goes through the directories above it. -/
theorem dir_of_locate {loc l : Location} (h : t.locate path = .ok l) (hsteps : Path.steps path ≠ [])
    (hloc : t.IsPlaceOf (Path.above path) loc) : t.entry? loc = some .dir := by
  obtain ⟨pre, ⟨rest, hpre⟩, rfl⟩ := (isPlaceOf_above_iff hsteps).mp hloc
  -- the segments of the path are its steps with single dots between, and at least one segment
  -- follows the place
  have hsegs : (segments path).filter (· ≠ ".") =
      pre ++ (rest ++ [(Path.steps path).getLast hsteps]) := by
    rw [← steps_eq_filter_segments, ← List.append_assoc, hpre, List.dropLast_append_getLast]
  obtain ⟨front, back, hsplit, rfl, hback⟩ := List.filter_eq_append_iff.mp hsegs
  obtain ⟨s, post, rfl⟩ : ∃ s post, back = s :: post := by
    apply List.exists_cons_of_ne_nil
    rintro rfl
    simp at hback
  have hfollow := follow_of_locate_eq_ok h
  rw [hsplit] at hfollow
  rw [foldl_step_filter]
  exact (of_follow_eq_ok hfollow).1

theorem wellNamed_of_locate {l : Location} (h : t.locate path = .ok l)
    (htrim : Path.IsTrimmed path) : WellNamed path := by
  refine ⟨htrim, ?_, fun s hs => ?_⟩
  · cases hc : checkPath path with
    | error e => rw [locate, hc] at h; cases h
    | ok checked => rfl
  · obtain ⟨pre, post, hsplit⟩ := List.append_of_mem hs
    have hfollow := follow_of_locate_eq_ok h
    rw [hsplit] at hfollow
    exact (of_follow_eq_ok hfollow).2

/-- A file is put where no directory is, by a path that ends in no slash. -/
theorem writeFile_of_locate {content : ByteArray} (hl : t.locate path = .ok (t.place path))
    (hslash : endsInSlash path = false) (hdir : t.entry? (t.place path) ≠ some .dir) :
    t.writeFile path content = .ok (t.insert (t.place path) (.file content)) := by
  have hfollow := follow_of_locate_eq_ok hl
  unfold writeFile
  cases hc : checkPath path with
  | error e => rw [locate, hc] at hl; cases hl
  | ok checked =>
      simp only [bind, Except.bind, hslash, Bool.false_eq_true, and_false, if_false, hfollow]

theorem writeWithParents_eq_ok {u : Tree} {content : ByteArray}
    (h : t.writeWithParents path content = (u, .ok ())) :
    ∃ t₁, t.makeParents path = (t₁, .ok ()) ∧ t₁.writeFile path content = .ok u := by
  unfold writeWithParents at h
  rcases hmade : t.makeParents path with ⟨t₁, e | ⟨⟩⟩
  · rw [hmade] at h
    cases h
  · rw [hmade] at h
    dsimp only at h
    cases hw : t₁.writeFile path content with
    | error e => rw [hw] at h; cases h
    | ok u' =>
        rw [hw] at h
        cases h
        -- only a write that succeeds is left
        exact ⟨t₁, rfl, hw⟩

/-- A file that can be written is written. -/
theorem CanWrite.exists_eq_ok (h : t.CanWrite path) (hsteps : Path.steps path ≠ [])
    (content : ByteArray) : ∃ u, t.writeWithParents path content = (u, .ok ()) := by
  cases hq : Path.parent? path with
  | none => exact absurd (Path.steps_of_parent?_eq_none hq) hsteps
  | some q =>
      have hclear : t.IsClear q := by
        intro pre hpre
        rw [Path.steps_parent? hq] at hpre
        rw [origin_parent? hq]
        exact h.clear _ ((isPlaceOf_above_iff hsteps).mpr ⟨pre, hpre, rfl⟩)
      have horigin : t.entry? (t.origin q) = some .dir := by
        rw [origin_parent? hq]
        exact h.origin
      obtain ⟨u, hmade, hopen⟩ := makeDirs_eq_ok horigin hclear fun hp => by
        obtain ⟨p, hp⟩ := Option.ne_none_iff_exists'.mp hp
        exact h.named.parent hq hp
      have hparents : t.makeParents path = (u, .ok ()) := by rw [makeParents, hq]; exact hmade
      have hadds := makeParents_addsDirs t path
      rw [hparents] at hadds
      -- the directories that were made lie above the file, and the file does not
      have hdir : u.entry? (u.place path) ≠ some .dir := by
        rw [hadds.place_eq]
        rcases hadds.change (t.place path) with heq | ⟨-, -, habove⟩
        · rw [heq]
          exact h.free
        · exact absurd habove h.apart
      have hslash : endsInSlash path = false := decide_eq_false h.named.trimmed.getLast?_ne
      refine ⟨u.insert (u.place path) (.file content), ?_⟩
      unfold writeWithParents
      rw [hparents]
      dsimp only
      rw [writeFile_of_locate (hopen.locate hq h.named) hslash hdir]

/-- A file that was written could be, and what its writing makes is fixed. -/
theorem of_writeWithParents_eq_ok {u : Tree} {content : ByteArray} {n : String}
    (hn : (Path.steps path).getLast? = some n) (hname : n ≠ "..")
    (h : t.writeWithParents path content = (u, .ok ())) :
    t.CanWrite path ∧ t.Written path content u := by
  have hsteps : Path.steps path ≠ [] := by
    intro hnil
    rw [hnil] at hn
    cases hn
  obtain ⟨t₁, hmade, hw⟩ := writeWithParents_eq_ok h
  have hadds := makeParents_addsDirs t path
  rw [hmade] at hadds
  obtain ⟨hl, hdir, rfl, -⟩ := writeFile_eq_ok hw
  rw [hadds.place_eq] at hdir
  have habove : ∀ loc, t.IsPlaceOf (Path.above path) loc → t₁.entry? loc = some .dir := by
    -- the file was followed to, so everything above it was a directory by then
    rintro loc ⟨p, hp, hloc⟩
    exact dir_of_locate hl hsteps ⟨p, hp, by rw [hadds.place_eq, hloc]⟩
  have horigin : t₁.entry? (t.origin path) = some .dir :=
    habove _ ((isPlaceOf_above_iff hsteps).mpr ⟨[], List.nil_prefix, rfl⟩)
  have hlookup := lookup_insert t₁ (ne_nil_of_ne_dir hdir) (.file content)
  rw [hadds.place_eq]
  constructor
  · refine ⟨wellNamed_of_locate hl (isTrimmed_of_writeFile_eq_ok hw hn hname), ?_, ?_, ?_, ?_⟩
    · -- had the path not started at a directory, none would have been made, and it would not now
      by_contra hstart
      have hsame := makeParents_of_origin hstart
      rw [hmade] at hsame
      exact hstart (hsame ▸ horigin)
    · intro loc hloc file hfile
      have hdir' := habove loc hloc
      rw [hadds.keeps hfile] at hdir'
      cases hdir'
    · exact fun happart => hdir (habove _ happart)
    · exact fun hfree => hdir (hadds.keeps hfree)
  · refine ⟨hadds.workDir_eq, ?_, fun loc hloc => ?_, fun loc hne hloc => ?_⟩
    · rw [hlookup, if_pos rfl]
    · have hne : loc ≠ t.place path := fun he => hdir (he ▸ habove loc hloc)
      rw [hlookup, if_neg hne]
      exact habove loc hloc
    · rw [hlookup, if_neg hne]
      rcases hadds.change loc with heq | ⟨-, -, hnew⟩
      · exact heq
      · exact absurd hnew hloc

-- Behind a file that was written, the conditions for another one are those from before and two
-- more: the two files are in each other's way at no place.
/-! ### One file beside another -/

namespace Written

variable {u : Tree} {content : ByteArray}

theorem place_eq (h : t.Written path content u) (p : String) : u.place p = t.place p :=
  place_of_workDir_eq h.workDir_eq p

theorem isPlaceOf_iff (h : t.Written path content u) {paths : List String} {loc : Location} :
    u.IsPlaceOf paths loc ↔ t.IsPlaceOf paths loc := by
  simp only [IsPlaceOf, h.place_eq]

/-- A location holds the file, or it is a directory above the file, or it is as before. -/
theorem entry_cases (h : t.Written path content u) (loc : Location) :
    (loc = t.place path ∧ u.entry? loc = some (.file content)) ∨
      (t.IsPlaceOf (Path.above path) loc ∧ u.entry? loc = some .dir) ∨
      u.entry? loc = t.entry? loc := by
  by_cases hloc : loc = t.place path
  · exact Or.inl ⟨hloc, hloc ▸ h.file⟩
  · by_cases habove : t.IsPlaceOf (Path.above path) loc
    · exact Or.inr (Or.inl ⟨habove, h.above loc habove⟩)
    · exact Or.inr (Or.inr (h.elsewhere loc hloc habove))

/-- Behind a file another one can be written exactly if it could be before, and neither of them lies
where a directory is needed for the other one. -/
theorem canWrite_iff (h : t.Written path content u) (hpath : t.CanWrite path) {p : String}
    (habs : Path.isAbsolute p = Path.isAbsolute path) :
    u.CanWrite p ↔ t.CanWrite p ∧ ¬ t.IsPlaceOf (Path.above p) (t.place path) ∧
      ¬ t.IsPlaceOf (Path.above path) (t.place p) := by
  have horigin : ∀ v : Tree, v.origin p = v.origin path := fun v => by rw [origin, origin, habs]
  -- in the new tree the first file stands at its place and directories stand above it
  constructor
  · intro hp
    have hneeded : ¬ t.IsPlaceOf (Path.above p) (t.place path) := fun hloc =>
      hp.clear _ (h.isPlaceOf_iff.mpr hloc) content h.file
    have hfree := hp.free
    rw [h.place_eq] at hfree
    have habove : ¬ t.IsPlaceOf (Path.above path) (t.place p) := fun hloc =>
      hfree (h.above _ hloc)
    refine ⟨⟨hp.named, ?_, fun loc hloc file hfile => ?_, ?_, fun hdir => ?_⟩, hneeded, habove⟩
    · rw [horigin]
      exact hpath.origin
    · rcases h.entry_cases loc with ⟨rfl, -⟩ | ⟨hloc', -⟩ | heq
      · exact hneeded hloc
      · exact hpath.clear loc hloc' file hfile
      · exact hp.clear loc (h.isPlaceOf_iff.mpr hloc) file (heq.trans hfile)
    · have happart := hp.apart
      rwa [h.isPlaceOf_iff, h.place_eq] at happart
    · rcases h.entry_cases (t.place p) with ⟨heq, -⟩ | ⟨hloc, -⟩ | heq
      · exact hpath.free (heq ▸ hdir)
      · exact habove hloc
      · exact hfree (heq.trans hdir)
  · rintro ⟨hp, hneeded, habove⟩
    -- a place that was free before can only have become the first file or a directory above it
    refine ⟨hp.named, ?_, fun loc hloc file hfile => ?_, ?_, fun hdir => ?_⟩
    · rw [horigin, origin_of_workDir_eq h.workDir_eq]
      rcases h.entry_cases (t.origin path) with ⟨heq, -⟩ | ⟨-, hdir⟩ | heq
      · exact absurd (heq ▸ hpath.origin) hpath.free
      · exact hdir
      · exact heq.trans hpath.origin
    · rw [h.isPlaceOf_iff] at hloc
      rcases h.entry_cases loc with ⟨rfl, -⟩ | ⟨-, hdir⟩ | heq
      · exact hneeded hloc
      · rw [hfile] at hdir
        cases hdir
      · exact hp.clear loc hloc file (heq.symm.trans hfile)
    · rw [h.isPlaceOf_iff, h.place_eq]
      exact hp.apart
    · rw [h.place_eq] at hdir
      rcases h.entry_cases (t.place p) with ⟨-, hfile⟩ | ⟨hloc, -⟩ | heq
      · rw [hfile] at hdir
        cases hdir
      · exact habove hloc
      · exact hp.free (heq.symm.trans hdir)

end Written

end MailMerge.File.Tree
