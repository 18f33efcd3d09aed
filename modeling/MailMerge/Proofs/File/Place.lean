import MailMerge.File.Write
import MailMerge.Proofs.Path

/-!
# Where paths lead

The place of a path is where its steps lead, whether or not anything is there. Following a path in a
tree comes to its place or fails, so that trees with the same working directory never disagree about
where a path leads, only about whether it can be followed.
-/

namespace MailMerge.File

/-- Whether a location lies below another one and is not that one. -/
def Below (dir loc : Location) : Prop := dir <+: loc ∧ loc ≠ dir

instance (dir loc : Location) : Decidable (Below dir loc) :=
  inferInstanceAs (Decidable (dir <+: loc ∧ loc ≠ dir))

namespace Tree

/-- The place that a path leads to. -/
def place (t : Tree) (path : String) : Location := (Path.steps path).foldl step (t.origin path)

/-! ### Places

A place is a fold over steps and needs no tree but its working directory. Steps that are
names go down one by one, so paths that differ by names only lead to places that differ by
the same names. -/

theorem origin_of_workDir_eq {t u : Tree} (h : u.workDir = t.workDir) (path : String) :
    u.origin path = t.origin path := by
  rw [origin, origin, h]

theorem place_of_workDir_eq {t u : Tree} (h : u.workDir = t.workDir) (path : String) :
    u.place path = t.place path := by
  rw [place, place, origin_of_workDir_eq h]

theorem place_of_steps_eq (t : Tree) {p q : String} (hs : Path.steps p = Path.steps q)
    (ha : Path.isAbsolute p = Path.isAbsolute q) : t.place p = t.place q := by
  rw [place, place, origin, origin, hs, ha]

/-- Steps that are names only go down. -/
theorem foldl_step_of_names {names : List String} (loc : Location)
    (hname : ∀ n ∈ names, n ≠ "." ∧ n ≠ "..") : names.foldl step loc = loc ++ names := by
  induction names generalizing loc with
  | nil => simp
  | cons n names ih =>
      have hn := hname n List.mem_cons_self
      rw [List.foldl_cons, ih _ fun m hm => hname m (List.mem_cons_of_mem n hm)]
      simp [step, hn]

theorem step_dot (dir : Location) : step dir "." = dir := by simp [step]

/-- The steps of a path are its segments but `.`. -/
theorem steps_eq_filter_segments (path : String) :
    Path.steps path = (segments path).filter (· ≠ ".") := by
  unfold Path.steps segments
  rw [List.filter_map, List.filter_filter]
  congr 2
  funext p
  have hdot : String.ofList p = String.ofList ['.'] ↔ p = ['.'] := String.ofList_inj
  simp [Path.isSegment, hdot, Bool.and_comm]

/-- A `.` leads nowhere else. -/
theorem foldl_step_filter (loc : Location) (segs : List String) :
    (segs.filter (· ≠ ".")).foldl step loc = segs.foldl step loc := by
  induction segs generalizing loc with
  | nil => rfl
  | cons s segs ih =>
      -- a dot leads nowhere, and any other segment is a step
      by_cases hdot : s = "."
      · simpa [hdot, step_dot] using ih loc
      · simpa [hdot] using ih (step loc s)

/-- Going the segments of a path, `.` among them, is going its steps. -/
theorem foldl_step_segments (loc : Location) (path : String) :
    (segments path).foldl step loc = (Path.steps path).foldl step loc := by
  rw [steps_eq_filter_segments, foldl_step_filter]

/-- A path that goes on from another one by names leads below its place. -/
theorem place_of_steps_eq_append (t : Tree) {p base : String} {names : List String}
    (hs : Path.steps p = Path.steps base ++ names) (ha : Path.isAbsolute p = Path.isAbsolute base)
    (hup : ".." ∉ names) : t.place p = t.place base ++ names := by
  have horigin : t.origin p = t.origin base := by rw [origin, origin, ha]
  rw [place, hs, List.foldl_append, horigin]
  apply foldl_step_of_names
  intro n hn
  have hmem : n ∈ Path.steps p := hs ▸ List.mem_append_right _ hn
  exact ⟨Path.ne_dot_of_mem_steps hmem, fun e => hup (e ▸ hn)⟩

/-- What is above a path that goes on from a base by names lies below the place of the base, or is
the place of an ancestor of the base. -/
theorem place_of_mem_above (t : Tree) {path base p : String} {names : List String}
    (hs : Path.steps path = Path.steps base ++ names)
    (ha : Path.isAbsolute path = Path.isAbsolute base) (hup : ".." ∉ names)
    (hp : p ∈ Path.above path) :
    Below (t.place base) (t.place p) ∨ ∃ q ∈ Path.ancestors base, t.place p = t.place q := by
  obtain ⟨hpre, habs⟩ := Path.steps_isPrefix_of_mem_above hp
  have hle : Path.steps p <+: Path.steps base ++ names :=
    hs ▸ hpre.trans (List.dropLast_prefix (Path.steps path))
  -- the steps to `p` end within those to the base, or behind them
  rcases List.prefix_or_prefix_of_prefix hle (List.prefix_append (Path.steps base) names) with
    hbase | ⟨rest, hrest⟩
  -- within them: it is the place of an ancestor of the base
  · right
    obtain ⟨q, hq, hsteps⟩ := Path.exists_mem_ancestors hbase
    refine ⟨q, hq, place_of_steps_eq t hsteps.symm ?_⟩
    rw [habs, ha, (Path.steps_isPrefix_of_mem_ancestors hq).2]
  -- behind them, by names: it lies below the base, or is the base itself
  · by_cases hnil : rest = []
    · right
      refine ⟨base, Path.self_mem_ancestors base, place_of_steps_eq t ?_ (habs.trans ha)⟩
      rw [← hrest, hnil, List.append_nil]
    · left
      have hsub : rest <+: names := by
        rw [← hrest] at hle
        exact (List.prefix_append_right_inj (Path.steps base)).mp hle
      rw [place_of_steps_eq_append t hrest.symm (habs.trans ha) fun h => hup (hsub.subset h)]
      exact ⟨List.prefix_append _ _, by simpa using hnil⟩

/-- What is above a path without steps upwards leads above its place. -/
theorem below_place_of_mem_above (t : Tree) {path p : String} (hne : Path.steps path ≠ [])
    (hup : ".." ∉ Path.steps path) (hp : p ∈ Path.above path) :
    Below (t.place p) (t.place path) := by
  obtain ⟨⟨names, hnames⟩, habs⟩ := Path.steps_isPrefix_of_mem_above hp
  have hsteps : Path.steps path = Path.steps p ++ (names ++ [(Path.steps path).getLast hne]) := by
    rw [← List.append_assoc, hnames, List.dropLast_append_getLast hne]
  rw [place_of_steps_eq_append t hsteps habs.symm fun h => hup (hsteps ▸ List.mem_append_right _ h)]
  exact ⟨List.prefix_append _ _, by simp⟩

/-! ### Following

Following checks at each segment that a directory is there and that the name is not too
long. What it comes to is known before, so all that the tree decides is whether it comes to
an end; and only directories are asked for, so more of them do no harm. -/

theorem follow_eq_ok {t : Tree} {loc l : Location} {segs : List String}
    (h : t.follow loc segs = .ok l) : l = segs.foldl step loc := by
  induction segs generalizing loc with
  | nil =>
      cases h
      rfl
  | cons s segs ih =>
      unfold follow at h
      split at h
      · cases h
      · cases h
      · split at h
        · cases h
        · exact ih h

theorem follow_of_locate_eq_ok {t : Tree} {path : String} {loc : Location}
    (h : t.locate path = .ok loc) : t.follow (t.origin path) (segments path) = .ok loc := by
  unfold locate at h
  cases hc : checkPath path with
  | error e => rw [hc] at h; cases h
  | ok checked =>
      rw [hc] at h
      exact h

/-- A path that can be followed leads to its place. -/
theorem locate_eq_ok {t : Tree} {path : String} {loc : Location} (h : t.locate path = .ok loc) :
    loc = t.place path := by
  rw [follow_eq_ok (follow_of_locate_eq_ok h), foldl_step_segments]
  rfl

theorem follow_append (t : Tree) (loc : Location) (xs ys : List String) :
    t.follow loc (xs ++ ys) = t.follow loc xs >>= fun l => t.follow l ys := by
  induction xs generalizing loc with
  | nil => rfl
  | cons s xs ih =>
      rw [List.cons_append, follow, follow]
      split
      · rfl
      · rfl
      · split
        · rfl
        · exact ih (step loc s)

/-- Following goes through directories only, so it succeeds where more of them are. -/
theorem follow_mono {t u : Tree} (hdir : ∀ loc, t.entry? loc = some .dir → u.entry? loc = some .dir)
    {loc l : Location} {segs : List String} (h : t.follow loc segs = .ok l) :
    u.follow loc segs = .ok l := by
  induction segs generalizing loc with
  | nil => exact h
  | cons s segs ih =>
      unfold follow at h ⊢
      cases he : t.entry? loc with
      | none => rw [he] at h; cases h
      | some e =>
          cases e with
          -- a file in the way stops it in the tree it succeeded in
          | file content => rw [he] at h; cases h
          | dir =>
              rw [he] at h
              rw [hdir loc he]
              dsimp only at h ⊢
              split
              · next hlong => rw [if_pos hlong] at h; cases h
              · next hshort =>
                  rw [if_neg hshort] at h
                  exact ih h

theorem locate_mono {t u : Tree} (hwork : u.workDir = t.workDir)
    (hdir : ∀ loc, t.entry? loc = some .dir → u.entry? loc = some .dir) {path : String}
    {loc : Location} (h : t.locate path = .ok loc) : u.locate path = .ok loc := by
  have hf := follow_mono hdir (follow_of_locate_eq_ok h)
  unfold locate at h ⊢
  cases hc : checkPath path with
  | error e => rw [hc] at h; cases h
  | ok checked =>
      have horigin : u.origin path = t.origin path := by rw [origin, origin, hwork]
      rw [horigin]
      exact hf

/-! ### Segments of a path and its parent

A parent is what is left without the last segment and the dots before it, which the text of
the parent does not show. So the segments of a path are those of its parent, then dots, then
one more. -/

theorem segments_empty : segments "" = [] := by decide

/-- A path with a parent goes the segments of that one, and then one more. -/
theorem segments_of_parent? {path q : String} (h : Path.parent? path = some q)
    (htrim : Path.IsTrimmed path) : ∃ dots last, segments path = segments q ++ dots ++ [last] ∧
      ∀ d ∈ dots, d = "." := by
  rcases Path.parent?_eq_some h with ⟨first, hp, habs, rfl⟩ | ⟨init, last, hp, hinit, rfl⟩
  -- one piece alone: the parent is the empty path
  · have hpieces : Path.pieces path = [first] := htrim.symm.trans hp
    refine ⟨[], String.ofList first, ?_, nofun⟩
    have hfirst : first ≠ [] := by
      rintro rfl
      have hpath : path = "" := by
        rw [← String.toList_eq_nil_iff, ← Path.intercalate_pieces, hpieces]
        rfl
      rw [hpath, Path.parent?_empty] at h
      cases h
    rw [segments_empty]
    simp [segments, hpieces, hfirst]
  -- several pieces: the parent is those before the last, without the dots at their end
  · have hpre : Path.trimPieces init <+: Path.pieces path := Path.isPrefix_of_trimPieces_eq hp
    have hpieces : Path.pieces path = init ++ [last] := htrim.symm.trans hp
    obtain ⟨tail, htail, hnone⟩ := Path.exists_trimPieces_append init
    have hlast : last ≠ [] := by
      have hseg := Path.isSegment_of_trimPieces_eq hp hinit
      rintro rfl
      simp [Path.isSegment] at hseg
    have hq : segments (Path.ofPieces (Path.isAbsolute path) (Path.trimPieces init)) =
        ((Path.trimPieces init).filter (· ≠ [])).map String.ofList := by
      by_cases hroot : Path.isAbsolute path = true ∧ Path.trimPieces init = [[]]
      · rw [Path.ofPieces, if_pos hroot, hroot.2]
        decide
      · rw [segments, Path.pieces_ofPieces (Path.trimPieces_ne_nil hinit)
          (fun p hp => Path.slash_not_mem_of_mem_pieces p (hpre.subset hp)) hroot]
    refine ⟨(tail.filter (· ≠ [])).map String.ofList, String.ofList last, ?_, ?_⟩
    · rw [hq, segments, hpieces]
      conv_lhs => rw [← htail]
      simp [hlast]
    · intro d hd
      obtain ⟨p, hp, rfl⟩ := List.mem_map.mp hd
      obtain ⟨hp, hne⟩ := List.mem_filter.mp hp
      have hdot : p = ['.'] := by simpa [Path.isSegment, of_decide_eq_true hne] using hnone p hp
      rw [hdot]

/-! ### Following, step by step -/

/-- A path that can be followed goes through directories only, and no segment of it is too long. -/
theorem of_follow_eq_ok {t : Tree} {loc l : Location} {pre post : List String} {s : String}
    (h : t.follow loc (pre ++ s :: post) = .ok l) :
    t.entry? (pre.foldl step loc) = some .dir ∧ s.utf8ByteSize ≤ nameLimit := by
  rw [follow_append] at h
  cases hpre : t.follow loc pre with
  | error e => rw [hpre] at h; cases h
  | ok l' =>
      obtain rfl := follow_eq_ok hpre
      rw [hpre] at h
      -- the part in front was followed to a directory, or there would be no end
      change t.follow (pre.foldl step loc) (s :: post) = .ok l at h
      unfold follow at h
      split at h
      · cases h
      · cases h
      · next hdir =>
          split at h
          · cases h
          · next hshort => exact ⟨hdir, Nat.le_of_not_lt hshort⟩

/-- Following stops where nothing is, at a file, or at a segment that is too long. -/
theorem follow_eq_error {t : Tree} {loc : Location} {segs : List String} {e : Fault}
    (h : t.follow loc segs = .error e) :
    e = .notFound ∨ ∃ pre s post, segs = pre ++ s :: post ∧
      ((∃ content, t.entry? (pre.foldl step loc) = some (.file content)) ∨
        nameLimit < s.utf8ByteSize) := by
  induction segs generalizing loc with
  | nil => cases h
  | cons s segs ih =>
      unfold follow at h
      split at h
      · exact Or.inl (Except.error.inj h).symm
      · next content hfile => exact Or.inr ⟨[], s, segs, rfl, Or.inl ⟨content, hfile⟩⟩
      · split at h
        · next hlong => exact Or.inr ⟨[], s, segs, rfl, Or.inr hlong⟩
        · rcases ih h with he | ⟨pre, s', post, rfl, hstop⟩
          · exact Or.inl he
          · exact Or.inr ⟨s :: pre, s', post, rfl, hstop⟩

theorem follow_dots {t : Tree} {loc : Location} {dots : List String} (hdots : ∀ d ∈ dots, d = ".")
    (hdir : t.entry? loc = some .dir) : t.follow loc dots = .ok loc := by
  induction dots with
  | nil => rfl
  | cons d dots ih =>
      obtain ⟨rfl, hrest⟩ := List.forall_mem_cons.mp hdots
      rw [follow, hdir]
      dsimp only
      rw [if_neg (by decide), step_dot]
      exact ih hrest

end Tree
end MailMerge.File
