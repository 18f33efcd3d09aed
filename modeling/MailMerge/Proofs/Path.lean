import MailMerge.Path
import MailMerge.Proofs.Text.Parts

/-!
# The steps of a path

A path is read through its steps: the segments that name a place, and `..`. Where a path starts and
which steps it goes is all that matters for where it leads. What is done with paths as texts is said
here in terms of steps:

* joining a relative path appends its steps (`steps_join`),
* the parent of a path goes all its steps but the last (`steps_parent?`),
* the ancestors of a path go the first parts of its steps (`steps_isPrefix_of_mem_ancestors`,
  `exists_mem_ancestors`).
-/

namespace MailMerge.Path

/-- The steps of a path: its segments without those that name no place. A `..` is a step. -/
def steps (path : String) : List String := ((pieces path).filter isSegment).map String.ofList

theorem pieces_append_slash (a b : String) : pieces (a ++ "/" ++ b) = pieces a ++ pieces b := by
  have h : (a ++ "/" ++ b).toList = a.toList ++ '/' :: b.toList := by simp
  rw [pieces, h, List.splitOn_append_cons_self]
  rfl

/-- No piece holds a slash. -/
theorem slash_not_mem_of_mem_pieces {path : String} : ∀ p ∈ pieces path, '/' ∉ p :=
  Text.not_mem_of_mem_splitOn

/-- A path is absolute if it has pieces behind an empty first one. -/
theorem isAbsolute_iff {path : String} :
    isAbsolute path = true ↔ ∃ p ps, pieces path = [] :: p :: ps := by
  rw [isAbsolute, pieces]
  cases path.toList with
  | nil => simp
  | cons c cs =>
      obtain ⟨p, ps, hps⟩ := List.exists_cons_of_ne_nil (List.splitOn_ne_nil '/' cs)
      rw [List.splitOn_cons_eq_if_modifyHead]
      by_cases hc : c = '/' <;> simp [hc, hps]

@[simp] theorem steps_empty : steps "" = [] := by simp [steps, pieces, isSegment]

theorem steps_append_slash (a b : String) : steps (a ++ "/" ++ b) = steps a ++ steps b := by
  simp [steps, pieces_append_slash]

theorem ne_dot_of_mem_steps {path n : String} (hn : n ∈ steps path) : n ≠ "." := by
  obtain ⟨p, hp, rfl⟩ := List.mem_map.mp hn
  have hseg : isSegment p = true := (List.mem_filter.mp hp).2
  intro he
  have : p = ['.'] := by simpa using congrArg String.toList he
  simp [isSegment, this] at hseg

/-! ### Joining -/

/-- A relative path is joined by going its steps after those of the base. -/
theorem steps_join {base path : String} (h : isAbsolute path = false) :
    steps (join base path) = steps base ++ steps path := by
  unfold join
  by_cases hb : base = ""
  · simp [hb]
  · rw [if_neg (by simp [h, hb])]
    split
    · next hs =>
        -- a base that ends in a slash is joined as it is, and that slash makes no step
        obtain ⟨cs, hcs⟩ : ∃ cs, base.toList = cs ++ ['/'] := List.getLast?_eq_some_iff.mp hs
        have hbase : base = String.ofList cs ++ "/" := by
          apply String.toList_inj.mp
          simp [hcs]
        have hslash : steps (String.ofList cs ++ "/") = steps (String.ofList cs) := by
          simpa using steps_append_slash (String.ofList cs) ""
        rw [hbase, steps_append_slash, hslash]
    · exact steps_append_slash base path

theorem isAbsolute_join {base path : String} (h : isAbsolute path = false) :
    isAbsolute (join base path) = isAbsolute base := by
  unfold join
  by_cases hb : base = ""
  · rw [if_pos (Or.inr hb), h, hb]
    rfl
  · obtain ⟨c, cs, hcs⟩ := List.exists_cons_of_ne_nil (mt String.toList_eq_nil_iff.mp hb)
    rw [if_neg (by simp [h, hb])]
    split <;> simp [isAbsolute, hcs]

/-! ### Going up

The parent of a path is made of its pieces: what names no place is trimmed off at the end,
then the last segment, then again what names no place. The pieces left are written as a
path, and all is well but for the root, which is written with one piece more. -/

private theorem filter_trimEndOf (p : List Char → Bool) (ps : List (List Char)) :
    (Text.trimEndOf (fun x => !p x) ps).filter p = ps.filter p := by
  have h : ∀ l : List (List Char), (l.dropWhile fun x => !p x).filter p = l.filter p := by
    intro l
    induction l with
    | nil => rfl
    | cons x l ih => cases hx : p x <;> simp [hx, ih]
  rw [Text.trimEndOf, List.filter_reverse, h, List.filter_reverse, List.reverse_reverse]

theorem filter_trimPieces (ps : List (List Char)) :
    (trimPieces ps).filter isSegment = ps.filter isSegment := by
  cases ps with
  | nil => rfl
  | cons p ps => simp only [trimPieces, List.filter_cons, filter_trimEndOf]

theorem isPrefix_trimPieces (ps : List (List Char)) : trimPieces ps <+: ps := by
  cases ps with
  | nil => exact List.prefix_rfl
  | cons p ps => exact (List.prefix_cons_inj p).mpr (List.rdropWhile_prefix _ _)

/-- What is left of at least two pieces ends in one that names a place. -/
theorem isSegment_of_trimPieces_eq {ps init : List (List Char)} {last : List Char}
    (h : trimPieces ps = init ++ [last]) (hinit : init ≠ []) : isSegment last = true := by
  obtain ⟨p, init, rfl⟩ := List.exists_cons_of_ne_nil hinit
  cases ps with
  | nil => simp [trimPieces] at h
  | cons q ps =>
      have htail : ps.rdropWhile (fun x => !isSegment x) = init ++ [last] := (List.cons.inj h).2
      have hne : ps.rdropWhile (fun x => !isSegment x) ≠ [] := by simp [htail]
      have hlast := List.rdropWhile_last_not _ _ hne
      simpa [htail] using hlast

theorem trimPieces_ne_nil {ps : List (List Char)} (h : ps ≠ []) : trimPieces ps ≠ [] := by
  obtain ⟨p, ps, rfl⟩ := List.exists_cons_of_ne_nil h
  simp [trimPieces]

theorem isPrefix_of_trimPieces_eq {ps init : List (List Char)} {last : List Char}
    (h : trimPieces ps = init ++ [last]) : trimPieces init <+: ps :=
  ((isPrefix_trimPieces init).trans (List.prefix_append init [last])).trans
    (h ▸ isPrefix_trimPieces ps)

/-- Reading pieces that were written as a path. Only the root is written with a piece more. -/
theorem pieces_ofPieces {absolute : Bool} {ps : List (List Char)} (hne : ps ≠ [])
    (hslash : ∀ p ∈ ps, '/' ∉ p) (hroot : ¬ (absolute = true ∧ ps = [[]])) :
    pieces (ofPieces absolute ps) = ps := by
  rw [ofPieces, if_neg hroot, pieces, String.toList_ofList, List.splitOn_intercalate '/' hslash hne]

theorem steps_ofPieces {absolute : Bool} {ps : List (List Char)} (hne : ps ≠ [])
    (hslash : ∀ p ∈ ps, '/' ∉ p) :
    steps (ofPieces absolute ps) = (ps.filter isSegment).map String.ofList := by
  by_cases hroot : absolute = true ∧ ps = [[]]
  · rw [ofPieces, if_pos hroot, hroot.2]
    simp [steps, pieces, isSegment, List.splitOn_cons_eq_if_modifyHead]
  · rw [steps, pieces_ofPieces hne hslash hroot]

theorem isAbsolute_ofPieces {path : String} {ps : List (List Char)} (hne : ps ≠ [])
    (hpre : ps <+: pieces path) (hlen : 2 ≤ (pieces path).length) :
    isAbsolute (ofPieces (isAbsolute path) ps) = isAbsolute path := by
  have hslash : ∀ p ∈ ps, '/' ∉ p := fun p hp => slash_not_mem_of_mem_pieces p (hpre.subset hp)
  obtain ⟨p, ps, rfl⟩ := List.exists_cons_of_ne_nil hne
  obtain ⟨rest, hrest⟩ := hpre
  cases habs : isAbsolute path with
  | true =>
      obtain ⟨_, _, hpath⟩ := isAbsolute_iff.mp habs
      obtain rfl : p = [] := (List.cons.inj (hrest.trans hpath)).1
      cases ps with
      -- a lone empty piece is what the root is written with
      | nil => simp [ofPieces, isAbsolute]
      | cons q qs => exact isAbsolute_iff.mpr ⟨q, qs, pieces_ofPieces hne hslash (by simp)⟩
  | false =>
      by_contra hc
      obtain ⟨q, qs, hqs⟩ := isAbsolute_iff.mp (by simpa using hc)
      -- then it would begin with an empty piece and have another one behind it, as `path` does not
      rw [pieces_ofPieces hne hslash (by simp)] at hqs
      obtain rfl : p = [] := (List.cons.inj hqs).1
      rw [← hrest, List.cons_append, List.length_cons] at hlen
      obtain ⟨r, rs, hr⟩ := List.exists_cons_of_length_pos (by omega : 0 < (ps ++ rest).length)
      have : isAbsolute path = true := isAbsolute_iff.mpr ⟨r, rs, by rw [← hrest, ← hr]; rfl⟩
      rw [habs] at this
      cases this

/-- A path with a parent has one piece left, or a parent made of all but the last. -/
theorem parent?_eq_some {path q : String} (h : parent? path = some q) :
    (∃ first, trimPieces (pieces path) = [first] ∧ isAbsolute path = false ∧ q = "") ∨
      ∃ init last, trimPieces (pieces path) = init ++ [last] ∧ init ≠ [] ∧
        q = ofPieces (isAbsolute path) (trimPieces init) := by
  unfold parent? at h
  dsimp only at h
  split at h
  · cases h
  · next first hp =>
      split at h
      · cases h
      · next hc =>
          have habs : isAbsolute path = false := by simpa using fun e => hc (Or.inl e)
          exact Or.inl ⟨first, hp, habs, by simpa using h.symm⟩
  · next h0 h1 =>
      right
      cases hp : trimPieces (pieces path) using List.reverseRecOn with
      | nil => exact absurd hp h0
      | append_singleton init last _ =>
          refine ⟨init, last, rfl, ?_, ?_⟩
          · rintro rfl
            exact h1 last hp
          · simpa [hp] using h.symm

/-- Only a path without steps has no parent. -/
theorem steps_of_parent?_eq_none {path : String} (h : parent? path = none) : steps path = [] := by
  have hsteps : steps path = ((trimPieces (pieces path)).filter isSegment).map String.ofList := by
    rw [filter_trimPieces, steps]
  unfold parent? at h
  dsimp only at h
  split at h
  · next hp => simp [hsteps, hp]
  · next first hp =>
      split at h
      · next hc =>
          -- the one piece left names no place: it is the empty one before the slash of the
          -- root, or all of a path without segments
          have hfirst : first = [] := by
            rcases hc with habs | he
            · obtain ⟨p, ps, hps⟩ := isAbsolute_iff.mp habs
              rw [hps] at hp
              exact (List.cons.inj hp).1.symm
            · exact he
          simp [hsteps, hp, hfirst, isSegment]
      · cases h
  · cases h

/-- The parent of a path goes all its steps but the last. -/
theorem steps_parent? {path q : String} (h : parent? path = some q) :
    steps q = (steps path).dropLast := by
  have hsteps : steps path = ((trimPieces (pieces path)).filter isSegment).map String.ofList := by
    rw [filter_trimPieces, steps]
  -- the pieces trimmed off name no place, so that the last one left is the last step
  rcases parent?_eq_some h with ⟨first, hp, -, rfl⟩ | ⟨init, last, hp, hinit, rfl⟩
  · rw [hsteps, hp]
    by_cases hs : isSegment first <;> simp [hs]
  · have hpre : trimPieces init <+: pieces path := isPrefix_of_trimPieces_eq hp
    rw [steps_ofPieces (trimPieces_ne_nil hinit)
      fun p hp => slash_not_mem_of_mem_pieces p (hpre.subset hp), hsteps, hp, filter_trimPieces]
    simp [isSegment_of_trimPieces_eq hp hinit]

theorem isAbsolute_parent? {path q : String} (h : parent? path = some q) :
    isAbsolute q = isAbsolute path := by
  rcases parent?_eq_some h with ⟨first, -, habs, rfl⟩ | ⟨init, last, hp, hinit, rfl⟩
  · rw [habs]
    rfl
  · have hlen : 2 ≤ (pieces path).length := by
      have hle := (isPrefix_trimPieces (pieces path)).length_le
      have hpos := List.length_pos_of_ne_nil hinit
      rw [hp, List.length_append, List.length_singleton] at hle
      omega
    exact isAbsolute_ofPieces (trimPieces_ne_nil hinit) (isPrefix_of_trimPieces_eq hp) hlen

/-! ### Ancestors

The paths upwards from a path are listed with a bound on their number. Each has one step
less than the one before, so a bound on the steps is enough to come to the top. -/

theorem self_mem_upFrom (n : Nat) (path : String) : path ∈ upFrom n path := by
  cases n with
  | zero => simp [upFrom]
  | succ n =>
      unfold upFrom
      split <;> simp

theorem steps_isPrefix_of_mem_upFrom {n : Nat} {path p : String} (hp : p ∈ upFrom n path) :
    steps p <+: steps path ∧ isAbsolute p = isAbsolute path := by
  induction n generalizing path with
  | zero =>
      obtain rfl : p = path := by simpa [upFrom] using hp
      exact ⟨List.prefix_rfl, rfl⟩
  | succ n ih =>
      unfold upFrom at hp
      split at hp
      · obtain rfl : p = path := by simpa using hp
        exact ⟨List.prefix_rfl, rfl⟩
      · next q hq =>
          rcases List.mem_cons.mp hp with rfl | hp
          · exact ⟨List.prefix_rfl, rfl⟩
          · obtain ⟨hs, ha⟩ := ih hp
            rw [steps_parent? hq] at hs
            exact ⟨hs.trans (List.dropLast_prefix _), ha.trans (isAbsolute_parent? hq)⟩

theorem exists_mem_upFrom {n : Nat} {path : String} {pre : List String}
    (hn : (steps path).length ≤ n) (hpre : pre <+: steps path) :
    ∃ p ∈ upFrom n path, steps p = pre := by
  -- the bound is one on the steps, of which each parent has one less
  induction n generalizing path with
  | zero =>
      have hnil : steps path = [] := List.eq_nil_of_length_eq_zero (Nat.le_zero.mp hn)
      rw [hnil] at hpre
      exact ⟨path, self_mem_upFrom 0 path, hnil.trans (List.prefix_nil.mp hpre).symm⟩
  | succ n ih =>
      by_cases hself : pre = steps path
      · exact ⟨path, self_mem_upFrom (n + 1) path, hself.symm⟩
      · unfold upFrom
        split
        · next hq =>
            rw [steps_of_parent?_eq_none hq] at hpre hself
            exact absurd (List.prefix_nil.mp hpre) hself
        -- a shorter part of the steps is one of the steps of the parent
        · next q hq =>
            have hlt : pre.length < (steps path).length :=
              lt_of_le_of_ne hpre.length_le fun e => hself (hpre.eq_of_length e)
            have hq' : steps q = (steps path).dropLast := steps_parent? hq
            have hlen : (steps q).length ≤ n := by
              rw [hq', List.length_dropLast]
              omega
            have hpre' : pre <+: steps q := by
              rw [hq']
              apply List.prefix_of_prefix_length_le hpre (List.dropLast_prefix _)
              rw [List.length_dropLast]
              omega
            obtain ⟨p, hp, hsteps⟩ := ih hlen hpre'
            exact ⟨p, List.mem_cons_of_mem path hp, hsteps⟩

theorem self_mem_ancestors (path : String) : path ∈ ancestors path :=
  self_mem_upFrom _ path

/-- An ancestor of a path goes a first part of its steps, from the same place. -/
theorem steps_isPrefix_of_mem_ancestors {path p : String} (hp : p ∈ ancestors path) :
    steps p <+: steps path ∧ isAbsolute p = isAbsolute path :=
  steps_isPrefix_of_mem_upFrom hp

/-- Each first part of the steps of a path leads to an ancestor. -/
theorem exists_mem_ancestors {path : String} {pre : List String} (hpre : pre <+: steps path) :
    ∃ p ∈ ancestors path, steps p = pre := by
  apply exists_mem_upFrom _ hpre
  rw [steps, List.length_map]
  exact List.length_filter_le isSegment (pieces path)

/-- The paths above a path, from its parent upwards. -/
def above (path : String) : List String :=
  match parent? path with
  | none => []
  | some q => ancestors q

/-- A path above another one goes fewer steps, from the same place. -/
theorem steps_isPrefix_of_mem_above {path p : String} (hp : p ∈ above path) :
    steps p <+: (steps path).dropLast ∧ isAbsolute p = isAbsolute path := by
  unfold above at hp
  split at hp
  · cases hp
  · next q hq =>
      obtain ⟨hs, ha⟩ := steps_isPrefix_of_mem_ancestors hp
      rw [steps_parent? hq] at hs
      exact ⟨hs, ha.trans (isAbsolute_parent? hq)⟩

/-! ### Paths with nothing behind their last name

Two paths that go the same steps may be written in different ways. What a parent is written
with is a first part of the text of the path, and nothing stands behind its last segment;
that is what the texts of paths are compared by. -/

/-- Whether there is nothing behind the last segment of a path: no slash and no `.`. -/
def IsTrimmed (path : String) : Prop := trimPieces (pieces path) = pieces path

instance (path : String) : Decidable (IsTrimmed path) :=
  inferInstanceAs (Decidable (trimPieces (pieces path) = pieces path))

theorem trimPieces_trimPieces (ps : List (List Char)) :
    trimPieces (trimPieces ps) = trimPieces ps := by
  cases ps with
  | nil => rfl
  | cons p ps => exact congrArg (p :: ·) (List.rdropWhile_idempotent _ _)

/-- What is trimmed off names no place. -/
theorem exists_trimPieces_append (ps : List (List Char)) :
    ∃ tail, trimPieces ps ++ tail = ps ∧ ∀ p ∈ tail, isSegment p = false := by
  cases ps with
  | nil => exact ⟨[], rfl, nofun⟩
  | cons p ps =>
      refine ⟨ps.rtakeWhile fun x => !isSegment x, ?_, fun q hq => ?_⟩
      · exact congrArg (p :: ·) List.rdropWhile_append_rtakeWhile
      · simpa using List.mem_rtakeWhile_imp hq

theorem parent?_empty : parent? "" = none := by decide

theorem parent?_root : parent? "/" = none := by decide

theorem pieces_ne_nil (path : String) : pieces path ≠ [] := List.splitOn_ne_nil '/' _

/-- The parent of a path, unless it has none itself, is written with fewer of the same pieces and
nothing behind them. -/
theorem pieces_parent? {path q p : String} (h : parent? path = some q)
    (hq : parent? q = some p) :
    IsTrimmed q ∧ pieces q <+: pieces path ∧ (pieces q).length < (pieces path).length := by
  have hne : q ≠ "" ∧ q ≠ "/" := by
    constructor
    · rintro rfl
      rw [parent?_empty] at hq
      cases hq
    · rintro rfl
      rw [parent?_root] at hq
      cases hq
  rcases parent?_eq_some h with ⟨first, -, -, rfl⟩ | ⟨init, last, hp, hinit, rfl⟩
  · exact absurd rfl hne.1
  · have hpre : trimPieces init <+: pieces path := isPrefix_of_trimPieces_eq hp
    -- the root has no parent, so `q` is not the root
    have hroot : ¬ (isAbsolute path = true ∧ trimPieces init = [[]]) := fun hroot =>
      hne.2 (if_pos hroot)
    have hlt : (trimPieces init).length < (pieces path).length := by
      have hle := (isPrefix_trimPieces (pieces path)).length_le
      have hle' := (isPrefix_trimPieces init).length_le
      rw [hp, List.length_append, List.length_singleton] at hle
      omega
    rw [IsTrimmed, pieces_ofPieces (trimPieces_ne_nil hinit)
      (fun p hp => slash_not_mem_of_mem_pieces p (hpre.subset hp)) hroot]
    exact ⟨trimPieces_trimPieces init, hpre, hlt⟩

/-- Joining pieces by slashes joins the two parts of them so. -/
theorem intercalate_append {ps qs : List (List Char)} (hp : ps ≠ []) (hq : qs ≠ []) :
    ['/'].intercalate (ps ++ qs) = ['/'].intercalate ps ++ '/' :: ['/'].intercalate qs := by
  induction ps with
  | nil => exact absurd rfl hp
  | cons p ps ih =>
      cases ps with
      | nil =>
          obtain ⟨q, qs, rfl⟩ := List.exists_cons_of_ne_nil hq
          rw [List.cons_append, List.nil_append, List.intercalate_cons_cons]
          simp [List.intercalate]
      | cons p' ps =>
          rw [List.cons_append, List.cons_append, List.intercalate_cons_cons,
            List.intercalate_cons_cons, ← List.cons_append, ih (List.cons_ne_nil _ _)]
          simp

theorem intercalate_pieces (path : String) : ['/'].intercalate (pieces path) = path.toList :=
  List.intercalate_splitOn '/'

/-- A path is written with the text of its first pieces in front. -/
theorem toList_isPrefix {path q : String} (h : pieces q <+: pieces path) :
    q.toList <+: path.toList := by
  obtain ⟨rest, hrest⟩ := h
  rw [← intercalate_pieces path, ← intercalate_pieces q, ← hrest]
  cases rest with
  | nil => simp
  | cons r rest =>
      rw [intercalate_append (pieces_ne_nil q) (List.cons_ne_nil r rest)]
      exact List.prefix_append _ _

/-- A path ends in a slash or in a `.` piece, or there is nothing behind its last segment. -/
theorem isTrimmed_of_getLast? {path : String} (hslash : path.toList.getLast? ≠ some '/')
    (hdot : ∀ init, init ≠ [] → pieces path ≠ init ++ [['.']]) : IsTrimmed path := by
  unfold IsTrimmed
  cases hps : pieces path with
  | nil => rfl
  | cons p ps =>
      refine congrArg (p :: ·) (List.rdropWhile_eq_self_iff.mpr fun hne hlast => ?_)
      have hsplit : pieces path = (p :: ps.dropLast) ++ [ps.getLast hne] := by
        rw [hps, List.cons_append, List.dropLast_append_getLast]
      have hseg : ps.getLast hne = [] ∨ ps.getLast hne = ['.'] := by
        simpa [isSegment, Decidable.or_iff_not_imp_left] using hlast
      -- an empty piece at the end is a slash there
      rcases hseg with hnil | hd
      · apply hslash
        rw [← intercalate_pieces path, hsplit, hnil,
          intercalate_append (List.cons_ne_nil _ _) (List.cons_ne_nil _ _)]
        simp [List.intercalate]
      · exact hdot _ (List.cons_ne_nil _ _) (hd ▸ hsplit)

/-- Nothing is behind the last segment of a path, so it does not end in a slash. -/
theorem IsTrimmed.getLast?_ne {path : String} (h : IsTrimmed path) :
    path.toList.getLast? ≠ some '/' := by
  intro hslash
  obtain ⟨cs, hcs⟩ : ∃ cs, path.toList = cs ++ ['/'] := List.getLast?_eq_some_iff.mp hslash
  have hpath : path = String.ofList cs ++ "/" ++ "" := by
    apply String.toList_inj.mp
    simp [hcs]
  have hpieces : pieces path = pieces (String.ofList cs) ++ [[]] := by
    rw [hpath, pieces_append_slash]
    rfl
  have hseg := isSegment_of_trimPieces_eq (h.trans hpieces) (List.splitOn_ne_nil '/' _)
  simp [isSegment] at hseg

end MailMerge.Path
