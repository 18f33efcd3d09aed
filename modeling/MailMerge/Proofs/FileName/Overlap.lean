import MailMerge.Proofs.Pieces

/-!
# File names from names that start with one another

Where one variable has a name that starts with the name of another, the longer name is listed first.
Then a reference to it is replaced before the shorter name could be found in it. No longer name is
found in a reference to a shorter one either, if what stands behind each reference is in no name
(`Delimited`). So every reference is replaced by the value of the name that is written there
(`resolve_of_longer_first`).
-/

namespace MailMerge.Piece

/-- Whether a text goes on with a character that no name has, or not at all. -/
def Stops (names : List String) : List Piece → Prop
  | [] => True
  | text s :: rest =>
    match s.toList with
    | [] => Stops names rest
    | c :: _ => ∀ v ∈ names, c ∉ v.toList
  | reference _ :: _ => False

/-- Whether behind each reference the text goes on with a character that no name has, or not at
all. -/
def Delimited (names : List String) : List Piece → Prop
  | [] => True
  | text _ :: rest => Delimited names rest
  | reference _ :: rest => Stops names rest ∧ Delimited names rest

/-- Whether no name starts with one that is listed before it. -/
def LongerFirst (names : List String) : Prop :=
  names.Pairwise fun v w => v.toList <+: w.toList → v = w

variable {v value : String} {names : List String} {pieces : List Piece}

theorem Stops.not_mem (h : Stops names pieces) :
    ∀ c ∈ (pieces.flatMap chars).head?, ∀ v ∈ names, c ∉ v.toList := by
  induction pieces with
  | nil => simp
  | cons x rest ih =>
      cases x with
      | reference w => exact h.elim
      | text s =>
          rw [List.flatMap_cons, chars]
          rw [Stops] at h
          cases hs : s.toList with
          | nil =>
              -- an empty text shows nothing, so the next piece decides
              rw [hs] at h
              exact ih h
          | cons c cs =>
              rw [hs] at h
              rintro d ⟨⟩
              exact h

/-- What is put in does not change where literal text stands. -/
theorem Stops.map_put (h : Stops names pieces) (v value : String) :
    Stops names (pieces.map (put v value)) := by
  induction pieces with
  | nil => exact h
  | cons x rest ih =>
      cases x with
      | reference w => exact h.elim
      | text s =>
          rw [List.map_cons, put, Stops]
          rw [Stops] at h
          cases hs : s.toList with
          | nil =>
              rw [hs] at h
              exact ih h
          | cons c cs =>
              rw [hs] at h
              exact h

theorem Delimited.map_put (h : Delimited names pieces) (v value : String) :
    Delimited names (pieces.map (put v value)) := by
  induction pieces with
  | nil => exact h
  | cons x rest ih =>
      cases x with
      | text s => exact ih h
      | reference w =>
          rw [List.map_cons, put]
          split
          -- the reference is text now, which asks for nothing behind it
          · exact ih h.2
          · exact ⟨h.1.map_put v value, ih h.2⟩

theorem Delimited.stops {w : String} {back : List Piece} (h : Delimited names pieces)
    (hback : reference w :: back <:+ pieces) : Stops names back := by
  induction pieces with
  | nil => cases List.suffix_nil.mp hback
  | cons x rest ih =>
      rcases List.suffix_cons_iff.mp hback with heq | hrest
      · obtain ⟨rfl, rfl⟩ := List.cons.inj heq
        exact h.1
      · cases x with
        | text s => exact ih h hrest
        | reference _ => exact ih h.2 hrest

/-- The first name of a list begins no reference to another name of it. -/
theorem unmistakable_of_delimited {all : List String} (hall : v ∈ all)
    (hpieces : ∀ x ∈ pieces, x.Refers (v :: names)) (hfirst : LongerFirst (v :: names))
    (h : Delimited all pieces) : Unmistakable v pieces := by
  intro w back hback hv
  have hw : w ∈ v :: names := hpieces _ (hback.subset List.mem_cons_self)
  rcases List.prefix_or_prefix_of_prefix hv (List.prefix_append _ _) with hlong | hshort
  · -- `v` is no proper start of a name listed behind it
    rcases List.mem_cons.mp hw with rfl | hlater
    · rfl
    · exact ((List.pairwise_cons.mp hfirst).1 w hlater hlong).symm
  · -- if `v` were longer than `w`, it would have the character behind the reference
    obtain ⟨tail, htail⟩ := hshort
    rw [← htail, List.prefix_append_right_inj] at hv
    cases tail with
    | nil => exact String.toList_inj.mp (by simpa using htail)
    -- the character of `v` behind `w` stands behind the reference, and no name has it
    | cons c cs =>
        obtain ⟨rest, hrest⟩ := hv
        have hmem : c ∈ v.toList := htail ▸ List.mem_append_right _ List.mem_cons_self
        exact absurd hmem ((h.stops hback).not_mem c (by rw [← hrest]; rfl) v hall)

/-- **Longer names first.** If names and values have no `@`, no name starts with a name listed before
it, and behind each reference the pattern ends or goes on with a character of no name, then each
reference is replaced by the value of its own name and the literal pieces stay as they are. -/
theorem resolve_of_longer_first {r : Record} (hnames : ∀ v ∈ names, '@' ∉ v.toList)
    (hfirst : LongerFirst names)
    (hvalues : ∀ v ∈ names, ∃ value, r.get? v = some value ∧ '@' ∉ value.toList)
    (hpieces : ∀ x ∈ pieces, x.Refers names) (hdelimited : Delimited names pieces) :
    FileName.resolve (write pieces) names r = fill r pieces := by
  refine resolve_write_of_clear
    -- what stays true from name to name: the names left are some of all names, still longer
    -- first, and the pieces are delimited for all of them
    (fun later pieces => (∀ v ∈ later, v ∈ names) ∧ LongerFirst later ∧ Delimited names pieces)
    (fun v later pieces hpieces h => ?_) (fun v later pieces value h => ?_)
    hnames hvalues hpieces ⟨fun _ hv => hv, hfirst, hdelimited⟩
  · obtain ⟨hsub, hfirst, hdelimited⟩ := h
    exact unmistakable_of_delimited (hsub v List.mem_cons_self) hpieces hfirst hdelimited
  · obtain ⟨hsub, hfirst, hdelimited⟩ := h
    exact ⟨fun w hw => hsub w (List.mem_cons_of_mem v hw), hfirst.of_cons,
      hdelimited.map_put v value⟩

/-- A chain of three names, the longest one given twice, whose values look like more of the names. -/
theorem resolve_of_longer_first_of_chain :
    let r := Record.ofList [("abc", "1"), ("ab", "c"), ("a", "bc")]
    FileName.resolve "@a-@ab/@abc.txt" ["abc", "abc", "ab", "a"] r = "bc-c/1.txt" := by
  intro r
  let pieces : List Piece :=
    [.reference "a", .text "-", .reference "ab", .text "/", .reference "abc", .text ".txt"]
  have hwrite : write pieces = "@a-@ab/@abc.txt" := by decide
  have hfill : fill r pieces = "bc-c/1.txt" := by decide
  have hvalues : ∀ v ∈ ["abc", "abc", "ab", "a"],
      ∃ value, r.get? v = some value ∧ '@' ∉ value.toList := by
    simp only [List.forall_mem_cons]
    exact ⟨⟨"1", by decide, by decide⟩, ⟨"1", by decide, by decide⟩, ⟨"c", by decide, by decide⟩,
      ⟨"bc", by decide, by decide⟩, nofun⟩
  have hdelimited : Delimited ["abc", "abc", "ab", "a"] pieces := by
    simp [pieces, Delimited, Stops]
  rw [← hwrite, ← hfill]
  exact resolve_of_longer_first (by decide) (by unfold LongerFirst; decide) hvalues (by decide)
    hdelimited

end MailMerge.Piece
