import MailMerge.Proofs.Config.Parsed
import MailMerge.Proofs.Text.Cut
import Mathlib.Data.List.Infix

/-!
# Names between commas

A list of variables is cut at its commas into segments, and what a segment is without the white
space around it is a name. So a list is refused if a segment is nothing but white space
(`exists_parse_iff`), and any names (`IsName`) are read back from between commas with any white
space around them (`parse_of_padded`), as from the line that shows them when a run starts.
-/

namespace MailMerge

/-! ### White space

White space is decided by a short test in the reader and by a table in the database of
properties. The ranges of the table are computed once, and then both are the same comparison
of numbers. -/

theorem Unicode.ranges_space : Unicode.space.ranges = [⟨0x9, 0xd⟩, ⟨0x20, 0x20⟩, ⟨0x85, 0x85⟩,
    ⟨0xa0, 0xa0⟩, ⟨0x1680, 0x1680⟩, ⟨0x2000, 0x200a⟩, ⟨0x2028, 0x2029⟩, ⟨0x202f, 0x202f⟩,
    ⟨0x205f, 0x205f⟩, ⟨0x3000, 0x3000⟩] := by
  decide +kernel

/-- The characters that are trimmed away are those of the property in the tables. -/
theorem Text.isWhite_eq_contains_space (c : Char) : isWhite c = Unicode.space.contains c := by
  rw [Bool.eq_iff_iff, CharSet.contains, CharSet.has, Unicode.ranges_space]
  simp only [isWhite, List.any_cons, List.any_nil, CharRange.has, Bool.or_eq_true,
    Bool.and_eq_true, beq_iff_eq, decide_eq_true_eq, Bool.or_false, Char.le_def,
    UInt32.le_iff_toNat_le, ← Char.toNat_inj, Char.toNat, Char.reduceVal, UInt32.reduceToNat]
  omega

namespace Variables

variable {list v padded : String} {names : List String}

/-! ### Names

What can be a name is what trimming and cutting leave alone: it holds no comma, does not
begin or end with white space, and is not empty. Such a name is the same with any white
space around it. -/

/-- Whether a text can be the name of a variable. -/
structure IsName (v : String) : Prop where
  ne_empty : v ≠ ""
  comma : ',' ∉ v.toList
  head : ∀ c ∈ v.toList.head?, Text.isWhite c = false
  last : ∀ c ∈ v.toList.getLast?, Text.isWhite c = false

/-- A name is found again in white space. -/
theorem IsName.trim_eq (h : IsName v) (hpadded : Text.Padded v padded) : Text.trim padded = v := by
  obtain ⟨front, back, hfront, hback, hchars⟩ := hpadded
  rw [Text.trim, hchars, Text.trimChars_append hfront hback, Text.trimChars_eq_self h.head h.last,
    String.ofList_toList]

/-- White space around a name brings in no comma. -/
theorem IsName.comma_of_padded (h : IsName v) (hpadded : Text.Padded v padded) :
    ',' ∉ padded.toList := by
  obtain ⟨front, back, hfront, hback, hchars⟩ := hpadded
  have hwhite : Text.isWhite ',' = false := by decide
  rw [hchars, List.mem_append, List.mem_append, not_or, not_or]
  exact ⟨⟨Text.not_mem_of_white hwhite hfront, h.comma⟩, Text.not_mem_of_white hwhite hback⟩

/-! ### Segments

The comma is a mark of one character, so the general facts on cutting apply, and the
segments are the one way to cut the list. -/

/-- What stands between the commas of a list. -/
def segments (list : String) : List String := (list.toList.splitOn ',').map String.ofList

theorem isMark_comma : Text.IsMark "," := ⟨',', [], rfl, nofun⟩

theorem comma_infix_iff {s : String} : ",".toList <:+: s.toList ↔ ',' ∈ s.toList :=
  List.singleton_infix_iff ',' s.toList

theorem cut_segments (list : String) : Text.Cut "," list (segments list) where
  ne_nil := by
    rw [segments, Ne, List.map_eq_nil_iff]
    exact List.splitOn_ne_nil ',' _
  free := by
    intro s hs
    obtain ⟨p, hp, rfl⟩ := List.mem_map.mp hs
    rw [comma_infix_iff, String.toList_ofList]
    exact Text.not_mem_of_mem_splitOn p hp
  joined := by
    -- the segments are the pieces of the text as a list of characters
    have hchars : (segments list).map String.toList = list.toList.splitOn ',' := by
      rw [segments, List.map_map]
      exact List.map_id'' (fun _ => String.toList_ofList) _
    apply String.toList_inj.mp
    rw [String.toList_intercalate, hchars]
    exact List.intercalate_splitOn ','

theorem cut_comma_iff {pieces : List String} :
    Text.Cut "," list pieces ↔ pieces = segments list := by
  constructor
  · intro h
    exact h.unique isMark_comma (cut_segments list)
  · rintro rfl
    exact cut_segments list

theorem split_eq_map_trim (list : String) : split list = (segments list).map Text.trim := by
  rw [split, segments, List.map_map]
  refine List.map_congr_left fun p _ => ?_
  rw [Function.comp_apply, Text.trim, String.toList_ofList]

theorem mem_split_empty_iff :
    "" ∈ split list ↔ ∃ s ∈ segments list, ∀ c ∈ s.toList, Text.isWhite c = true := by
  rw [split_eq_map_trim, List.mem_map]
  simp only [Text.trim_eq_empty_iff]

/-! ### Reading

The list is refused as a whole if one segment is blank, and this is the only reason to
refuse it. Otherwise each segment gives one name. -/

theorem exists_parse_iff : (∃ names, parse list = .ok names) ↔
    ∀ s ∈ segments list, ∃ c ∈ s.toList, Text.isWhite c = false := by
  -- a name is empty exactly if its segment has only white space
  have hempty : "" ∉ split list ↔
      ∀ s ∈ segments list, ∃ c ∈ s.toList, Text.isWhite c = false := by
    rw [mem_split_empty_iff]
    push Not
    simp only [ne_eq, Bool.not_eq_true]
  rw [← hempty]
  constructor
  · rintro ⟨names, h⟩
    exact (parse_eq_ok_iff.mp h).1
  · intro h
    exact ⟨split list, parse_eq_ok_iff.mpr ⟨h, rfl⟩⟩

theorem eq_emptyName_of_parse {fault : ConfigFault} (h : parse list = .error fault) :
    fault = .emptyName list := by
  rw [parse_eq] at h
  split at h
  · exact (Except.error.inj h).symm
  · cases h

theorem eq_map_trim_of_parse (h : parse list = .ok names) :
    names = (segments list).map Text.trim := by
  rw [← split_eq_map_trim]
  exact (parse_eq_ok_iff.mp h).2

theorem isName_of_parse (h : parse list = .ok names) (hv : v ∈ names) : IsName v := by
  obtain ⟨hempty, rfl⟩ := parse_eq_ok_iff.mp h
  obtain ⟨hcomma, hhead, hlast⟩ := of_mem_split hv
  exact ⟨fun hv' => hempty (hv' ▸ hv), hcomma, hhead, hlast⟩

theorem length_of_parse (h : parse list = .ok names) :
    names.length = list.toList.count ',' + 1 := by
  rw [eq_map_trim_of_parse h, segments, List.length_map, List.length_map, Text.length_splitOn]

/-- The names are shown when a run starts. -/
theorem mem_summary_names (c : Config) :
    ⟨.info, .config, "Template vars        : " ++ ",".intercalate c.names⟩ ∈ c.summary := by
  simp [Config.summary]

/-- Names with white space around them hold no comma and are trimmed to the names. -/
theorem trim_of_padded {pieces : List String} (hnames : ∀ v ∈ names, IsName v)
    (h : List.Forall₂ Text.Padded names pieces) :
    (∀ s ∈ pieces, ',' ∉ s.toList) ∧ pieces.map Text.trim = names := by
  induction h with
  | nil => exact ⟨nofun, rfl⟩
  | cons hpadded _ ih =>
      obtain ⟨hname, hnames⟩ := List.forall_mem_cons.mp hnames
      obtain ⟨hcomma, htrim⟩ := ih hnames
      constructor
      · exact List.forall_mem_cons.mpr ⟨hname.comma_of_padded hpadded, hcomma⟩
      · rw [List.map_cons, hname.trim_eq hpadded, htrim]

/-- Names are read back from between commas, whatever white space is around them. -/
theorem parse_of_padded {pieces : List String} (hne : names ≠ []) (hnames : ∀ v ∈ names, IsName v)
    (h : List.Forall₂ Text.Padded names pieces) :
    parse (",".intercalate pieces) = .ok names := by
  obtain ⟨hcomma, htrim⟩ := trim_of_padded hnames h
  -- no names would come from no pieces
  have hpieces : pieces ≠ [] := by
    rintro rfl
    exact hne htrim.symm
  -- padded names hold no comma, so they are the segments of what they are joined to
  have hcut : Text.Cut "," (",".intercalate pieces) pieces :=
    ⟨hpieces, fun s hs => comma_infix_iff.not.mpr (hcomma s hs), rfl⟩
  have hsplit : split (",".intercalate pieces) = names := by
    rw [split_eq_map_trim, ← cut_comma_iff.mp hcut, htrim]
  rw [parse_eq_ok_iff, hsplit]
  exact ⟨fun hempty => (hnames "" hempty).ne_empty rfl, rfl⟩

/-- **A list of variables is read segment by segment, and names are read back however they were
written.** The segments are the only pieces that the list can be cut into at its commas. -/
theorem parse_segments :
    (∀ c, Text.isWhite c = Unicode.space.contains c) ∧
    (∀ list,
      (∀ pieces, Text.Cut "," list pieces ↔ pieces = segments list) ∧
      ((∃ names, parse list = .ok names) ↔
        ∀ s ∈ segments list, ∃ c ∈ s.toList, Text.isWhite c = false) ∧
      (∀ fault, parse list = .error fault → fault = .emptyName list ∧
        (Error.config fault).message = "Configuration error: " ++
          ("template variables '" ++ list ++ "' contain an empty name") ++ ".") ∧
      ∀ names, parse list = .ok names →
        names = (segments list).map Text.trim ∧ List.Forall₂ Text.Padded names (segments list) ∧
        names.length = list.toList.count ',' + 1 ∧ (∀ v ∈ names, IsName v) ∧
        parse (",".intercalate names) = .ok names ∧
        ∀ c : Config, c.names = names →
          ⟨.info, .config, "Template vars        : " ++ ",".intercalate names⟩ ∈ c.summary) ∧
    ∀ names pieces, names ≠ [] → (∀ v ∈ names, IsName v) → List.Forall₂ Text.Padded names pieces →
      parse (",".intercalate pieces) = .ok names := by
  refine ⟨Text.isWhite_eq_contains_space, fun list => ⟨fun pieces => cut_comma_iff,
    exists_parse_iff, fun fault h => ?_, fun names h => ?_⟩, fun names pieces => parse_of_padded⟩
  -- what the list as a whole says of an error is fixed by the list
  · obtain rfl := eq_emptyName_of_parse h
    exact ⟨rfl, rfl⟩
  · have htrim := eq_map_trim_of_parse h
    have hnames : ∀ v ∈ names, IsName v := fun v => isName_of_parse h
    -- a list has at least one segment, and so at least one name
    have hne : names ≠ [] := by
      rw [htrim, Ne, List.map_eq_nil_iff]
      exact (cut_segments list).ne_nil
    refine ⟨htrim, ?_, length_of_parse h, hnames, ?_, ?_⟩
    · rw [htrim, List.forall₂_map_left_iff, List.forall₂_same]
      exact fun s _ => Text.padded_trim s
    · exact parse_of_padded hne hnames (List.forall₂_same.mpr fun v _ => Text.Padded.refl v)
    · rintro c rfl
      exact mem_summary_names c

/-- Names among blanks of other scripts, and a segment that is nothing but such a blank. -/
theorem parse_segments_of_wide_blanks :
    parse "\u3000serial ,\u00a0code" = .ok ["serial", "code"] ∧
      parse "serial,\u2003,code" = .error (.emptyName "serial,\u2003,code") := by
  obtain ⟨-, hlist, hnames⟩ := parse_segments
  constructor
  · refine hnames ["serial", "code"] ["\u3000serial ", "\u00a0code"] (by decide) ?_ ?_
    · rintro v (_ | ⟨_, _ | ⟨_, ⟨⟩⟩⟩)
      · exact ⟨by decide, by decide, by simp [Text.isWhite], by simp [Text.isWhite]⟩
      · exact ⟨by decide, by decide, by simp [Text.isWhite], by simp [Text.isWhite]⟩
    · refine .cons ⟨['\u3000'], [' '], ?_, ?_, by decide⟩
        (.cons ⟨['\u00a0'], [], ?_, nofun, by decide⟩ .nil)
      all_goals exact List.forall_mem_singleton.mpr (by decide)
  · obtain ⟨hcut, hread, hrefused, -⟩ := hlist "serial,\u2003,code"
    -- the second list is cut by hand, and the general statement says that these are its segments
    have hsegments : ["serial", "\u2003", "code"] = segments "serial,\u2003,code" :=
      (hcut _).mp ⟨by decide, by decide, by decide⟩
    rw [← hsegments] at hread
    cases h : parse "serial,\u2003,code" with
    | ok names =>
        obtain ⟨c, hc, hwhite⟩ := hread.mp ⟨names, h⟩ "\u2003" (by decide)
        obtain rfl := List.mem_singleton.mp hc
        exact absurd hwhite (by decide)
    | error fault => rw [(hrefused fault h).1]

end Variables
end MailMerge
