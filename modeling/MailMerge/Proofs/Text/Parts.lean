import MailMerge.Text.White
import Mathlib.Data.List.DropRight

/-!
# Parts of texts

The pieces of a parted text do not hold what parts them (`not_mem_of_mem_splitOn`). Trimming takes
away what it may at an end and nothing else (`exists_trimChars`), and what is left has no white space
at its ends. White space around a text and line ends behind it do not change what is left of it
(`Padded`, `trimChars_append`, `dropLineEnds_append`).
-/

namespace MailMerge.Text

/-- No piece holds the character that parts the pieces. -/
theorem not_mem_of_mem_splitOn {c : Char} {cs : List Char} : ∀ p ∈ cs.splitOn c, c ∉ p := by
  induction cs with
  | nil => simp
  | cons d cs ih =>
      rw [List.splitOn_cons_eq_if_modifyHead]
      by_cases hd : d = c
      · simpa [hd] using ih
      · rw [if_neg (by simpa using hd)]
        -- the character goes to the first piece
        cases hs : cs.splitOn c with
        | nil => simp
        | cons p ps =>
            rw [hs] at ih
            simp only [List.modifyHead_cons, List.mem_cons, forall_eq_or_imp] at ih ⊢
            exact ⟨fun h => h.elim (fun e => hd e.symm) ih.1, ih.2⟩

theorem length_splitOn (c : Char) (cs : List Char) :
    (cs.splitOn c).length = cs.count c + 1 := by
  induction cs with
  | nil => rfl
  | cons d cs ih =>
      rw [List.splitOn_cons_eq_if_modifyHead, List.count_cons]
      split
      · rw [List.length_cons, ih]
      · rw [List.length_modifyHead, ih, Nat.add_zero]

/-! ### Dropping at the end

To drop characters at the end is to drop them at the start of the reversed text. Mathlib has
this as `rdropWhile`, whose lemmas serve here. -/

section TrimEnd

variable {α : Type} {p : α → Bool}

theorem trimEndOf_eq_rdropWhile (p : α → Bool) (xs : List α) :
    trimEndOf p xs = xs.rdropWhile p := rfl

theorem trimEndOf_isPrefix (p : α → Bool) (xs : List α) : trimEndOf p xs <+: xs :=
  List.rdropWhile_prefix p xs

/-- What may be dropped behind a list is dropped. -/
theorem trimEndOf_append {xs ys : List α} (h : ∀ y ∈ ys, p y = true) :
    trimEndOf p (xs ++ ys) = trimEndOf p xs := by
  induction ys using List.reverseRecOn with
  | nil => rw [List.append_nil]
  | append_singleton ys y ih =>
      rw [List.forall_mem_append, List.forall_mem_singleton] at h
      rw [← List.append_assoc, trimEndOf_eq_rdropWhile, List.rdropWhile_concat_pos _ _ _ h.2]
      exact ih h.1

theorem of_mem_getLast?_trimEndOf {xs : List α} {y : α} (h : y ∈ (trimEndOf p xs).getLast?) :
    p y = false := by
  have hne : trimEndOf p xs ≠ [] := by
    intro hnil
    rw [hnil] at h
    cases h
  rw [List.getLast?_eq_some_getLast hne] at h
  rw [← Option.some.inj h]
  exact Bool.eq_false_iff.mpr (List.rdropWhile_last_not p xs hne)

end TrimEnd

/-! ### White space

Trimming drops white space at the start and then at the end. What is dropped is white space,
and what is left begins and ends with another character or is nothing. -/

theorem trimChars_infix (cs : List Char) : trimChars cs <:+: cs :=
  (trimEndOf_isPrefix isWhite _).isInfix.trans (List.dropWhile_suffix isWhite).isInfix

/-- What is left does not start with white space. -/
theorem isWhite_head_trimChars {cs : List Char} {c : Char} (h : c ∈ (trimChars cs).head?) :
    isWhite c = false := by
  obtain ⟨rest, hrest⟩ := List.head?_eq_some_iff.mp h
  obtain ⟨back, hback⟩ := trimEndOf_isPrefix isWhite (cs.dropWhile isWhite)
  have hcs : cs.dropWhile isWhite = c :: (rest ++ back) := by
    rw [← hback]
    exact congrArg (· ++ back) hrest
  have hhead := List.head?_dropWhile_not isWhite cs
  rw [hcs] at hhead
  simpa using hhead

/-- What is left does not end with white space. -/
theorem isWhite_last_trimChars {cs : List Char} {c : Char} (h : c ∈ (trimChars cs).getLast?) :
    isWhite c = false :=
  of_mem_getLast?_trimEndOf h

/-- White space around a text is trimmed away with that of the text. -/
theorem trimChars_append {front back : List Char} (hfront : ∀ c ∈ front, isWhite c = true)
    (hback : ∀ c ∈ back, isWhite c = true) (cs : List Char) :
    trimChars (front ++ cs ++ back) = trimChars cs := by
  unfold trimChars
  rw [List.append_assoc, List.dropWhile_append_of_pos hfront, List.dropWhile_append]
  split
  · next hcs =>
      -- the text is white space, so that all of it is dropped before its end is looked at
      rw [List.isEmpty_iff.mp hcs, List.dropWhile_eq_nil_iff.mpr hback]
  · exact trimEndOf_append hback

/-- A text is what is left of it with white space around. -/
theorem exists_trimChars (cs : List Char) : ∃ front back : List Char,
    (∀ c ∈ front, isWhite c = true) ∧ (∀ c ∈ back, isWhite c = true) ∧
      cs = front ++ trimChars cs ++ back := by
  refine ⟨cs.takeWhile isWhite, (cs.dropWhile isWhite).rtakeWhile isWhite, fun c => ?_, fun c => ?_,
    ?_⟩
  · exact List.mem_takeWhile_imp
  · exact List.mem_rtakeWhile_imp
  · rw [trimChars, trimEndOf_eq_rdropWhile, List.append_assoc, List.rdropWhile_append_rtakeWhile,
      List.takeWhile_append_dropWhile]

/-- A text without white space at its ends stays as it is. -/
theorem trimChars_eq_self {cs : List Char} (hhead : ∀ c ∈ cs.head?, isWhite c = false)
    (hlast : ∀ c ∈ cs.getLast?, isWhite c = false) : trimChars cs = cs := by
  have hdrop : cs.dropWhile isWhite = cs := by
    cases cs with
    | nil => rfl
    | cons c cs => exact List.dropWhile_cons_of_neg (by simp [hhead c rfl])
  rw [trimChars, hdrop, trimEndOf_eq_rdropWhile, List.rdropWhile_eq_self_iff]
  intro hne
  simp [hlast _ (List.getLast?_eq_some_getLast hne)]

theorem trimChars_eq_nil_iff {cs : List Char} :
    trimChars cs = [] ↔ ∀ c ∈ cs, isWhite c = true := by
  constructor
  · intro hnil
    obtain ⟨front, back, hfront, hback, hcs⟩ := exists_trimChars cs
    rw [hnil, List.append_nil] at hcs
    rw [hcs]
    exact List.forall_mem_append.mpr ⟨hfront, hback⟩
  · intro hwhite
    have hall := @trimChars_append cs [] hwhite nofun []
    rwa [List.append_nil, List.append_nil] at hall

/-- White space holds no other character. -/
theorem not_mem_of_white {c : Char} {cs : List Char} (hc : isWhite c = false)
    (hcs : ∀ c ∈ cs, isWhite c = true) : c ∉ cs := by
  intro hmem
  rw [hcs c hmem] at hc
  cases hc

/-- A text with nothing but white space added around it. -/
def Padded (s padded : String) : Prop :=
  ∃ front back : List Char, (∀ c ∈ front, isWhite c = true) ∧ (∀ c ∈ back, isWhite c = true) ∧
    padded.toList = front ++ s.toList ++ back

theorem Padded.refl (s : String) : Padded s s := ⟨[], [], nofun, nofun, (List.append_nil _).symm⟩

theorem padded_trim (s : String) : Padded (trim s) s := by
  obtain ⟨front, back, hfront, hback, hchars⟩ := exists_trimChars s.toList
  exact ⟨front, back, hfront, hback, by rw [trim, String.toList_ofList, ← hchars]⟩

theorem trim_eq_empty_iff {s : String} : trim s = "" ↔ ∀ c ∈ s.toList, isWhite c = true := by
  rw [← trimChars_eq_nil_iff, ← String.toList_eq_nil_iff, trim, String.toList_ofList]

theorem isBlank_eq_false_iff {s : String} :
    isBlank s = false ↔ ∃ c ∈ s.toList, isWhite c = false := by
  unfold isBlank
  rw [List.all_eq_false]
  simp only [Bool.not_eq_true]

/-! ### Line ends

Line ends are dropped at the end of a text only, and only there do they make no difference. -/

/-- Whether a character ends a line. -/
def isLineEnd (c : Char) : Bool := c == '\r' || c == '\n'

theorem dropLineEnds_append {s : String} {ends : List Char} (h : ∀ c ∈ ends, isLineEnd c = true) :
    dropLineEnds (s ++ String.ofList ends) = dropLineEnds s := by
  unfold dropLineEnds
  rw [String.toList_append, String.toList_ofList]
  exact congrArg String.ofList (trimEndOf_append h)

theorem isLineEnd_last_dropLineEnds {s : String} {c : Char}
    (h : c ∈ (dropLineEnds s).toList.getLast?) : isLineEnd c = false := by
  unfold dropLineEnds at h
  rw [String.toList_ofList] at h
  exact of_mem_getLast?_trimEndOf h

end MailMerge.Text
