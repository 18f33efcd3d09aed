import MailMerge.FileName
import MailMerge.Proofs.Text.Substring

/-!
# Texts with references, piece by piece

A text in which references to variables stand between other pieces of text. Putting in one variable
after the other comes to putting in all of them at once (`resolve_write`), where no reference to a
variable can be taken for one to another and values bring in no references.
-/

namespace MailMerge

theorem FileName.toList_reference (v : String) : (reference v).toList = '@' :: v.toList := by
  simp [reference]

/-- A piece of a text with references. -/
inductive Piece where
  | text (s : String)
  | reference (v : String)

namespace Piece

def chars : Piece → List Char
  | text s => s.toList
  | reference v => '@' :: v.toList

/-- The piece with one variable replaced by its value. -/
def put (v value : String) : Piece → Piece
  | text s => text s
  | reference w => if w = v then text value else reference w

/-- The characters of a piece with its variable replaced by the value in a record, if it has one. -/
def filled (r : Record) : Piece → List Char
  | text s => s.toList
  | reference v => match r.get? v with
    | some value => value.toList
    | none => '@' :: v.toList

/-- The text that pieces make. -/
def write (pieces : List Piece) : String := String.ofList (pieces.flatMap chars)

/-- The text that pieces make with all variables replaced by their values, each in its place. -/
def fill (r : Record) (pieces : List Piece) : String := String.ofList (pieces.flatMap (filled r))

/-- Whether a piece is text without `@`, or refers to a variable of a list. -/
def Refers (names : List String) : Piece → Prop
  | text s => '@' ∉ s.toList
  | reference v => v ∈ names

instance (names : List String) : (x : Piece) → Decidable (x.Refers names)
  | text s => inferInstanceAs (Decidable ('@' ∉ s.toList))
  | reference v => inferInstanceAs (Decidable (v ∈ names))

/-- Where pieces begin with a reference to a variable, they begin with no reference to another. -/
def Unmistakable (v : String) (pieces : List Piece) : Prop :=
  ∀ w rest, reference w :: rest <:+ pieces → v.toList <+: w.toList ++ rest.flatMap chars → w = v

variable {v value : String} {names : List String} {r : Record} {pieces : List Piece}

/-! ### One variable

Replacing goes through the text from the left, and the pieces let it be followed: in a text
without `@` nothing is found, at a reference to the variable the reference is found, and at
another reference nothing is, since it cannot be mistaken. -/

/-- Replacing the reference to a variable replaces it in every piece. -/
theorem replace_write (hpieces : ∀ x ∈ pieces, x.Refers names)
    (hnames : ∀ w ∈ names, '@' ∉ w.toList) (hclear : Unmistakable v pieces) :
    Text.replace (write pieces) (FileName.reference v) value = write (pieces.map (put v value)) := by
  unfold Text.replace write
  rw [FileName.toList_reference, String.toList_ofList]
  congr 1
  induction pieces with
  | nil => exact Text.replaceChars_nil _ _
  | cons x rest ih =>
      obtain ⟨hx, hrest⟩ := List.forall_mem_cons.mp hpieces
      -- what is unmistakable stays so further back
      have ih := ih hrest fun w back hback => hclear w back (hback.trans (List.suffix_cons _ _))
      rw [List.flatMap_cons, List.map_cons, List.flatMap_cons, ← ih]
      cases x with
      | text s => exact Text.replaceChars_append_of_not_mem hx _
      | reference w =>
          by_cases hw : w = v
          · subst hw
            rw [put, if_pos rfl]
            exact Text.replaceChars_old_append (List.cons_ne_nil _ _) _
          -- the name of the variable does not begin here, with
          -- whatever stands behind the other name
          · have hother : ¬ '@' :: v.toList <+: '@' :: (w.toList ++ rest.flatMap chars) :=
              fun hp => hw (hclear w rest (List.suffix_refl _) (List.cons_prefix_cons.mp hp).2)
            rw [put, if_neg hw, chars, List.cons_append, Text.replaceChars_cons hother,
              Text.replaceChars_append_of_not_mem (hnames w hx), List.cons_append]

/-- A piece whose variable was put in refers to the other variables only. -/
theorem Refers.put {x : Piece} (h : x.Refers (v :: names)) (hvalue : '@' ∉ value.toList) :
    (x.put v value).Refers names := by
  cases x with
  | text s => exact h
  | reference w =>
      by_cases hw : w = v
      · rw [Piece.put, if_pos hw]
        exact hvalue
      · rw [Piece.put, if_neg hw]
        exact (List.mem_cons.mp h).resolve_left hw

theorem Refers.mono {x : Piece} {names' : List String} (h : x.Refers names)
    (hsub : ∀ v ∈ names, v ∈ names') : x.Refers names' := by
  cases x with
  | text s => exact h
  | reference w => exact hsub w h

theorem filled_put (hvalue : r.get? v = some value) (x : Piece) :
    (x.put v value).filled r = x.filled r := by
  cases x with
  | text s => rfl
  | reference w =>
      by_cases hw : w = v
      · rw [put, if_pos hw, hw, filled, filled, hvalue]
      · rw [put, if_neg hw]

/-! ### All variables

The variables are put in one after the other, so what has been put in is searched again for
the ones that are left. Values without `@` hold no reference, so in the end each reference
was replaced once; the condition that keeps references apart has to hold at each step and is
left open here. -/

/-- Putting in all variables at once needs no order. -/
theorem fill_map_put (hvalue : r.get? v = some value) (pieces : List Piece) :
    fill r (pieces.map (put v value)) = fill r pieces := by
  simp only [fill, List.flatMap_map, filled_put hvalue]

theorem fill_eq_write (h : ∀ x ∈ pieces, x.Refers []) : fill r pieces = write pieces := by
  unfold fill write
  congr 1
  induction pieces with
  | nil => rfl
  | cons x rest ih =>
      -- with no variables left all pieces are text
      obtain ⟨hx, hrest⟩ := List.forall_mem_cons.mp h
      rw [List.flatMap_cons, List.flatMap_cons, ih hrest]
      cases x with
      | text s => rfl
      | reference w => cases hx

/-- No name of which none starts with another can be taken for another. -/
theorem unmistakable_of_prefix (hpieces : ∀ x ∈ pieces, x.Refers names) (hv : v ∈ names)
    (hapart : ∀ v ∈ names, ∀ w ∈ names, v.toList <+: w.toList → v = w) :
    Unmistakable v pieces := by
  intro w rest hsuffix hv'
  have hw : w ∈ names := hpieces _ (hsuffix.subset List.mem_cons_self)
  -- of two names that go on the same text one starts with the other
  rcases List.prefix_or_prefix_of_prefix hv' (List.prefix_append _ _) with h | h
  · exact (hapart v hv w hw h).symm
  · exact hapart w hw v hv h

/-- Putting in one variable after the other comes to putting in all of them at once, if at each
variable no reference can be taken for one to it (`Clear`). -/
theorem resolve_write_of_clear (Clear : List String → List Piece → Prop)
    (hclear : ∀ v names pieces, (∀ x ∈ pieces, x.Refers (v :: names)) →
      Clear (v :: names) pieces → Unmistakable v pieces)
    (hput : ∀ v names pieces value, Clear (v :: names) pieces →
      Clear names (pieces.map (put v value)))
    (hnames : ∀ v ∈ names, '@' ∉ v.toList)
    (hvalues : ∀ v ∈ names, ∃ value, r.get? v = some value ∧ '@' ∉ value.toList)
    (hpieces : ∀ x ∈ pieces, x.Refers names) (h : Clear names pieces) :
    FileName.resolve (write pieces) names r = fill r pieces := by
  induction names generalizing pieces with
  | nil => exact (fill_eq_write hpieces).symm
  | cons v rest ih =>
      obtain ⟨value, hvalue, hat⟩ := hvalues v List.mem_cons_self
      -- the first variable, and then the others in what that makes
      have hone : FileName.resolveOne r (write pieces) v = write (pieces.map (put v value)) := by
        rw [FileName.resolveOne, hvalue]
        exact replace_write hpieces hnames (hclear v rest pieces hpieces h)
      have hrefers : ∀ x ∈ pieces.map (put v value), x.Refers rest :=
        List.forall_mem_map.mpr fun x hx => (hpieces x hx).put hat
      have hrest := ih (fun w hw => hnames w (List.mem_cons_of_mem v hw))
        (fun w hw => hvalues w (List.mem_cons_of_mem v hw)) hrefers (hput v rest pieces value h)
      rw [FileName.resolve, List.foldl_cons, hone, ← fill_map_put hvalue]
      exact hrest

/-- No order is needed where no name starts with another one. -/
theorem resolve_write (hnames : ∀ v ∈ names, '@' ∉ v.toList)
    (hapart : ∀ v ∈ names, ∀ w ∈ names, v.toList <+: w.toList → v = w)
    (hvalues : ∀ v ∈ names, ∃ value, r.get? v = some value ∧ '@' ∉ value.toList)
    (hpieces : ∀ x ∈ pieces, x.Refers names) :
    FileName.resolve (write pieces) names r = fill r pieces := by
  refine resolve_write_of_clear
    (fun names _ => ∀ v ∈ names, ∀ w ∈ names, v.toList <+: w.toList → v = w)
    (fun v names pieces hpieces h => ?_) (fun v names pieces _ h w hw w' hw' => ?_)
    hnames hvalues hpieces hapart
  · exact unmistakable_of_prefix hpieces List.mem_cons_self h
  · exact h w (List.mem_cons_of_mem v hw) w' (List.mem_cons_of_mem v hw')

/-- No `@` is left where all variables have values without it. -/
theorem not_mem_fill (hvalues : ∀ v ∈ names, ∃ value, r.get? v = some value ∧ '@' ∉ value.toList)
    (hpieces : ∀ x ∈ pieces, x.Refers names) : '@' ∉ (fill r pieces).toList := by
  rw [fill, String.toList_ofList, List.mem_flatMap]
  rintro ⟨x, hx, hat⟩
  have hrefers := hpieces x hx
  cases x with
  | text s => exact hrefers hat
  | reference v =>
      obtain ⟨value, hvalue, hfree⟩ := hvalues v hrefers
      rw [filled, hvalue] at hat
      exact hfree hat

end Piece
end MailMerge
