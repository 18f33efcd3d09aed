import MailMerge.Record
import Mathlib.Data.List.Induction
import Mathlib.Data.List.Nodup

/-!
# Records

Writing a name changes the value of that name and no other (`get?_insert`). Pairs with different
names are the entries of the record that they make, in order (`entries_ofList`). Of pairs with the
same name the first gives the place (`names_ofList`) and the last the value (`get?_ofList`).
-/

namespace MailMerge

/-- Putting an entry into a list of entries, in place of the old one or at the end, changes what is
found under its key and nothing else. -/
theorem lookup_of_setIn {α β : Type} [BEq α] [LawfulBEq α] [DecidableEq α]
    (set : List (α × β) → List (α × β)) {key : α} {value : β} (hnil : set [] = [(key, value)])
    (hcons : ∀ e rest, set (e :: rest) = if e.1 = key then (key, value) :: rest else e :: set rest)
    (entries : List (α × β)) (k : α) :
    (set entries).lookup k = if k = key then some value else entries.lookup k := by
  induction entries with
  | nil =>
      by_cases h : k = key
      · simp [hnil, h]
      · simp [hnil, List.lookup_cons, h, beq_false_of_ne h]
  | cons e rest ih =>
      obtain ⟨k', v⟩ := e
      rw [hcons]
      -- the induction goes on only where the first entry has another key
      by_cases hk : k' = key
      · subst hk
        by_cases h : k = k'
        · simp [h]
        · simp [List.lookup_cons, h, beq_false_of_ne h]
      · rw [if_neg hk, List.lookup_cons, ih, List.lookup_cons]
        by_cases h : k = key
        · subst h
          simp [beq_false_of_ne (Ne.symm hk)]
        · simp [h]

namespace Record

theorem get?_insert (r : Record) (name value w : String) :
    (r.insert name value).get? w = if w = name then some value else r.get? w :=
  lookup_of_setIn (setIn name value) rfl (fun _ _ => rfl) r.entries w

theorem setIn_of_not_mem {name value : String} {entries : List (String × String)}
    (h : name ∉ entries.map Prod.fst) :
    setIn name value entries = entries ++ [(name, value)] := by
  induction entries with
  | nil => rfl
  | cons e entries ih =>
      rw [List.map_cons, List.mem_cons, not_or] at h
      rw [setIn, if_neg (Ne.symm h.1), ih h.2, List.cons_append]

/-- Pairs with different names make the record with these entries. -/
theorem entries_ofList {pairs : List (String × String)} (h : (pairs.map Prod.fst).Nodup) :
    (ofList pairs).entries = pairs := by
  -- what was written before is the front of the entries, and no name in it comes again
  have hfold : ∀ (pairs front : List (String × String)), ((front ++ pairs).map Prod.fst).Nodup →
      (pairs.foldl (fun r p => r.insert p.1 p.2) (⟨front⟩ : Record)).entries = front ++ pairs := by
    intro pairs
    induction pairs with
    | nil => exact fun front _ => (List.append_nil front).symm
    | cons p pairs ih =>
        intro front hnodup
        have hnew : p.1 ∉ front.map Prod.fst := by
          rw [List.map_append, List.nodup_append] at hnodup
          exact fun hmem => hnodup.2.2 _ hmem _ (List.mem_map_of_mem List.mem_cons_self) rfl
        rw [List.foldl_cons, Record.insert, setIn_of_not_mem hnew, ih]
        · exact List.append_assoc front [p] pairs
        · rwa [List.append_assoc]
  exact hfold pairs [] h

/-! ### Names written more than once

A record is made by going through the pairs, so the last pair is the one inserted last: the
induction is from the end. Inserting under a name that is there changes the value and keeps
the place. -/

theorem names_insert (r : Record) (name value : String) :
    (r.insert name value).names = if name ∈ r.names then r.names else r.names ++ [name] := by
  obtain ⟨entries⟩ := r
  unfold insert names
  dsimp only
  induction entries with
  | nil => rfl
  | cons e entries ih =>
      rw [setIn]
      by_cases he : e.1 = name
      · simp [he]
      · rw [if_neg he, List.map_cons, ih, List.map_cons]
        simp only [List.mem_cons, Ne.symm he, false_or]
        split <;> rfl

theorem ofList_append_singleton (pairs : List (String × String)) (p : String × String) :
    ofList (pairs ++ [p]) = (ofList pairs).insert p.1 p.2 := by
  rw [ofList, List.foldl_append]
  rfl

/-- The names of a record are those written, each at its first place. -/
theorem names_ofList (pairs : List (String × String)) :
    (ofList pairs).names = (pairs.map Prod.fst).eraseDups := by
  induction pairs using List.reverseRecOn with
  | nil => rfl
  | append_singleton pairs p ih =>
      rw [ofList_append_singleton, names_insert, ih, List.map_append, List.eraseDups_append]
      by_cases hp : p.1 ∈ pairs.map Prod.fst
      · simp [List.removeAll, hp]
      · simp [List.removeAll, hp, List.eraseDups_cons]

theorem nodup_names_ofList (pairs : List (String × String)) : (ofList pairs).names.Nodup := by
  induction pairs using List.reverseRecOn with
  | nil => exact .nil
  | append_singleton pairs p ih =>
      rw [ofList_append_singleton, names_insert]
      split
      · exact ih
      · next hp => exact List.nodup_append_comm.mp (List.nodup_cons.mpr ⟨hp, ih⟩)

/-- A name has the value that was written last. -/
theorem get?_ofList (pairs : List (String × String)) (name : String) :
    (ofList pairs).get? name = pairs.reverse.lookup name := by
  induction pairs using List.reverseRecOn with
  | nil => rfl
  | append_singleton pairs p ih =>
      obtain ⟨key, value⟩ := p
      rw [ofList_append_singleton, get?_insert, ih, List.reverse_append, List.reverse_singleton,
        List.singleton_append, List.lookup_cons]
      by_cases hname : name = key
      · rw [if_pos hname, beq_iff_eq.mpr hname]
      · rw [if_neg hname, beq_false_of_ne hname]

/-- Each entry holds the value of its name. -/
theorem get?_of_mem_entries {r : Record} (h : r.names.Nodup) {e : String × String}
    -- the entry with what stands before it, where no other one has its name
    (he : e ∈ r.entries) : r.get? e.1 = some e.2 := by
  obtain ⟨before, behind, hsplit⟩ := List.append_of_mem he
  refine List.lookup_eq_some_iff.mpr ⟨before, behind, hsplit, fun p hp => ?_⟩
  rw [names, hsplit, List.map_append, List.nodup_append] at h
  have hne := h.2.2 p.1 (List.mem_map_of_mem hp) e.1 List.mem_cons_self
  simpa using hne.symm

end Record
end MailMerge
