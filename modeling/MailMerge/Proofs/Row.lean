import MailMerge.Proofs.Config.Sources
import MailMerge.Proofs.Render

/-!
# What a row gives to the variables

The record of a row that is long enough is what writing the variables with their values in order
makes (`toRecord_of_length_le`). So its names are the variables, each at its first place, and each
of them has the field at its last place (`toRecord_iff`).

Nothing else of a row counts. Two rows that have the same field at the last place of each variable
give the same file, or the same name that is refused, whatever their numbers are
(`render_of_agree`).
-/

namespace MailMerge

theorem Modifier.apply_empty (value : String) : Modifier.empty.apply value = value := rfl

/-! ### Records with the same values

A record is a list of names with values, of which no name comes twice. Such a record is
known by its names in order and the value of each. -/

namespace Record

/-- A record without repeated names is its names with their values. -/
theorem entries_eq_map {r : Record} (h : r.names.Nodup) :
    r.entries = r.names.map fun v => (v, (r.get? v).getD "") := by
  have hentry : ∀ e ∈ r.entries, (e.1, (r.get? e.1).getD "") = e := by
    intro e he
    rw [get?_of_mem_entries h he, Option.getD_some]
  calc r.entries = r.entries.map id := (List.map_id _).symm
    _ = r.entries.map fun e => (e.1, (r.get? e.1).getD "") :=
        List.map_congr_left fun e he => (hentry e he).symm
    _ = r.names.map fun v => (v, (r.get? v).getD "") := by rw [names, List.map_map]; rfl

/-- Records with the same names and the same values are the same. -/
theorem eq_of_get? {r r' : Record} (h : r.names.Nodup) (hnames : r.names = r'.names)
    (hget : ∀ v ∈ r.names, r.get? v = r'.get? v) : r = r' := by
  obtain ⟨entries⟩ := r
  obtain ⟨entries'⟩ := r'
  congr 1
  change (Record.mk entries).entries = (Record.mk entries').entries
  rw [entries_eq_map h, entries_eq_map (hnames ▸ h), ← hnames]
  apply List.map_congr_left
  intro v hv
  rw [hget v hv]

end Record

namespace Row

variable {names fields fields' : List String} {m : Modifier} {row : Nat} {r : Record}

/-! ### The record of a row

Fields are assigned to variables from left to right; a variable that comes again keeps its
place in the record and takes the new value. That is what inserting into a record does, so
no more is to be known of the loop. -/

theorem assign_of_length_le (h : names.length ≤ fields.length) (r : Record) :
    assign m row r names fields =
      .ok ((names.zip (fields.map m.apply)).foldl (fun r p => r.insert p.1 p.2) r) := by
  induction names generalizing fields r with
  | nil => rfl
  | cons v vs ih =>
      cases fields with
      | nil => cases h
      | cons f fs => exact ih (Nat.le_of_succ_le_succ h) (r.insert v (m.apply f))

/-- The record of a row is made of the variables and the values of the fields. -/
theorem toRecord_of_length_le (h : names.length ≤ fields.length) :
    toRecord names fields m row = .ok (.ofList (names.zip (fields.map m.apply))) :=
  assign_of_length_le h .empty

/-- A row that is too short fails at the first variable without a field. -/
theorem toRecord_of_length_lt (h : fields.length < names.length) :
    toRecord names fields m row = .error (.missingColumn names[fields.length] row) :=
  assign_eq_error_iff.mpr ⟨_, List.getElem?_eq_getElem h, rfl⟩

theorem toRecord_eq_ok_iff :
    toRecord names fields m row = .ok r ↔
      names.length ≤ fields.length ∧ r = .ofList (names.zip (fields.map m.apply)) := by
  by_cases h : names.length ≤ fields.length
  · rw [toRecord_of_length_le h]
    grind
  · rw [toRecord_of_length_lt (Nat.lt_of_not_le h)]
    grind

theorem names_of_toRecord (h : toRecord names fields m row = .ok r) :
    r.names = names.eraseDups ∧ r.names.Nodup := by
  obtain ⟨hlong, rfl⟩ := toRecord_eq_ok_iff.mp h
  have hfst : (names.zip (fields.map m.apply)).map Prod.fst = names := by
    apply List.map_fst_zip
    rwa [List.length_map]
  constructor
  · rw [Record.names_ofList, hfst]
  · exact Record.nodup_names_ofList _

/-- Changing the fields first and then taking them as they are is the same. -/
theorem toRecord_map_apply :
    toRecord names (fields.map m.apply) .empty row = toRecord names fields m row := by
  have hsame : (fields.map m.apply).map Modifier.empty.apply = fields.map m.apply :=
    List.map_id'' Modifier.apply_empty _
  by_cases h : names.length ≤ fields.length
  · have h' : names.length ≤ (fields.map m.apply).length := by rwa [List.length_map]
    rw [toRecord_of_length_le h, toRecord_of_length_le h', hsame]
  -- the row is too short before the change and after it, and for the same variable
  · have hshort : fields.length < names.length := Nat.lt_of_not_le h
    have hshort' : (fields.map m.apply).length < names.length := by rwa [List.length_map]
    rw [toRecord_of_length_lt hshort, toRecord_of_length_lt hshort']
    simp only [List.length_map]

/-- **A row gives each variable the field at its last place.** A row has a record exactly if it has
a field for each variable, and fails otherwise with the first variable that has none. The names of
the record are the variables, each at its first place, and each has the field at its last place as
its value, changed by the modifier. The modifier may as well be applied to all fields beforehand. -/
theorem toRecord_iff (names fields : List String) (m : Modifier) (row : Nat) :
    ((∃ r, toRecord names fields m row = .ok r) ↔ names.length ≤ fields.length) ∧
      (∀ h : fields.length < names.length,
        toRecord names fields m row = .error (.missingColumn names[fields.length] row)) ∧
      (∀ r, toRecord names fields m row = .ok r → r.names = names.eraseDups ∧
        ∀ i v, names[i]? = some v → v ∉ names.drop (i + 1) →
          ∃ f, fields[i]? = some f ∧ r.get? v = some (m.apply f)) ∧
      toRecord names (fields.map m.apply) .empty row = toRecord names fields m row := by
  refine ⟨?_, fun h => toRecord_of_length_lt h, fun r hr => ?_, toRecord_map_apply⟩
  · constructor
    · rintro ⟨r, hr⟩
      exact (toRecord_eq_ok_iff.mp hr).1
    · intro h
      exact ⟨_, toRecord_of_length_le h⟩
  · refine ⟨(names_of_toRecord hr).1, fun i v hi hlast => ?_⟩
    exact get?_of_assign hr hi hlast

/-- A variable that is listed first and last keeps its first place and takes the last field. -/
theorem toRecord_iff_of_repeated_name :
    toRecord ["a", "b", "a"] ["1", "2"] .empty 4 = .error (.missingColumn "a" 4) ∧
      ∃ r, toRecord ["a", "b", "a"] ["1", "2", "3", "4"] .empty 4 = .ok r ∧
        r.names = ["a", "b"] ∧ r.get? "a" = some "3" ∧ r.get? "b" = some "2" := by
  constructor
  · exact (toRecord_iff ["a", "b", "a"] ["1", "2"] .empty 4).2.1 (by decide)
  · obtain ⟨hiff, -, hvalues, -⟩ := toRecord_iff ["a", "b", "a"] ["1", "2", "3", "4"] .empty 4
    obtain ⟨r, hr⟩ := hiff.mpr (by decide)
    obtain ⟨hnames, hlast⟩ := hvalues r hr
    obtain ⟨f, hf, ha⟩ := hlast 2 "a" rfl (by decide)
    obtain ⟨g, hg, hb⟩ := hlast 1 "b" rfl (by decide)
    obtain rfl : "3" = f := Option.some.inj hf
    obtain rfl : "2" = g := Option.some.inj hg
    exact ⟨r, hr, hnames, ha, hb⟩

/-! ### Rows that agree

What is left of a row in its record is the field at the last place of each variable. A field
behind the last variable, and one that another field takes the place of, are not among
these. -/

/-- Whether two rows have the same field at the last place of each variable. -/
def Agree (names fields fields' : List String) : Prop :=
  ∀ i v, names[i]? = some v → v ∉ names.drop (i + 1) → fields[i]? = fields'[i]?

/-- Fields behind the last variable do not count. -/
theorem agree_append (h : names.length ≤ fields.length) (extra : List String) :
    Agree names fields (fields ++ extra) := by
  intro i v hi _
  have hlt : i < names.length := (List.getElem?_eq_some_iff.mp hi).1
  rw [List.getElem?_append_left (Nat.lt_of_lt_of_le hlt h)]

/-- The field of a variable that is listed again does not count. -/
theorem agree_set {i : Nat} {v : String} (hi : names[i]? = some v) (hagain : v ∈ names.drop (i + 1))
    (x : String) : Agree names fields (fields.set i x) := by
  intro j w hj hlast
  have hne : i ≠ j := by
    rintro rfl
    rw [hi] at hj
    cases hj
    exact hlast hagain
  rw [List.getElem?_set_ne hne]

/-- Rows that agree have the same record. -/
theorem Agree.toRecord_eq (h : Agree names fields fields') (hlong : names.length ≤ fields.length)
    (hlong' : names.length ≤ fields'.length) (row' : Nat) :
    toRecord names fields m row = toRecord names fields' m row' := by
  have hr : toRecord names fields m row = .ok _ := toRecord_of_length_le hlong
  have hr' : toRecord names fields' m row' = .ok _ := toRecord_of_length_le hlong'
  rw [hr, hr']
  congr 1
  obtain ⟨hnames, hnodup⟩ := names_of_toRecord hr
  obtain ⟨hnames', -⟩ := names_of_toRecord hr'
  apply Record.eq_of_get? hnodup (hnames.trans hnames'.symm)
  intro v hv
  rw [hnames, List.mem_eraseDups] at hv
  -- both records have the field at the last place of the variable, where the rows agree
  obtain ⟨i, hi, hlast⟩ := exists_last_place hv
  obtain ⟨f, hf, hvalue⟩ := get?_of_assign hr hi hlast
  obtain ⟨f', hf', hvalue'⟩ := get?_of_assign hr' hi hlast
  rw [h i v hi hlast, hf'] at hf
  obtain rfl : f' = f := Option.some.inj hf
  exact hvalue.trans hvalue'.symm

end Row

namespace Config

variable {c : Config} {template : String} {fields fields' : List String}

/-- Rows that agree give the same file, or the same name that is refused. -/
theorem render_eq_of_agree (h : Row.Agree c.names fields fields')
    (hlong : c.names.length ≤ fields.length) (hlong' : c.names.length ≤ fields'.length)
    (row row' : Nat) :
    (∃ out, c.render template fields row = .ok out ∧ c.render template fields' row' = .ok out) ∨
      ∃ name, c.render template fields row = .error (.unsafeFileName name row) ∧
        c.render template fields' row' = .error (.unsafeFileName name row') := by
  have hr : Row.toRecord c.names fields c.modifier row = .ok _ := Row.toRecord_of_length_le hlong
  have hr' := hr
  -- both rows have a record, and it is the same one
  rw [h.toRecord_eq hlong hlong' row'] at hr'
  rw [render_of_record hr, render_of_record hr']
  split
  · exact Or.inl ⟨_, rfl, rfl⟩
  · exact Or.inr ⟨_, rfl, rfl⟩

/-- **Only the fields at the last places of the variables count.** Of two rows that are long enough
and have the same field at the last place of each variable, both give the same file or both are
refused for the same name, whatever their numbers are. In particular neither fields behind the last
variable nor the field of a variable that is listed again makes a difference. -/
theorem render_of_agree (c : Config) (template : String) (fields : List String) (row : Nat)
    (hlong : c.names.length ≤ fields.length) :
    (∀ fields' row', c.names.length ≤ fields'.length → Row.Agree c.names fields fields' →
      (∃ out, c.render template fields row = .ok out ∧
        c.render template fields' row' = .ok out) ∨
      ∃ name, c.render template fields row = .error (.unsafeFileName name row) ∧
        c.render template fields' row' = .error (.unsafeFileName name row')) ∧
      (∀ extra, c.render template (fields ++ extra) row = c.render template fields row) ∧
      ∀ i v x, c.names[i]? = some v → v ∈ c.names.drop (i + 1) →
        c.render template (fields.set i x) row = c.render template fields row := by
  have hsame : ∀ fields', c.names.length ≤ fields'.length → Row.Agree c.names fields fields' →
      c.render template fields' row = c.render template fields row := by
    intro fields' hlong' h
    rcases @render_eq_of_agree c template fields fields' h hlong hlong' row row with
      ⟨out, hout, hout'⟩ | ⟨name, hname, hname'⟩
    · rw [hout, hout']
    · rw [hname, hname']
  refine ⟨fun fields' row' hlong' h => ?_, fun extra => ?_, fun i v x hi hagain => ?_⟩
  · exact render_eq_of_agree h hlong hlong' row row'
  · apply hsame
    · rw [List.length_append]
      exact Nat.le_add_right_of_le hlong
    · exact Row.agree_append hlong extra
  · apply hsame
    · rwa [List.length_set]
    · exact Row.agree_set hi hagain x

/-- Of two rows with their own first fields, fields too many and numbers, one name is taken and one
is refused. -/
theorem render_of_agree_of_repeated_name :
    let o := { literalOptions with
      variableList := "name, id, name", modifier := Options.defaultModifier }
    ∃ c, (load optionTree o).result = .ok c ∧ c.names = ["name", "id", "name"] ∧
      (∃ out, out.target = "out/Bob-7.txt" ∧
        c.render "Dear <name>" ["Ann", "7", "Bob"] 3 = .ok out ∧
        c.render "Dear <name>" ["Zoe", "7", "Bob", "more"] 9 = .ok out) ∧
      c.render "Dear <name>" ["Ann", "7", "../"] 3 = .error (.unsafeFileName "../-7.txt" 3) ∧
      c.render "Dear <name>" ["Zoe", "7", "../", "more"] 9 =
        .error (.unsafeFileName "../-7.txt" 9) := by
  intro o
  have h : ((load optionTree o).result.toOption.any fun c =>
      decide (c.names = ["name", "id", "name"] ∧
        (c.render "Dear <name>" ["Ann", "7", "Bob"] 3).toOption.map Output.target =
          some "out/Bob-7.txt" ∧
        c.render "Dear <name>" ["Ann", "7", "../"] 3 =
          .error (.unsafeFileName "../-7.txt" 3))) = true := by
    decide +kernel
  obtain ⟨c, hc, hrun⟩ := exists_of_any_toOption h
  obtain ⟨hnames, htaken, hrefused⟩ := of_decide_eq_true hrun
  have hagree : ∀ x, Row.Agree c.names ["Ann", "7", x] ["Zoe", "7", x, "more"] := by
    rw [hnames]
    rintro x (_ | _ | _ | i) v hi hlast
    · cases hi
      exact absurd hlast (by decide)
    · rfl
    · rfl
    · cases hi
  have hboth := fun x => (render_of_agree c "Dear <name>" ["Ann", "7", x] 3
    (by rw [hnames]; rfl)).1 ["Zoe", "7", x, "more"] 9 (by rw [hnames]; simp) (hagree x)
  refine ⟨c, hc, hnames, ?_, hrefused, ?_⟩
  · rcases hboth "Bob" with ⟨out, hout, hout'⟩ | ⟨name, hname, -⟩
    · rw [hout] at htaken
      exact ⟨out, Option.some.inj htaken, hout, hout'⟩
    · rw [hname] at htaken
      cases htaken
  · rcases hboth "../" with ⟨out, hout, -⟩ | ⟨name, hname, hname'⟩
    · rw [hrefused] at hout
      cases hout
    · rw [hrefused] at hname
      cases hname
      exact hname'

end Config
end MailMerge
