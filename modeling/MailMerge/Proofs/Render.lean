import MailMerge.Config
import MailMerge.Proofs.FileName
import MailMerge.Proofs.Record

/-!
# What rendering a row comes to

A row that is too short for the variables has no record, and the first variable without a field is
missing (`assign_eq_error_iff`, `render_eq_missingColumn_iff`). Any other row gives every variable a
value, that of the field at its last place (`get?_of_assign`).

A row that can be rendered gives a file whose path goes on from the output directory by names, at
least one of them and none of them `..` (`steps_target`). A row that cannot be rendered gives an
error of that row (`render_eq_error`). The number of a row stands in its error and nowhere else
(`render_atRow`).
-/

namespace MailMerge

/-! ### The record of a row

Variables and fields are gone through together, and the record grows by one value at each
step. A value that is put in again replaces the earlier one, so of several fields for one
variable the last one counts. -/

namespace Row

variable {m : Modifier} {row : Nat} {names fields : List String} {r r' : Record}

/-- A row fails with the first variable that has no field. -/
theorem assign_eq_error_iff {e : Error} : assign m row r names fields = .error e ↔
    ∃ v, names[fields.length]? = some v ∧ e = .missingColumn v row := by
  induction names generalizing r fields with
  | nil => exact ⟨nofun, nofun⟩
  | cons v vs ih =>
      cases fields with
      | nil =>
          constructor
          · intro h
            exact ⟨v, rfl, (Except.error.inj h).symm⟩
          · rintro ⟨_, ⟨⟩, rfl⟩
            rfl
      | cons f fs => exact ih

theorem exists_assign (m : Modifier) (row : Nat) (r : Record)
    (h : names.length ≤ fields.length) : ∃ r', assign m row r names fields = .ok r' := by
  cases hr : assign m row r names fields with
  | ok r' => exact ⟨r', rfl⟩
  | error e =>
      obtain ⟨v, hv, -⟩ := assign_eq_error_iff.mp hr
      rw [List.getElem?_eq_none h] at hv
      cases hv

theorem get?_of_not_mem (h : assign m row r names fields = .ok r') {v : String} (hv : v ∉ names) :
    r'.get? v = r.get? v := by
  induction names generalizing r fields with
  | nil =>
      rw [Except.ok.inj h]
  | cons w ws ih =>
      rw [List.mem_cons, not_or] at hv
      cases fields with
      | nil => cases h
      | cons f fs =>
          rw [ih h hv.2, Record.get?_insert, if_neg hv.1]

/-- A variable has the value of the field at its last place. -/
theorem get?_of_assign (h : assign m row r names fields = .ok r') {i : Nat} {v : String}
    (hi : names[i]? = some v) (hlast : v ∉ names.drop (i + 1)) :
    ∃ f, fields[i]? = some f ∧ r'.get? v = some (m.apply f) := by
  induction names generalizing r fields i with
  | nil => cases hi
  | cons w ws ih =>
      cases fields with
      | nil => cases h
      | cons f fs =>
          -- the induction is on the variables, and says which of them is the one at place `i`
          cases i with
          | zero =>
              obtain rfl : w = v := Option.some.inj hi
              rw [assign] at h
              refine ⟨f, rfl, ?_⟩
              -- no later variable of this name takes the value away
              rw [get?_of_not_mem h hlast, Record.get?_insert, if_pos rfl]
          | succ i => exact ih h hi hlast

theorem exists_last_place {v : String} (h : v ∈ names) :
    ∃ i, names[i]? = some v ∧ v ∉ names.drop (i + 1) := by
  induction names with
  | nil => cases h
  | cons w ws ih =>
      -- the last place is behind this one if the name comes again
      by_cases hv : v ∈ ws
      · obtain ⟨i, hi, hlast⟩ := ih hv
        exact ⟨i + 1, hi, hlast⟩
      · obtain rfl : v = w := (List.mem_cons.mp h).resolve_right hv
        exact ⟨0, rfl, hv⟩

end Row

/-! ### The number of a row

Where a number stands in an error is said by a function on errors, so that rendering under
another number is rendering followed by it. -/

/-- The same error in the row with another number, if it is about a row. -/
def Error.atRow (row : Nat) : Error → Error
  | .missingColumn variableName _ => .missingColumn variableName row
  | .unsafeFileName name _ => .unsafeFileName name row
  | e => e

/-- The number of a row only stands in its errors. -/
theorem Row.assign_atRow (m : Modifier) (row row' : Nat) (r : Record) (names fields : List String) :
    assign m row' r names fields = (assign m row r names fields).mapError (Error.atRow row') := by
  induction names generalizing r fields with
  | nil => rfl
  | cons v vs ih =>
      cases fields with
      | nil => rfl
      | cons f fs => exact ih _ fs

theorem FileName.target_atRow (outputDir name : String) (row row' : Nat) :
    target outputDir name row' = (target outputDir name row).mapError (Error.atRow row') := by
  unfold target
  split <;> rfl

namespace Config

variable {c : Config} {template : String} {fields : List String} {row : Nat} {out : Output}

/-! ### Rendering

A row that has a record is rendered unless the file name is unsafe; one that has none lacks
a column. These are the only two errors, and the first of them is decided by the length of
the row alone. -/

theorem render_of_record {r : Record} (h : Row.toRecord c.names fields c.modifier row = .ok r) :
    c.render template fields row =
      if FileName.isSafe (FileName.resolve c.fileName c.names r) then
        .ok ⟨Path.join c.outputDir (FileName.resolve c.fileName c.names r),
          c.filler.fill template r⟩
      else .error (.unsafeFileName (FileName.resolve c.fileName c.names r) row) := by
  rw [render, h]
  simp only [bind, Except.bind, FileName.target]
  by_cases hsafe : FileName.isSafe (FileName.resolve c.fileName c.names r) = true
  · rw [if_pos hsafe, if_pos hsafe]
    rfl
  · rw [if_neg hsafe, if_neg hsafe]

/-- A column is missing if the row is shorter than the list of variables. -/
theorem render_eq_missingColumn_iff {v : String} {n : Nat} :
    c.render template fields row = .error (.missingColumn v n) ↔
      c.names[fields.length]? = some v ∧ n = row := by
  cases hr : Row.toRecord c.names fields c.modifier row with
  | error e =>
      obtain ⟨w, hw, rfl⟩ := Row.assign_eq_error_iff.mp hr
      have hrender : c.render template fields row = .error (.missingColumn w row) := by
        rw [render, hr]
        rfl
      rw [hrender, hw]
      simp [eq_comm]
  | ok r =>
      -- a row with a record has a field for every variable
      have hnone : ¬ c.names[fields.length]? = some v := fun hv => by
        rw [Row.toRecord, Row.assign_eq_error_iff.mpr ⟨v, hv, rfl⟩] at hr
        cases hr
      rw [render_of_record hr]
      split <;> simp [hnone]

theorem render_eq_ok (h : c.render template fields row = .ok out) :
    ∃ name, FileName.isSafe name = true ∧ out.target = Path.join c.outputDir name := by
  cases hr : Row.toRecord c.names fields c.modifier row with
  | error e => rw [render, hr] at h; cases h
  | ok r =>
      rw [render_of_record hr] at h
      split at h
      · next hsafe => exact ⟨_, hsafe, congrArg Output.target (Except.ok.inj h).symm⟩
      · cases h

/-- An error of rendering is about the row rendered. -/
theorem render_eq_error {e : Error} (h : c.render template fields row = .error e) :
    (∃ v, e = .missingColumn v row) ∨ ∃ name, e = .unsafeFileName name row := by
  cases hr : Row.toRecord c.names fields c.modifier row with
  | error e' =>
      rw [render, hr] at h
      obtain rfl : e' = e := Except.error.inj h
      obtain ⟨v, -, rfl⟩ := Row.assign_eq_error_iff.mp hr
      exact Or.inl ⟨v, rfl⟩
  | ok r =>
      rw [render_of_record hr] at h
      split at h
      · cases h
      · exact Or.inr ⟨_, (Except.error.inj h).symm⟩

theorem isRowError_of_render_eq_error {e : Error} (h : c.render template fields row = .error e) :
    e.isRowError = true := by
  rcases render_eq_error h with ⟨v, rfl⟩ | ⟨name, rfl⟩ <;> rfl

/-- Rendering a row under another number gives the same file, or the same error in that row. -/
theorem render_atRow (c : Config) (template : String) (fields : List String) (row row' : Nat) :
    c.render template fields row' =
      (c.render template fields row).mapError (Error.atRow row') := by
  unfold render Row.toRecord
  rw [Row.assign_atRow c.modifier row row']
  cases Row.assign c.modifier row .empty c.names fields with
  | error e => rfl
  -- the names do not depend on the number, so both sides check the same one
  | ok r =>
      simp only [Except.mapError, bind, Except.bind]
      rw [FileName.target_atRow c.outputDir _ row row']
      cases FileName.target c.outputDir (FileName.resolve c.fileName c.names r) row <;> rfl

theorem render_eq_ok_of_row (h : c.render template fields row = .ok out) (row' : Nat) :
    c.render template fields row' = .ok out := by
  rw [render_atRow c template fields row row', h]
  rfl

/-- The path of an output file goes on from the output directory by names. -/
theorem steps_target (h : c.render template fields row = .ok out) :
    ∃ names, names ≠ [] ∧ ".." ∉ names ∧
      Path.steps out.target = Path.steps c.outputDir ++ names ∧
      Path.isAbsolute out.target = Path.isAbsolute c.outputDir := by
  obtain ⟨name, hsafe, htarget⟩ := render_eq_ok h
  obtain ⟨-, hrel, hup, hne⟩ := FileName.isSafe_iff.mp hsafe
  refine ⟨Path.steps name, hne, hup, ?_, ?_⟩
  · rw [htarget, Path.steps_join hrel]
  · rw [htarget, Path.isAbsolute_join hrel]

/-- The path of an output file ends in a name. -/
theorem getLast?_steps_target (h : c.render template fields row = .ok out) :
    ∃ n, (Path.steps out.target).getLast? = some n ∧ n ≠ ".." := by
  obtain ⟨names, hne, hup, hsteps, -⟩ := steps_target h
  refine ⟨names.getLast hne, ?_, fun he => hup (he ▸ List.getLast_mem hne)⟩
  rw [hsteps, List.getLast?_append_of_ne_nil _ hne, List.getLast?_eq_some_getLast hne]

end Config
end MailMerge
