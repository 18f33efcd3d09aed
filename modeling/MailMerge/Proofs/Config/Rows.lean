import MailMerge.Proofs.Config.Checks
import MailMerge.Proofs.Render

/-!
# The rows of a configuration

A loaded configuration has the same variables in its filler and in its list
(`Sound.map_placeholders`). So where a row has a record no variable is without a value, neither in
the template nor in the file name, and both are filled with the same values (`render_of_load`).
-/

namespace MailMerge

/-! ### Filling with all values

Where a record has a value for every name, nothing is left out in filling: both passes put
in the values one after the other. -/

theorem FileName.resolve_eq_foldl {names : List String} {r : Record} {values : String → String}
    (h : ∀ v ∈ names, r.get? v = some (values v)) (pattern : String) :
    resolve pattern names r =
      names.foldl (fun name v => Text.replace name (reference v) (values v)) pattern := by
  unfold resolve
  refine List.foldl_ext _ _ _ fun name v hv => ?_
  rw [resolveOne, h v hv]

theorem Filler.fill_eq_foldl_values {f : Filler} {r : Record} {values : String → String}
    (h : ∀ e ∈ f.placeholders, r.get? e.1 = some (values e.1)) (template : String) :
    f.fill template r =
      f.placeholders.foldl (fun text e => e.2.replaceAll text (values e.1)) template := by
  unfold fill
  refine List.foldl_ext _ _ _ fun text e he => ?_
  rw [fillOne, h e he]

/-! ### Rendering -/

namespace Config

variable {t : File.Tree} {o : Options} {c : Config} {template : String} {fields : List String}
  {row : Nat}

/-- The filler has the variables of the list, in order. -/
theorem Sound.map_placeholders (h : c.Sound) : c.filler.placeholders.map Prod.fst = c.names := by
  have hsame : List.Forall₂ (fun v e => e.1 = v) c.names c.filler.placeholders :=
    h.filler.imp fun _ _ he => he.1
  generalize c.filler.placeholders = placeholders at hsame
  generalize c.names = names at hsame
  induction hsame with
  | nil => rfl
  | cons he _ ih => rw [List.map_cons, he, ih]

/-- **What rendering a row comes to, for a loaded configuration.** A column is missing exactly if
the row is shorter than the list of variables. Otherwise every variable has a value, that of the
field at its last place, the file name and the template are filled with these values, and the row is
refused exactly if the name is not safe. -/
theorem render_of_load (h : (load t o).result = .ok c) (template : String) (fields : List String)
    (row : Nat) :
    c.filler.placeholders.map Prod.fst = c.names ∧
    (∀ v n, c.render template fields row = .error (.missingColumn v n) ↔
      c.names[fields.length]? = some v ∧ n = row) ∧
    (c.names.length ≤ fields.length → ∃ (r : Record) (values : String → String),
      Row.toRecord c.names fields c.modifier row = .ok r ∧
      (∀ v ∈ c.names, r.get? v = some (values v)) ∧
      (∀ i v, c.names[i]? = some v → v ∉ c.names.drop (i + 1) →
        ∃ field, fields[i]? = some field ∧ values v = c.modifier.apply field) ∧
      let name := c.names.foldl
        (fun name v => Text.replace name (FileName.reference v) (values v)) c.fileName
      let content := c.filler.placeholders.foldl
        (fun text e => e.2.replaceAll text (values e.1)) template
      FileName.resolve c.fileName c.names r = name ∧ c.filler.fill template r = content ∧
      c.render template fields row =
        if FileName.isSafe name then .ok ⟨Path.join c.outputDir name, content⟩
        else .error (.unsafeFileName name row)) := by
  have hfiller := (sound_of_load h).map_placeholders
  refine ⟨hfiller, fun v n => render_eq_missingColumn_iff, fun hlong => ?_⟩
  obtain ⟨r, hr⟩ := Row.exists_assign c.modifier row .empty hlong
  -- a variable may be listed twice, so its value is known at its last place only
  let values := fun v => (r.get? v).getD ""
  have hplace : ∀ i v, c.names[i]? = some v → v ∉ c.names.drop (i + 1) →
      ∃ field, fields[i]? = some field ∧ r.get? v = some (c.modifier.apply field) :=
    fun i v hi hlast => Row.get?_of_assign hr hi hlast
  have hvalues : ∀ v ∈ c.names, r.get? v = some (values v) := by
    intro v hv
    obtain ⟨i, hi, hlast⟩ := Row.exists_last_place hv
    obtain ⟨field, -, hfield⟩ := hplace i v hi hlast
    simp only [values, hfield, Option.getD_some]
  -- the filler knows no other variables than those of the list
  have hplaceholders : ∀ e ∈ c.filler.placeholders, r.get? e.1 = some (values e.1) := by
    intro e he
    apply hvalues
    rw [← hfiller]
    exact List.mem_map_of_mem he
  have hname := FileName.resolve_eq_foldl hvalues c.fileName
  have hcontent := Filler.fill_eq_foldl_values hplaceholders template
  refine ⟨r, values, hr, hvalues, fun i v hi hlast => ?_, hname, hcontent, ?_⟩
  · obtain ⟨field, hfield, hvalue⟩ := hplace i v hi hlast
    refine ⟨field, hfield, ?_⟩
    simp only [values, hvalue, Option.getD_some]
  · rw [render_of_record hr, hname, hcontent]

/-- A variable that is listed twice takes the field at its second place. -/
theorem render_of_load_of_duplicate :
    let o := { literalOptions with
      variableList := "name, id, name", modifier := Options.defaultModifier }
    ∃ c, (load optionTree o).result = .ok c ∧
      c.render "Dear <name>" ["Ann", "7"] 3 = .error (.missingColumn "name" 3) ∧
      (∃ r, Row.toRecord c.names ["Ann", "7", "Bob"] c.modifier 3 = .ok r ∧
        r.get? "name" = some (c.modifier.apply "Bob")) ∧
      (c.render "Dear <name>" ["Ann", "7", "Bob"] 3).toOption.map Output.target =
        some "out/Bob-7.txt" := by
  intro o
  have h : ((load optionTree o).result.toOption.any fun c =>
      decide (c.names = ["name", "id", "name"] ∧
        (c.render "Dear <name>" ["Ann", "7", "Bob"] 3).toOption.map Output.target =
          some "out/Bob-7.txt")) = true := by
    decide +kernel
  obtain ⟨c, hc, hrun⟩ := exists_of_any_toOption h
  obtain ⟨hnames, hrender⟩ := of_decide_eq_true hrun
  refine ⟨c, hc, ?_, ?_, hrender⟩
  · obtain ⟨-, hmissing, -⟩ := render_of_load hc "Dear <name>" ["Ann", "7"] 3
    exact (hmissing "name" 3).mpr ⟨by rw [hnames]; rfl, rfl⟩
  · obtain ⟨-, -, hlong⟩ := render_of_load hc "Dear <name>" ["Ann", "7", "Bob"] 3
    obtain ⟨r, values, hr, hvalues, hlast, -⟩ := hlong (by rw [hnames]; decide)
    refine ⟨r, hr, ?_⟩
    obtain ⟨field, hfield, hvalue⟩ := hlast 2 "name" (by rw [hnames]; rfl) (by rw [hnames]; decide)
    obtain rfl : "Bob" = field := Option.some.inj hfield
    rw [hvalues "name" (by rw [hnames]; decide), hvalue]

end Config
end MailMerge
