import MailMerge.Proofs.File.Write
import MailMerge.Proofs.Modifier
import MailMerge.Proofs.Render
import MailMerge.Run.Rows

/-!
# One record after the other

A run over some records and then others is the run over the first, followed by the run over the
others from the tree and the row number it has come to (`rowsFrom_append`). What one record can do
to a run is said once, by the five cases of `Step`; whatever holds of a whole run is shown from
them. Here that is done for relations between trees: what each write keeps, a run keeps
(`rowsFrom_rel`).
-/

namespace MailMerge

namespace Outcome

variable (o : Outcome) (next : File.Tree → Outcome)

@[simp] theorem still_andThen (t : File.Tree) : (still t none).andThen next = next t := by
  simp [still, andThen]

theorem andThen_of_error {e : Error} (h : o.error = some e) : o.andThen next = o := by
  simp [andThen, h]

theorem andThen_of_ok (h : o.error = none) :
    o.andThen next = ⟨(next o.tree).tree, o.written ++ (next o.tree).written,
      o.skipped ++ (next o.tree).skipped, o.lines ++ (next o.tree).lines,
      (next o.tree).error⟩ := by
  simp [andThen, h]

theorem andThen_congr (next' : File.Tree → Outcome)
    (h : o.error = none → next o.tree = next' o.tree) : o.andThen next = o.andThen next' := by
  cases he : o.error with
  | some e => rw [andThen_of_error o next he, andThen_of_error o next' he]
  | none => rw [andThen_of_ok o next he, andThen_of_ok o next' he, h he]

@[simp] theorem andThen_still : (o.andThen fun u => still u none) = o := by
  cases he : o.error with
  | some e => exact andThen_of_error o _ he
  | none => simp [andThen_of_ok o _ he, still, ← he]

theorem error_eq_none_of_andThen (h : (o.andThen next).error = none) : o.error = none := by
  cases he : o.error with
  | none => rfl
  | some e =>
      rw [andThen_of_error o next he, he] at h
      cases h

theorem logging_andThen (lines : List Log.Line) :
    (o.logging lines).andThen next = (o.andThen next).logging lines := by
  unfold andThen logging
  cases h : o.error <;> simp [h]

theorem skipping_andThen (row : Nat) :
    (o.skipping row).andThen next = (o.andThen next).skipping row := by
  unfold andThen skipping
  cases h : o.error <;> simp [h]

theorem writing_andThen (path : String) :
    (o.writing path).andThen next = (o.andThen next).writing path := by
  unfold andThen writing
  cases h : o.error <;> simp [h]

end Outcome

namespace Run

variable (c : Config) (template : String) (failure : Option Csv.Error)

/-! ### Running on

What the parts of an outcome are put together by is told apart from what a run does: an
error ends it, and all else is put behind one another. A run over two lists of records is
two runs put together so. -/

/-- Running over records in two parts is running over them at once. -/
theorem rowsFrom_append (t : File.Tree) (header : Bool) (row : Nat) (xs ys : List (List String)) :
    rowsFrom c template failure t header row (xs ++ ys) =
      (rowsFrom c template none t header row xs).andThen fun u =>
        rowsFrom c template failure u (header && xs.isEmpty) (row + xs.length) ys := by
  -- only the first record of all can be the header, so behind a record the flag is down
  induction xs generalizing t header row with
  | nil => simp [rowsFrom]
  | cons fields xs ih =>
      have hrow : row + (fields :: xs).length = row + 1 + xs.length := by
        rw [List.length_cons]
        omega
      rw [List.cons_append, rowsFrom, rowsFrom, hrow, List.isEmpty_cons, Bool.and_false]
      cases header with
      | true =>
          rw [if_pos rfl, if_pos rfl, Outcome.logging_andThen, ih]
          rfl
      | false =>
          rw [if_neg Bool.false_ne_true, if_neg Bool.false_ne_true]
          cases c.render template fields row with
          | error e =>
              dsimp only
              split
              · rw [Outcome.logging_andThen, Outcome.skipping_andThen, ih]
                rfl
              · rfl
          | ok out =>
              dsimp only
              rcases write t out.target out.content with ⟨u, e | done⟩
              · rfl
              · dsimp only
                rw [Outcome.logging_andThen, Outcome.writing_andThen, ih]
                rfl

/-! ### What one record does

There is one case of `Step` for each way a record can come out, with the conditions under
which it does. What is shown of a run is shown of these cases, and then by induction on the
records. -/

/-- Writing an output file fails after directories were added, or it adds directories and then puts
the file in its place. -/
theorem write_cases (t : File.Tree) (path content : String) :
    (∃ u fault, write t path content = (u, .error (.writeFailed path fault)) ∧
      File.Tree.AddsDirs (t.IsPlaceOf (Path.above path)) t u) ∨
    ∃ t₁ u, write t path content = (u, .ok ()) ∧
      File.Tree.AddsDirs (t.IsPlaceOf (Path.above path)) t t₁ ∧
      t₁.writeFile path content.toUTF8 = .ok u := by
  unfold write
  rcases t.writeWithParents_cases path content.toUTF8 with
    ⟨u, e, h, hadds⟩ | ⟨t₁, u, h, hadds, hw⟩
  · exact Or.inl ⟨u, e, by rw [h]; rfl, hadds⟩
  · exact Or.inr ⟨t₁, u, by rw [h]; rfl, hadds, hw⟩

theorem write_eq_ok {t u : File.Tree} {path content : String}
    (h : write t path content = (u, .ok ())) :
    ∃ t₁, File.Tree.AddsDirs (t.IsPlaceOf (Path.above path)) t t₁ ∧
      t₁.writeFile path content.toUTF8 = .ok u := by
  rcases write_cases t path content with ⟨v, fault, hw, -⟩ | ⟨t₁, v, hw, hadds, hfile⟩
  · rw [hw] at h
    cases h
  · rw [hw] at h
    cases h
    exact ⟨t₁, hadds, hfile⟩

/-- After a write the file is in its place, and elsewhere there are at most new directories. -/
theorem write_entry {t u : File.Tree} {path content : String}
    (h : write t path content = (u, .ok ())) (loc : File.Location) :
    if loc = t.place path then u.entry? loc = some (.file content.toUTF8)
    else u.entry? loc = t.entry? loc ∨ (t.entry? loc = none ∧ u.entry? loc = some .dir) := by
  obtain ⟨t₁, hadds, hfile⟩ := write_eq_ok h
  obtain ⟨-, hdir, rfl, -⟩ := File.Tree.writeFile_eq_ok hfile
  rw [File.Tree.lookup_insert t₁ (File.Tree.ne_nil_of_ne_dir hdir), hadds.place_eq]
  split
  · rfl
  · rcases hadds.change loc with heq | ⟨hnone, hnew, -⟩
    · exact Or.inl heq
    · exact Or.inr ⟨hnone, hnew⟩

theorem write_eq_error {t u : File.Tree} {path content : String} {e : Error}
    (h : write t path content = (u, .error e)) :
    (∃ fault, e = .writeFailed path fault) ∧
      File.Tree.AddsDirs (t.IsPlaceOf (Path.above path)) t u := by
  rcases write_cases t path content with ⟨v, fault, hw, hadds⟩ | ⟨t₁, v, hw, -, -⟩
  · rw [hw] at h
    cases h
    exact ⟨⟨fault, rfl⟩, hadds⟩
  · rw [hw] at h
    cases h

/-- What a record does to a run: what it leaves, by whether it is the header, whether it can be
rendered, and whether its file can be written. -/
inductive Step (c : Config) (template : String) (t : File.Tree) (row : Nat) (fields : List String) :
    Bool → Outcome → Prop
  | header (lines : List Log.Line) : Step c template t row fields true ⟨t, [], [], lines, none⟩
  /-- A row with an error is passed over. -/
  | skipped {e : Error} (lines : List Log.Line) (hrender : c.render template fields row = .error e)
      (hskip : c.skipInvalidRows = true) :
      Step c template t row fields false ⟨t, [], [row], lines, none⟩
  /-- A row with an error ends the run. -/
  | refused {e : Error} (hrender : c.render template fields row = .error e)
      (hskip : c.skipInvalidRows = false) :
      Step c template t row fields false ⟨t, [], [], [], some e⟩
  | unwritable {out : Output} {u : File.Tree} {e : Error} (lines : List Log.Line)
      (hrender : c.render template fields row = .ok out)
      (hwrite : write t out.target out.content = (u, .error e)) :
      Step c template t row fields false ⟨u, [], [], lines, some e⟩
  | written {out : Output} {u : File.Tree} (lines : List Log.Line)
      (hrender : c.render template fields row = .ok out)
      (hwrite : write t out.target out.content = (u, .ok ())) :
      Step c template t row fields false ⟨u, [out.target], [], lines, none⟩

/-- A run over one record is a step. -/
theorem step_rowsFrom (t : File.Tree) (header : Bool) (row : Nat) (fields : List String) :
    Step c template t row fields header (rowsFrom c template none t header row [fields]) := by
  cases header with
  | true => exact .header _
  | false =>
      rw [rowsFrom, if_neg Bool.false_ne_true]
      cases hrender : c.render template fields row with
      | error e =>
          dsimp only
          cases hskip : c.skipInvalidRows with
          | true =>
              rw [if_pos ⟨Config.isRowError_of_render_eq_error hrender, rfl⟩]
              exact .skipped _ hrender hskip
          | false =>
              rw [if_neg (by simp)]
              exact .refused hrender hskip
      | ok out =>
          dsimp only
          rcases hwrite : write t out.target out.content with ⟨u, e | done⟩
          · exact .unwritable _ hrender hwrite
          · exact .written _ hrender hwrite

/-- A run takes a step, and goes on with the other records unless an error ended it. -/
theorem exists_step (t : File.Tree) (header : Bool) (row : Nat) (fields : List String)
    (rest : List (List String)) :
    ∃ o, Step c template t row fields header o ∧
      rowsFrom c template failure t header row (fields :: rest) =
        o.andThen fun u => rowsFrom c template failure u false (row + 1) rest := by
  refine ⟨_, step_rowsFrom c template t header row fields, ?_⟩
  simpa using rowsFrom_append c template failure t header row [fields] rest

/-! ### What each write keeps

In all cases but two the tree stays as it is; in these it is what a write has left of it, be
it with an error or without. So what holds between trees before and after a write holds over
a run. -/

/-- A relation between trees that each write of an output file keeps is kept by a run. -/
theorem rowsFrom_rel {R : File.Tree → File.Tree → Prop} (hrefl : ∀ t, R t t)
    (htrans : ∀ t u v, R t u → R u v → R t v)
    (hwrite : ∀ t fields row out, c.render template fields row = .ok out →
      R t (write t out.target out.content).1)
    (t : File.Tree) (header : Bool) (row : Nat) (records : List (List String)) :
    R t (rowsFrom c template failure t header row records).tree := by
  induction records generalizing t header row with
  | nil => exact hrefl t
  | cons fields rest ih =>
      obtain ⟨o, hstep, hrun⟩ := exists_step c template failure t header row fields rest
      rw [hrun]
      cases hstep with
      | header lines => exact ih t false (row + 1)
      | skipped lines hrender hskip => exact ih t false (row + 1)
      | refused hrender hskip => exact hrefl t
      | unwritable lines hrender hw =>
          have h := hwrite t fields row _ hrender
          rw [hw] at h
          exact h
      -- the others are gone through from the tree that the write leaves
      | written lines hrender hw =>
          have h := hwrite t fields row _ hrender
          rw [hw] at h
          exact htrans _ _ _ h (ih _ false (row + 1))

theorem workDir_write (t : File.Tree) (path content : String) :
    (write t path content).1.workDir = t.workDir := by
  rcases write_cases t path content with ⟨u, fault, h, hadds⟩ | ⟨t₁, u, h, hadds, hw⟩
  · rw [h]
    exact hadds.workDir_eq
  · obtain ⟨-, -, rfl, -⟩ := File.Tree.writeFile_eq_ok hw
    rw [h]
    exact hadds.workDir_eq

/-- A run stays in its working directory. -/
theorem workDir_rowsFrom (t : File.Tree) (header : Bool) (row : Nat)
    (records : List (List String)) :
    (rowsFrom c template failure t header row records).tree.workDir = t.workDir :=
  rowsFrom_rel c template failure (R := fun t u => u.workDir = t.workDir) (fun _ => rfl)
    (fun _ _ _ h h' => h'.trans h) (fun t _ _ out _ => workDir_write t out.target out.content)
    t header row records

/-- Each file written is the file of some row. -/
theorem exists_render_of_mem_written (t : File.Tree) (header : Bool) (row : Nat)
    (records : List (List String)) {path : String}
    (hpath : path ∈ (rowsFrom c template failure t header row records).written) :
    ∃ fields n out, c.render template fields n = .ok out ∧ out.target = path := by
  induction records generalizing t header row with
  | nil => cases hpath
  | cons fields rest ih =>
      obtain ⟨o, hstep, hrun⟩ := exists_step c template failure t header row fields rest
      rw [hrun] at hpath
      cases hstep with
      | header lines => exact ih t false (row + 1) hpath
      | skipped lines hrender hskip => exact ih t false (row + 1) hpath
      | refused hrender hskip => cases hpath
      | unwritable lines hrender hw => cases hpath
      | written lines hrender hw =>
          rcases List.mem_cons.mp hpath with rfl | hpath
          · exact ⟨fields, row, _, hrender, rfl⟩
          · exact ih _ false (row + 1) hpath

/-! ### A run to look at -/

/-- A working directory with a template and a data file. -/
def sampleTree : File.Tree :=
  ⟨[(["work"], .dir), (["work", "template"], .file "Dear @name".toUTF8),
    (["work", "data"], .file "Ann".toUTF8)], ["work"]⟩

/-- Options that name the output files by the first column. -/
def sampleOptions (outputDir : String) (ignoreHeader skipInvalidRows : Bool) : Options where
  template := "template"
  data := "data"
  variableList := "name"
  fileName := "@name.txt"
  modifier := Options.defaultModifier
  outputDir := outputDir
  placeholder := Options.defaultPlaceholder
  ignoreHeader := ignoreHeader
  skipInvalidRows := skipInvalidRows
  verbose := false

end Run
end MailMerge
