import MailMerge.Proofs.Run.Rows

/-!
# Where a run changes the tree

Whatever the rows hold, a run changes the tree only below the place of the output directory, except
that directories may be made on the way there (`Confined`). The way leads through the ancestors of
the path that names the output directory. If that path goes no step upwards they lie above it; if it
does, as in `x/../out`, they need not, and such a directory is made beside the output directory.
-/

namespace MailMerge.Run

open File File.Tree

/-- A tree that differs from another one only below the output directory and by new directories at
the ancestors of its path. -/
structure Confined (c : Config) (t u : Tree) : Prop where
  workDir_eq : u.workDir = t.workDir
  change : ∀ loc, u.entry? loc = t.entry? loc ∨ Below (t.place c.outputDir) loc ∨
    (t.entry? loc = none ∧ u.entry? loc = some .dir ∧
      ∃ p ∈ Path.ancestors c.outputDir, loc = t.place p)

namespace Confined

variable {c : Config} {t u v : Tree}

theorem refl (c : Config) (t : Tree) : Confined c t t := ⟨rfl, fun _ => Or.inl rfl⟩

theorem trans (h : Confined c t u) (hv : Confined c u v) : Confined c t v := by
  refine ⟨hv.workDir_eq.trans h.workDir_eq, fun loc => ?_⟩
  have hplace : ∀ p, u.place p = t.place p := place_of_workDir_eq h.workDir_eq
  have hchange := hv.change loc
  simp only [hplace] at hchange
  rcases h.change loc with heq | hbelow | ⟨hnone, hdir, hp⟩
  · rw [← heq]
    exact hchange
  · exact Or.inr (Or.inl hbelow)
  · -- a directory that was made is there when the second change begins
    rcases hchange with heq | hbelow | ⟨hnone', -, -⟩
    · exact Or.inr (Or.inr ⟨hnone, heq.trans hdir, hp⟩)
    · exact Or.inr (Or.inl hbelow)
    · rw [hdir] at hnone'
      cases hnone'

end Confined

variable {c : Config} {template : String} {fields : List String} {row : Nat} {out : Output}

/-- The directories above an output file are below the output directory or on the way to it. -/
theorem confined_of_addsDirs (hrender : c.render template fields row = .ok out) {t u : Tree}
    (hadds : AddsDirs (t.IsPlaceOf (Path.above out.target)) t u) :
    Confined c t u := by
  obtain ⟨names, -, hup, hsteps, habs⟩ := Config.steps_target hrender
  refine ⟨hadds.workDir_eq, fun loc => ?_⟩
  rcases hadds.change loc with heq | ⟨hnone, hdir, p, hp, rfl⟩
  · exact Or.inl heq
  · right
    -- each path above the file goes on from the output directory, or is on the way to it
    rcases place_of_mem_above t hsteps habs hup hp with hbelow | hanc
    · exact Or.inl hbelow
    · exact Or.inr ⟨hnone, hdir, hanc⟩

/-- An output file lies below the output directory. -/
theorem below_place_target (hrender : c.render template fields row = .ok out) (t : Tree) :
    Below (t.place c.outputDir) (t.place out.target) := by
  obtain ⟨names, hne, hup, hsteps, habs⟩ := Config.steps_target hrender
  rw [place_of_steps_eq_append t hsteps habs hup]
  exact ⟨List.prefix_append _ _, by simpa using hne⟩

theorem confined_write (hrender : c.render template fields row = .ok out) (t : Tree) :
    Confined c t (write t out.target out.content).1 := by
  rcases write_cases t out.target out.content with ⟨u, fault, h, hadds⟩ | ⟨t₁, u, h, hadds, hw⟩
  · rw [h]
    exact confined_of_addsDirs hrender hadds
  · rw [h]
    apply (confined_of_addsDirs hrender hadds).trans
    obtain ⟨-, hdir, rfl, -⟩ := writeFile_eq_ok hw
    -- the file itself is the only change behind the new directories
    refine ⟨rfl, fun loc => ?_⟩
    by_cases hloc : loc = t₁.place out.target
    · exact Or.inr (Or.inl (hloc ▸ below_place_target hrender t₁))
    · left
      rw [lookup_insert t₁ (ne_nil_of_ne_dir hdir), if_neg hloc]

/-- Without steps upwards, the ancestors of a path lead to places above its own. -/
theorem place_ancestor_isPrefix (t : Tree) {path p : String} (hup : ".." ∉ Path.steps path)
    (hp : p ∈ Path.ancestors path) : t.place p <+: t.place path := by
  obtain ⟨⟨names, hnames⟩, habs⟩ := Path.steps_isPrefix_of_mem_ancestors hp
  have hup' : ".." ∉ names := fun h => hup (hnames ▸ List.mem_append_right _ h)
  rw [place_of_steps_eq_append t hnames.symm habs.symm hup']
  exact List.prefix_append _ _

/-- **A run stays below the output directory.** Each file it writes lies strictly below the place of
the output directory, and so does everything that differs after the run, but for directories newly
made at the ancestors of the path of the output directory. These lie above it if the path goes no
step upwards. -/
theorem rows_confined (c : Config) (template : String) (t : Tree) (data : List UInt8)
    (failure : Option String) :
    let run := rows c template t (Csv.read data failure)
    (∀ path ∈ run.written, Below (t.place c.outputDir) (t.place path)) ∧
      ∀ loc, run.tree.entry? loc = t.entry? loc ∨ Below (t.place c.outputDir) loc ∨
        (t.entry? loc = none ∧ run.tree.entry? loc = some .dir ∧
          (∃ p ∈ Path.ancestors c.outputDir, loc = t.place p) ∧
          (".." ∉ Path.steps c.outputDir → loc <+: t.place c.outputDir)) := by
  intro run
  have hconfined : Confined c t run.tree :=
    rowsFrom_rel c template _ (Confined.refl c) (fun _ _ _ => Confined.trans)
      (fun t _ _ _ hrender => confined_write hrender t) t _ _ _
  refine ⟨fun path hpath => ?_, fun loc => ?_⟩
  · obtain ⟨fields, row, out, hrender, rfl⟩ :=
      exists_render_of_mem_written c template _ t _ _ _ hpath
    exact below_place_target hrender t
  · rcases hconfined.change loc with heq | hbelow | ⟨hnone, hdir, p, hp, rfl⟩
    -- of a whole run all changes are of these kinds, and only the last of them can be outside
    · exact Or.inl heq
    · exact Or.inr (Or.inl hbelow)
    · exact Or.inr (Or.inr ⟨hnone, hdir, ⟨p, hp, rfl⟩, fun hup => place_ancestor_isPrefix t hup hp⟩)

/-- A run whose output directory is named by a path with `..` makes a directory beside it, neither
below the output directory nor above it. -/
theorem rows_makes_directory_beside_outputDir :
    ∃ c, (Config.load sampleTree (sampleOptions "x/../out" false false)).result = .ok c ∧
      let run := rows c "Dear @name" sampleTree (Csv.read "Ann".toUTF8.toList none)
      sampleTree.entry? ["work", "x"] = none ∧ run.tree.entry? ["work", "x"] = some .dir ∧
        sampleTree.place c.outputDir = ["work", "out"] ∧
        ¬ Below ["work", "out"] ["work", "x"] ∧ ¬ ["work", "x"] <+: ["work", "out"] := by
  have h : ((Config.load sampleTree (sampleOptions "x/../out" false false)).result.toOption.any
      fun c => decide
        ((rows c "Dear @name" sampleTree (Csv.read "Ann".toUTF8.toList none)).tree.entry?
          ["work", "x"] = some .dir ∧ sampleTree.place c.outputDir = ["work", "out"])) = true := by
    decide +kernel
  obtain ⟨c, hc, hrun⟩ := exists_of_any_toOption h
  obtain ⟨hx, hplace⟩ := of_decide_eq_true hrun
  exact ⟨c, hc, by decide, hx, hplace, by decide, by decide⟩

end MailMerge.Run
