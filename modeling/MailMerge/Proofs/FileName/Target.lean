import MailMerge.Proofs.FileName
import MailMerge.Proofs.File.Place

/-!
# Where a file name leads

Whether a name is refused can be read off its segments, the pieces between its slashes
(`isSafe_eq_false_iff`). A name that is accepted leads some steps down from the output directory and
none upwards (`target_iff`).
-/

namespace MailMerge.FileName

/-- What makes a file name unsafe: it is blank, it starts at the root, one of its segments is `..`,
or none of them names anything. -/
def IsUnsafe (name : String) : Prop :=
  (∀ c ∈ name.toList, Text.isWhite c = true) ∨ name.toList.head? = some '/' ∨
    ['.', '.'] ∈ name.toList.splitOn '/' ∨ ∀ p ∈ name.toList.splitOn '/', p = [] ∨ p = ['.']

/-- The step `..` is a segment `..`. -/
theorem up_mem_steps_iff_pieces {name : String} :
    ".." ∈ Path.steps name ↔ ['.', '.'] ∈ Path.pieces name := by
  rw [up_mem_steps_iff, List.mem_filter, and_iff_left (by decide)]

/-- A path goes no step if none of its segments names a place. -/
theorem steps_eq_nil_iff {name : String} :
    Path.steps name = [] ↔ ∀ p ∈ Path.pieces name, p = [] ∨ p = ['.'] := by
  rw [Path.steps, List.map_eq_nil_iff, List.filter_eq_nil_iff]
  refine forall₂_congr fun p _ => ?_
  simp only [Path.isSegment, decide_eq_true_eq, not_and_or, not_not]

theorem isBlank_iff {name : String} :
    Text.isBlank name = true ↔ ∀ c ∈ name.toList, Text.isWhite c = true := List.all_eq_true

theorem isAbsolute_iff_head? {name : String} :
    Path.isAbsolute name = true ↔ name.toList.head? = some '/' := decide_eq_true_iff

theorem isSafe_eq_false_iff {name : String} : isSafe name = false ↔ IsUnsafe name := by
  have hsafe : isSafe name = true ↔ ¬ IsUnsafe name := by
    rw [isSafe_iff, IsUnsafe, ← isBlank_iff, ← isAbsolute_iff_head?]
    -- segments for steps: the other two conditions are about the text itself
    have hup := not_congr (@up_mem_steps_iff_pieces name)
    have hnone := not_congr (@steps_eq_nil_iff name)
    simp only [not_or, Bool.not_eq_true]
    exact and_congr_right' (and_congr_right' (and_congr hup hnone))
  rw [← Bool.not_eq_true, hsafe, not_not]

/-- **A file name is refused exactly if it is unsafe, and leads below the output directory
otherwise.** The error holds the name and the row as they are. The target of an accepted name is the
name joined to the output directory: it goes the steps of the output directory and then those of the
name, at least one and none of them upwards, so that in every tree it lies strictly below. -/
theorem target_iff (outputDir name : String) (row : Nat) :
    (target outputDir name row = .error (.unsafeFileName name row) ↔ IsUnsafe name) ∧
      (¬ IsUnsafe name →
        target outputDir name row = .ok (Path.join outputDir name) ∧
          Path.steps (Path.join outputDir name) = Path.steps outputDir ++ Path.steps name ∧
          Path.steps name ≠ [] ∧ ".." ∉ Path.steps name ∧
          ∀ t : File.Tree,
            File.Below (t.place outputDir) (t.place (Path.join outputDir name))) := by
  cases hsafe : isSafe name with
  | false =>
      have hunsafe : IsUnsafe name := isSafe_eq_false_iff.mp hsafe
      have hrefused : target outputDir name row = .error (.unsafeFileName name row) := by
        simp [target, hsafe]
      exact ⟨iff_of_true hrefused hunsafe, fun h => absurd hunsafe h⟩
  | true =>
      have haccepted : target outputDir name row = .ok (Path.join outputDir name) := by
        simp [target, hsafe]
      obtain ⟨-, hrel, hup, hne⟩ := isSafe_iff.mp hsafe
      have hsteps : Path.steps (Path.join outputDir name) =
          Path.steps outputDir ++ Path.steps name := Path.steps_join hrel
      have hbelow : ∀ t : File.Tree,
          File.Below (t.place outputDir) (t.place (Path.join outputDir name)) := by
        intro t
        -- none of the steps behind those of the output directory goes up, so they are steps down
        rw [t.place_of_steps_eq_append hsteps (Path.isAbsolute_join hrel) hup]
        exact ⟨List.prefix_append _ _, by simpa using hne⟩
      have hnot : ¬ IsUnsafe name := by
        rw [← isSafe_eq_false_iff, hsafe]
        decide
      refine ⟨iff_of_false ?_ hnot, fun _ => ⟨haccepted, hsteps, hne, hup, hbelow⟩⟩
      rw [haccepted]
      exact nofun

end MailMerge.FileName
