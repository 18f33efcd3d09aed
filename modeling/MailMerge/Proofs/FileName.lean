import MailMerge.FileName
import MailMerge.Proofs.Path

/-!
# Safe names

What makes a file name safe, said by its steps: a name that is not blank is safe exactly when it is
relative, goes no step upwards and goes some step at all.
-/

namespace MailMerge.FileName

theorem isDownward_ofPiece {p : List Char} :
    isDownward (Path.Component.ofPiece p) = true ↔ p ≠ ['.', '.'] := by
  unfold Path.Component.ofPiece
  split <;> simp [*, isDownward]

theorem up_mem_steps_iff {name : String} :
    ".." ∈ Path.steps name ↔ ['.', '.'] ∈ (Path.pieces name).filter Path.isSegment := by
  unfold Path.steps
  constructor
  · intro h
    obtain ⟨p, hp, he⟩ := List.mem_map.mp h
    -- a step is told by the text of its segment
    have : p = ['.', '.'] := by simpa using congrArg String.toList he
    exact this ▸ hp
  · intro h
    exact List.mem_map.mpr ⟨['.', '.'], h, rfl⟩

/-- All steps of a name stay below if it is relative and no step is `..`. -/
theorem all_isDownward_iff {name : String} :
    (Path.components name).all isDownward = true ↔
      Path.isAbsolute name = false ∧ ".." ∉ Path.steps name := by
  have hsegs :
      (((Path.pieces name).filter Path.isSegment).map Path.Component.ofPiece).all isDownward =
        true ↔ ".." ∉ Path.steps name := by
    rw [up_mem_steps_iff, List.all_map, List.all_eq_true]
    constructor
    · intro h hup
      exact isDownward_ofPiece.mp (h _ hup) rfl
    · intro h p hp
      exact isDownward_ofPiece.mpr fun e => h (e ▸ hp)
  unfold Path.components
  dsimp only
  rw [List.all_append, Bool.and_eq_true, hsegs]
  -- the only other component is the one an absolute name begins with, or a `.` in front
  cases habs : Path.isAbsolute name with
  | true => simp [isDownward]
  | false =>
      by_cases hdot : (Path.pieces name).head? = some ['.'] <;> simp [hdot, isDownward]

/-- A name that stays below leads to something named if it goes a step. -/
theorem fileName?_isSome_iff {name : String} (hup : ".." ∉ Path.steps name) :
    (Path.fileName? name).isSome = true ↔ Path.steps name ≠ [] := by
  rw [up_mem_steps_iff] at hup
  unfold Path.fileName? Path.components Path.steps
  dsimp only
  cases hs : (Path.pieces name).filter Path.isSegment using List.reverseRecOn with
  | nil =>
      cases Path.isAbsolute name with
      | true => simp
      | false => by_cases hdot : (Path.pieces name).head? = some ['.'] <;> simp [hdot]
  | append_singleton init last _ =>
      -- the last segment is one of the steps, so it is not `..`
      have hlast : last ≠ ['.', '.'] := by
        rintro rfl
        simp [hs] at hup
      simp [Path.Component.ofPiece, hlast]

theorem isSafe_iff {name : String} :
    isSafe name = true ↔ Text.isBlank name = false ∧ Path.isAbsolute name = false ∧
      ".." ∉ Path.steps name ∧ Path.steps name ≠ [] := by
  -- some segment is a component
  have hempty : Path.steps name ≠ [] → (Path.components name).isEmpty = false := by
    intro h
    have hsegs : (Path.pieces name).filter Path.isSegment ≠ [] := by
      simpa [Path.steps] using h
    simp [Path.components, hsegs]
  unfold isSafe
  dsimp only
  simp only [Bool.and_eq_true, Bool.not_eq_true', all_isDownward_iff]
  constructor
  · rintro ⟨⟨⟨hblank, -⟩, habs, hup⟩, hname⟩
    exact ⟨hblank, habs, hup, (fileName?_isSome_iff hup).mp hname⟩
  · rintro ⟨hblank, habs, hup, hne⟩
    exact ⟨⟨⟨hblank, hempty hne⟩, habs, hup⟩, (fileName?_isSome_iff hup).mpr hne⟩

end MailMerge.FileName
