import MailMerge.Proofs.Run.Course

/-!
# What a run logs

The only warnings of a run are about rows passed over (`isPlain_of_mem_all`). They are told apart
from the warning that closes the log by how they begin.
-/

namespace MailMerge

/-- Whether a line, if it is a warning, is about a row passed over. -/
def Log.Line.IsPlain (l : Log.Line) : Prop :=
  l.level = .warn → ∃ text, l.text = "Skipping row: " ++ text

theorem Log.Line.isPlain_of_ne {l : Log.Line} (h : l.level ≠ .warn) : l.IsPlain :=
  fun hwarn => absurd hwarn h

/-! ### Lines of the options

Loading a configuration is a sequence of steps, each of which may log and may fail. Of the
lines it only matters that none is a warning, so the values that the steps pass on are left
open. -/

/-- Whether a step only logs lines of a kind, whether or not it succeeds. -/
def Logged.Logs {α : Type} (kind : Log.Line → Prop) (x : Logged α) : Prop := ∀ l ∈ x.lines, kind l

namespace Logged.Logs

variable {α β : Type} {kind : Log.Line → Prop}

theorem bind {x : Logged α} {f : α → Logged β} (hx : x.Logs kind) (hf : ∀ a, (f a).Logs kind) :
    (x >>= f).Logs kind := by
  obtain ⟨lines, result⟩ := x
  cases result with
  | error e => exact hx
  | ok a =>
      intro l hl
      exact (List.mem_append.mp hl).elim (hx l) (hf a l)

theorem pure (a : α) : (Pure.pure a : Logged α).Logs kind := nofun

theorem config (r : Except ConfigFault α) : (Logged.config r).Logs kind := nofun

end Logged.Logs

theorem OptionSource.logs_value (t : File.Tree) (text : String) :
    (value t text).Logs Log.Line.IsPlain := by
  unfold value
  cases ofText t text with
  | literal text => exact .pure text
  -- a file that is read is told at another level
  | file path =>
      refine .bind (fun l hl => ?_) fun _ => .config _
      rw [List.mem_singleton.mp hl]
      exact Log.Line.isPlain_of_ne (by simp)

theorem OptionSource.logs_lineValue (t : File.Tree) (text : String) :
    (lineValue t text).Logs Log.Line.IsPlain :=
  .bind (logs_value t text) fun _ => .pure _

theorem Config.logs_load (t : File.Tree) (o : Options) : (load t o).Logs Log.Line.IsPlain := by
  unfold load
  refine .bind (.config _) fun _ => .bind (.config _) fun _ => ?_
  refine .bind (OptionSource.logs_lineValue t _) fun _ => .bind (.config _) fun _ => ?_
  refine .bind (OptionSource.logs_lineValue t _) fun _ => .bind (.config _) fun _ => ?_
  refine .bind (OptionSource.logs_value t _) fun _ => .bind (.config _) fun _ => ?_
  refine .bind (OptionSource.logs_lineValue t _) fun _ => .bind (.config _) fun _ => ?_
  exact .bind (.config _) fun _ => .pure _

theorem Config.isPlain_of_mem_summary {c : Config} {l : Log.Line} (h : l ∈ c.summary) :
    l.IsPlain := by
  obtain ⟨text, -, rfl⟩ := List.mem_map.mp h
  exact Log.Line.isPlain_of_ne (by simp)

/-! ### Lines of the rows

The lines of a run stand one behind the other as its parts do: those of the options, of the
summary and of the output directory, and then those of the rows. -/

theorem Outcome.mem_lines_logging {o : Outcome} {lines : List Log.Line} {l : Log.Line} :
    l ∈ (o.logging lines).lines ↔ l ∈ lines ∨ l ∈ o.lines := List.mem_append

namespace Run

open File

variable {c : Config} {template : String}

theorem isPlain_of_mem_rowsFrom {failure : Option Csv.Error} {t : Tree} {header : Bool} {row : Nat}
    {records : List (List String)} {l : Log.Line}
    (h : l ∈ (rowsFrom c template failure t header row records).lines) : l.IsPlain := by
  induction records generalizing t header row with
  | nil => cases h
  | cons fields rest ih =>
      unfold rowsFrom at h
      split at h
      · rcases List.mem_cons.mp h with rfl | h
        · exact Log.Line.isPlain_of_ne (by simp)
        · exact ih h
      -- a row with an error is told by a warning if it is passed over, and not at all if it
      -- ends the run
      · split at h
        · split at h
          · rcases List.mem_cons.mp h with rfl | h
            · exact fun _ => ⟨_, rfl⟩
            · exact ih h
          · cases h
        · split at h
          · obtain rfl := List.mem_singleton.mp h
            exact Log.Line.isPlain_of_ne (by simp)
          · rcases List.mem_cons.mp h with rfl | h
            · exact Log.Line.isPlain_of_ne (by simp)
            · exact ih h

theorem isPlain_of_mem_file {t : Tree} {place : Location} {l : Log.Line}
    (h : l ∈ (file c template t place).lines) : l.IsPlain := by
  obtain ⟨reading, hrun, -⟩ := exists_file_eq_rows c template t place
  rw [hrun] at h
  exact isPlain_of_mem_rowsFrom h

theorem isPlain_of_mem_linesBefore {t : Tree} {l : Log.Line} (h : l ∈ linesBefore t c) :
    l.IsPlain := by
  rcases List.mem_append.mp h with h | h
  · exact Config.isPlain_of_mem_summary h
  · unfold makeOutputDir at h
    dsimp only at h
    split at h
    · cases h
    · obtain rfl := List.mem_singleton.mp h
      exact Log.Line.isPlain_of_ne (by simp)

/-- The warnings of a run are about rows passed over. -/
theorem isPlain_of_mem_all {t : Tree} {o : Options} {l : Log.Line} (h : l ∈ (all t o).lines) :
    l.IsPlain := by
  have hbefore : ∀ c, l ∈ (Config.load t o).lines ++ linesBefore t c → l.IsPlain := fun c h =>
    (List.mem_append.mp h).elim (Config.logs_load t o l) isPlain_of_mem_linesBefore
  rcases all_cases t o with ⟨e, -, hrun⟩ | ⟨c, -, ⟨u, fault, -, hrun⟩ |
    ⟨u, -, ⟨e, -, hrun⟩ | ⟨template, place, -, hrun⟩⟩⟩
  · rw [hrun, Outcome.mem_lines_logging] at h
    exact h.elim (Config.logs_load t o l) nofun
  · rw [hrun, Outcome.mem_lines_logging] at h
    exact h.elim (hbefore c) nofun
  · rw [hrun, Outcome.mem_lines_logging] at h
    exact h.elim (hbefore c) nofun
  · rw [hrun, Outcome.mem_lines_logging] at h
    exact h.elim (hbefore c) isPlain_of_mem_file

end Run
end MailMerge
