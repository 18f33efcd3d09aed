import MailMerge.Proofs.Csv
import MailMerge.Proofs.Run.Summary

/-!
# How a run fails

A run fails at the first record that it cannot handle: one that cannot be read, a row that cannot be
rendered and is not to be passed over, or a row whose file cannot be written (`Cause`). It has then
handled the records in front of that one as a run over them alone would have (`FailsAt`). Nothing
else is left behind by the failing record but new directories above the file that could not be
written, and what stands behind that record has no effect.

The run over what reading gives up to a record is taken record by record (`rows_take_succ`); that a
run fails at one and only there comes from the point where these runs start to fail
(`exists_rows_take_error`).
-/

namespace MailMerge.Run

open File File.Tree

variable {c : Config} {template : String}

/-! ### One record

What one record does is known by cases (`Step`); here it is read off them when a record ends
the run, and what it then leaves: a write that fails may have made directories, and nothing
else. -/

/-- The places that lie above the file that could not be written. They are the places of paths above
its path, and if that goes no step upwards they lie above its own place. -/
def AboveFailed (t : Tree) (e : Error) (loc : Location) : Prop :=
  ∃ target fault, e = .writeFailed target fault ∧ (∃ p ∈ Path.above target, loc = t.place p) ∧
    (".." ∉ Path.steps target → Below loc (t.place target))

theorem AboveFailed.of_workDir_eq {t u : Tree} (h : u.workDir = t.workDir) {e : Error}
    {loc : Location} (habove : AboveFailed u e loc) : AboveFailed t e loc := by
  obtain ⟨target, fault, he, ⟨p, hp, hloc⟩, hbelow⟩ := habove
  have hplace : ∀ q, u.place q = t.place q := place_of_workDir_eq h
  rw [hplace] at hloc hbelow
  exact ⟨target, fault, he, ⟨p, hp, hloc⟩, hbelow⟩

theorem write_eq_error_iff {t : Tree} {path content : String} {e : Error} :
    (write t path content).2 = .error e ↔
      ∃ fault, e = .writeFailed path fault ∧
        (t.writeWithParents path content.toUTF8).2 = .error fault := by
  unfold write
  rcases t.writeWithParents path content.toUTF8 with ⟨u, fault | done⟩
  · simp [Except.mapError, eq_comm]
  · simp [Except.mapError]

/-- What a write that fails leaves: nothing but new directories above its file. -/
theorem addsDirs_of_write_eq_error {t u : Tree} {fields : List String} {row : Nat} {out : Output}
    {e : Error} (hrender : c.render template fields row = .ok out)
    (h : write t out.target out.content = (u, .error e)) : AddsDirs (AboveFailed t e) t u := by
  obtain ⟨names, hne, -, hsteps, -⟩ := Config.steps_target hrender
  have hnil : Path.steps out.target ≠ [] := by
    rw [hsteps]
    exact List.append_ne_nil_of_right_ne_nil _ hne
  obtain ⟨⟨fault, rfl⟩, hadds⟩ := write_eq_error h
  refine hadds.mono ?_
  rintro loc ⟨p, hp, rfl⟩
  exact ⟨out.target, fault, rfl, ⟨p, hp, rfl⟩, fun hup => below_place_of_mem_above t hnil hup hp⟩

/-- A record ends a run if it is a row that cannot be rendered and is not to be passed over, or a
row whose file cannot be written. -/
theorem Step.error_eq_some_iff {t : Tree} {row : Nat} {fields : List String} {header : Bool}
    {o : Outcome} (h : Step c template t row fields header o) {e : Error} :
    o.error = some e ↔ header = false ∧
      ((c.render template fields row = .error e ∧ c.skipInvalidRows = false) ∨
        ∃ out, c.render template fields row = .ok out ∧
          (write t out.target out.content).2 = .error e) := by
  cases h with
  | header lines => simp
  | skipped lines hrender hskip => simp [hrender, hskip]
  | refused hrender hskip => simp [hrender, hskip]
  | unwritable lines hrender hwrite => simp [hrender, hwrite]
  | written lines hrender hwrite => simp [hrender, hwrite]

/-- A record that ends a run writes no file and passes over no row. -/
theorem Step.of_error {t : Tree} {row : Nat} {fields : List String} {header : Bool} {o : Outcome}
    (h : Step c template t row fields header o) {e : Error} (he : o.error = some e) :
    o.written = [] ∧ o.skipped = [] ∧ AddsDirs (AboveFailed t e) t o.tree := by
  cases h with
  | header lines => cases he
  | skipped lines hrender hskip => cases he
  | refused hrender hskip => exact ⟨rfl, rfl, AddsDirs.refl _ t⟩
  | unwritable lines hrender hwrite =>
      cases he
      exact ⟨rfl, rfl, addsDirs_of_write_eq_error hrender hwrite⟩
  | written lines hrender hwrite => cases he

/-! ### Record by record

The run over the first `n` records is told as if the reading had ended behind them. One
record more is one step more, and behind the last record comes the error of the reading. -/

variable (c template) (t : Tree) (r : Csv.Reading)

/-- Up to the end of the records, one more record is one more step. -/
theorem rows_take_succ {n : Nat} {fields : List String} (h : r.records[n]? = some fields) :
    ∃ header, (header = false ↔ (c.ignoreHeader = true → n ≠ 0)) ∧
      rows c template t (r.take (n + 1)) = (rows c template t (r.take n)).andThen fun u =>
        rowsFrom c template none u header (n + 1) [fields] := by
  obtain ⟨hn, -⟩ := List.getElem?_eq_some_iff.mp h
  refine ⟨c.ignoreHeader && (r.records.take n).isEmpty, ?_, ?_⟩
  · cases n with
    | zero => simp
    | succ m =>
        have hne : r.records ≠ [] := List.ne_nil_of_length_pos (Nat.zero_lt_of_lt hn)
        simp [hne]
  · have hrow : 1 + (r.records.take n).length = n + 1 := by
      rw [List.length_take]
      omega
    rw [r.take_of_le hn, r.take_of_le (Nat.le_of_lt hn), List.take_add_one, h]
    unfold rows
    rw [Option.toList_some, rowsFrom_append, hrow]

/-- Behind the records stands the error that ended the reading. -/
theorem rows_eq_andThen_failure :
    rows c template t r = (rows c template t (r.take r.records.length)).andThen fun u =>
      .still u (r.error.map .data) := by
  have h := rowsFrom_append c template r.error t c.ignoreHeader 1 r.records []
  rw [List.append_nil] at h
  rw [r.take_of_le (Nat.le_refl _), List.take_length]
  exact h

variable {c template t r}

/-- A run that fails within the first records is the run over these. -/
theorem rows_eq_of_take_error {n : Nat} {e : Error}
    (h : (rows c template t (r.take n)).error = some e) :
    rows c template t r = rows c template t (r.take n) := by
  -- all is read, or there are records left that the run does not come to
  rcases Nat.lt_or_ge r.records.length n with hn | hn
  · rw [r.take_of_lt hn]
  · rw [r.take_of_le hn] at h ⊢
    have happend := rowsFrom_append c template r.error t c.ignoreHeader 1 (r.records.take n)
      (r.records.drop n)
    rw [List.take_append_drop] at happend
    exact happend.trans (Outcome.andThen_of_error _ _ h)

/-- A run that fails does so at some record. -/
theorem exists_rows_take_error {e : Error} (h : (rows c template t r).error = some e) :
    ∃ n, (rows c template t (r.take n)).error = none ∧
      (rows c template t (r.take (n + 1))).error = some e := by
  have hfirst : ∀ m, (rows c template t (r.take m)).error = some e →
      ∃ n, (rows c template t (r.take n)).error = none ∧
        (rows c template t (r.take (n + 1))).error = some e := by
    intro m hm
    -- go back from record to record until the run up to there does not fail
    induction m with
    | zero =>
        rw [Csv.Reading.take_zero] at hm
        cases hm
    | succ m ih =>
        cases hbefore : (rows c template t (r.take m)).error with
        | none => exact ⟨m, hbefore, hm⟩
        | some e' =>
            rw [rows_eq_of_take_error hbefore, hbefore] at h
            exact ih (hbefore.trans h)
  apply hfirst (r.records.length + 1)
  rw [r.take_of_lt (Nat.lt_succ_self _)]
  exact h

/-- What the record at which a run fails leaves of the run before it. -/
theorem rows_take_succ_of_error {n : Nat} {e : Error}
    (hbefore : (rows c template t (r.take n)).error = none)
    (he : (rows c template t (r.take (n + 1))).error = some e) :
    (rows c template t (r.take (n + 1))).written = (rows c template t (r.take n)).written ∧
      (rows c template t (r.take (n + 1))).skipped = (rows c template t (r.take n)).skipped ∧
      AddsDirs (AboveFailed t e) (rows c template t (r.take n)).tree
        (rows c template t (r.take (n + 1))).tree := by
  -- a record, the end of the reading, or behind it
  rcases Nat.lt_trichotomy n r.records.length with hn | rfl | hn
  · obtain ⟨header, -, hsucc⟩ := rows_take_succ c template t r (List.getElem?_eq_getElem hn)
    rw [hsucc, Outcome.andThen_of_ok _ _ hbefore] at he ⊢
    obtain ⟨hwritten, hskipped, hadds⟩ := (step_rowsFrom c template _ _ _ _).of_error he
    refine ⟨?_, ?_, hadds.mono fun loc => AboveFailed.of_workDir_eq ?_⟩
    · dsimp only
      rw [hwritten, List.append_nil]
    · dsimp only
      rw [hskipped, List.append_nil]
    · exact workDir_rowsFrom c template _ t _ _ _
  · rw [r.take_of_lt (Nat.lt_succ_self _), rows_eq_andThen_failure,
      Outcome.andThen_of_ok _ _ hbefore]
    exact ⟨List.append_nil _, List.append_nil _, AddsDirs.refl _ _⟩
  · rw [r.take_of_lt hn] at hbefore
    rw [r.take_of_lt (Nat.lt_succ_of_lt hn), hbefore] at he
    cases he

/-! ### The record at which a run fails -/

/-- Why a run fails at the record behind `n` others, when it has come to a tree. -/
inductive Cause (c : Config) (template : String) (data : List UInt8) (failure : Option String)
    (u : Tree) (n : Nat) : Error → Prop
  /-- The record cannot be read, be it the header or a row. -/
  | unreadable {e : Csv.Error} (hread : Csv.Unreadable data failure n)
      (herror : (Csv.read data failure).error = some e) :
      Cause c template data failure u n (.data e)
  /-- The row cannot be rendered, and such rows are not to be passed over. -/
  | refused {fields : List String} {e : Error}
      (hfields : (Csv.read data failure).records[n]? = some fields)
      (hheader : c.ignoreHeader = true → n ≠ 0)
      (hrender : c.render template fields (n + 1) = .error e)
      (hskip : c.skipInvalidRows = false) : Cause c template data failure u n e
  /-- The file of the row cannot be written. -/
  | unwritable {fields : List String} {out : Output} {fault : Fault}
      (hfields : (Csv.read data failure).records[n]? = some fields)
      (hheader : c.ignoreHeader = true → n ≠ 0)
      (hrender : c.render template fields (n + 1) = .ok out)
      (hwrite : (u.writeWithParents out.target out.content.toUTF8).2 = .error fault) :
      Cause c template data failure u n (.writeFailed out.target fault)

/-- Whether a run fails at the record behind `n` others: it goes through these without error, and
from where it has come to there is a cause for it to fail. -/
def FailsAt (c : Config) (template : String) (t : Tree) (data : List UInt8)
    (failure : Option String) (n : Nat) (e : Error) : Prop :=
  (rows c template t ((Csv.read data failure).take n)).error = none ∧
    Cause c template data failure (rows c template t ((Csv.read data failure).take n)).tree n e

variable {data : List UInt8} {failure : Option String}

/-- What can be a cause at a record that was read. -/
theorem cause_iff_of_getElem? {u : Tree} {n : Nat} {fields : List String} {e : Error}
    (hat : (Csv.read data failure).records[n]? = some fields) :
    Cause c template data failure u n e ↔ (c.ignoreHeader = true → n ≠ 0) ∧
      ((c.render template fields (n + 1) = .error e ∧ c.skipInvalidRows = false) ∨
        ∃ out, c.render template fields (n + 1) = .ok out ∧
          (write u out.target out.content).2 = .error e) := by
  constructor
  · intro hcause
    cases hcause with
    | unreadable hread herror =>
        obtain ⟨hn, -⟩ := List.getElem?_eq_some_iff.mp hat
        have hlast := ((Csv.unreadable_iff (Nat.le_of_lt hn)).mp hread).1
        exact absurd hlast (Nat.ne_of_lt hn)
    | refused hfields hheader hrender hskip =>
        rw [hat] at hfields
        cases hfields
        exact ⟨hheader, Or.inl ⟨hrender, hskip⟩⟩
    | unwritable hfields hheader hrender hwrite =>
        rw [hat] at hfields
        cases hfields
        exact ⟨hheader, Or.inr ⟨_, hrender, write_eq_error_iff.mpr ⟨_, rfl, hwrite⟩⟩⟩
  · rintro ⟨hheader, ⟨hrender, hskip⟩ | ⟨out, hrender, hwrite⟩⟩
    · exact .refused hat hheader hrender hskip
    · obtain ⟨fault, rfl, hfault⟩ := write_eq_error_iff.mp hwrite
      exact .unwritable hat hheader hrender hfault

/-- Behind the records that were read, only reading can be a cause. -/
theorem Cause.unreadable_of_length_le {u : Tree} {n : Nat} {e : Error}
    (h : Cause c template data failure u n e) (hn : (Csv.read data failure).records.length ≤ n) :
    ∃ err, (Csv.read data failure).error = some err ∧ e = .data err := by
  have hend : (Csv.read data failure).records[n]? = none := List.getElem?_eq_none hn
  cases h with
  | unreadable hread herror => exact ⟨_, herror, rfl⟩
  | refused hfields hheader hrender hskip =>
      rw [hend] at hfields
      cases hfields
  | unwritable hfields hheader hrender hwrite =>
      rw [hend] at hfields
      cases hfields

/-- A run that has come to a record fails there if and only if there is a cause. -/
theorem rows_take_succ_error_iff {n : Nat} {e : Error}
    (hbefore : (rows c template t ((Csv.read data failure).take n)).error = none) :
    (rows c template t ((Csv.read data failure).take (n + 1))).error = some e ↔
      Cause c template data failure
        (rows c template t ((Csv.read data failure).take n)).tree n e := by
  -- a record, the end of the reading, or behind it
  rcases Nat.lt_trichotomy n (Csv.read data failure).records.length with hn | rfl | hn
  · have hat := List.getElem?_eq_getElem hn
    obtain ⟨header, hheader, hsucc⟩ := rows_take_succ c template t (Csv.read data failure) hat
    rw [hsucc, Outcome.andThen_of_ok _ _ hbefore, cause_iff_of_getElem? hat, ← hheader]
    exact (step_rowsFrom c template _ _ _ _).error_eq_some_iff
  · rw [Csv.Reading.take_of_lt _ (Nat.lt_succ_self _), rows_eq_andThen_failure,
      Outcome.andThen_of_ok _ _ hbefore]
    refine Option.map_eq_some_iff.trans ?_
    constructor
    · rintro ⟨err, herror, rfl⟩
      have hsome : (Csv.read data failure).error.isSome = true := by rw [herror]; rfl
      exact .unreadable ((Csv.unreadable_iff (Nat.le_refl _)).mpr ⟨rfl, hsome⟩) herror
    · intro hcause
      obtain ⟨err, herror, rfl⟩ := hcause.unreadable_of_length_le (Nat.le_refl _)
      exact ⟨err, herror, rfl⟩
  · -- the run before is already the whole run
    rw [Csv.Reading.take_of_lt _ hn] at hbefore ⊢
    rw [Csv.Reading.take_of_lt _ (Nat.lt_succ_of_lt hn), hbefore]
    constructor
    · intro h
      cases h
    · intro hcause
      obtain ⟨err, herror, -⟩ := hcause.unreadable_of_length_le (Nat.le_of_lt hn)
      rw [(rowsFrom_ok hbefore).1] at herror
      cases herror

/-- What the error of a run tells about the record behind `n` others: that it cannot be read, that
it is a row with this number and such rows are not to be passed over, or where its file belongs. -/
def Told (c : Config) (template : String) (data : List UInt8) (failure : Option String) (n : Nat) :
    Error → Prop
  | .data _ => Csv.Unreadable data failure n
  | .missingColumn _ row | .unsafeFileName _ row => row = n + 1 ∧ c.skipInvalidRows = false
  | .writeFailed path _ => ∃ fields out, (Csv.read data failure).records[n]? = some fields ∧
      c.render template fields (n + 1) = .ok out ∧ path = out.target
  | .file _ | .config _ => False

theorem Cause.told {u : Tree} {n : Nat} {e : Error} (h : Cause c template data failure u n e) :
    Told c template data failure n e := by
  cases h with
  | unreadable hread herror => exact hread
  | refused hfields hheader hrender hskip =>
      rcases Config.render_eq_error hrender with ⟨v, rfl⟩ | ⟨name, rfl⟩
      · exact ⟨rfl, hskip⟩
      · exact ⟨rfl, hskip⟩
  | unwritable hfields hheader hrender hwrite => exact ⟨_, _, hfields, hrender, rfl⟩

/-- **A run fails at the first record that gives it a cause.** A run ends with an error if and only
if it comes to a record that gives cause for this error; a record that cannot be read always does.
It then leaves the files and has printed the lines of the run over the records in front; all else
that differs are directories newly made above a file that could not be written. The error tells what
is wrong with the record, and nothing behind the record has any effect. -/
theorem rows_failure (c : Config) (template : String) (t : Tree) (data : List UInt8)
    (failure : Option String) :
    let reading := Csv.read data failure
    let run := rows c template t reading
    (∀ e, run.error = some e ↔ ∃ n, FailsAt c template t data failure n e) ∧
      (∀ n, (rows c template t (reading.take n)).error = none → Csv.Unreadable data failure n →
        ∃ e, FailsAt c template t data failure n (.data e)) ∧
      ∀ n e, FailsAt c template t data failure n e →
        let before := rows c template t (reading.take n)
        (∀ loc content, run.tree.entry? loc = some (.file content) ↔
          before.tree.entry? loc = some (.file content)) ∧
        run.printed = before.printed ∧
        run.written = before.written ∧ run.skipped = before.skipped ∧
        (∀ loc, run.tree.entry? loc = before.tree.entry? loc ∨
          (before.tree.entry? loc = none ∧ run.tree.entry? loc = some .dir ∧
            AboveFailed t e loc)) ∧
        Told c template data failure n e ∧
        ∀ data' failure', (Csv.read data' failure').take (n + 1) = reading.take (n + 1) →
          rows c template t (Csv.read data' failure') = run := by
  intro reading run
  -- the run is the one up to the record at which it fails, in both directions and for all data
  refine ⟨fun e => ⟨fun he => ?_, ?_⟩, fun n hbefore hread => ?_, fun n e hfails => ?_⟩
  · obtain ⟨n, hbefore, hhere⟩ := exists_rows_take_error he
    exact ⟨n, hbefore, (rows_take_succ_error_iff hbefore).mp hhere⟩
  · rintro ⟨n, hbefore, hcause⟩
    have hhere := (rows_take_succ_error_iff hbefore).mpr hcause
    exact (congrArg Outcome.error (rows_eq_of_take_error hhere)).trans hhere
  · obtain ⟨e, herror⟩ := hread.exists_error
    exact ⟨e, hbefore, .unreadable hread herror⟩
  · intro before
    obtain ⟨hbefore, hcause⟩ := hfails
    have hhere := (rows_take_succ_error_iff hbefore).mpr hcause
    have hrun : run = rows c template t (reading.take (n + 1)) := rows_eq_of_take_error hhere
    obtain ⟨hwritten, hskipped, hadds⟩ := rows_take_succ_of_error hbefore hhere
    rw [← hrun] at hwritten hskipped hadds
    refine ⟨hadds.file_iff, ?_, hwritten, hskipped, hadds.change, hcause.told,
      fun data' failure' hagree => ?_⟩
    · rw [Outcome.printed, hwritten]
      rfl
    · rw [← hagree] at hhere hrun
      rw [hrun]
      exact rows_eq_of_take_error hhere

/-- A run that fails at its second record is not told what stands behind it, be it a row or a byte
that is no text. -/
theorem rows_failure_of_unsafeFileName :
    ∃ c, (Config.load sampleTree (sampleOptions "out" false false)).result = .ok c ∧
      let run := rows c "Dear @name" sampleTree (Csv.read "Ann\n../x\nBob".toUTF8.toList none)
      FailsAt c "Dear @name" sampleTree "Ann\n../x\nBob".toUTF8.toList none 1
          (.unsafeFileName "../x.txt" 2) ∧
        rows c "Dear @name" sampleTree (Csv.read ("Ann\n../x\n".toUTF8.toList ++ [255]) none) =
          run := by
  have h : ((Config.load sampleTree (sampleOptions "out" false false)).result.toOption.any
      fun c => decide
        ((rows c "Dear @name" sampleTree
          (Csv.read "Ann\n../x\nBob".toUTF8.toList none)).error =
            some (.unsafeFileName "../x.txt" 2))) = true := by
    decide +kernel
  obtain ⟨c, hc, hrun⟩ := exists_of_any_toOption h
  obtain ⟨hiff, -, hfails⟩ :=
    rows_failure c "Dear @name" sampleTree "Ann\n../x\nBob".toUTF8.toList none
  obtain ⟨n, hn⟩ := (hiff _).mp (of_decide_eq_true hrun)
  obtain ⟨-, -, -, -, -, ⟨hrow, -⟩, hbehind⟩ := hfails n _ hn
  obtain rfl : n = 1 := by omega
  exact ⟨c, hc, hn, hbehind _ none (by decide +kernel)⟩

/-- A run that fails at its first record since no file can be written at a path that ends in `/`. The
path goes by `..`, so a directory is made on its way that is neither above the path's place nor
there. -/
theorem rows_makes_directory_beside_target :
    ∃ c, (Config.load sampleTree { sampleOptions "x/../out" false false with
        fileName := "@name/" }).result = .ok c ∧
      let run := rows c "Dear @name" sampleTree (Csv.read "Ann".toUTF8.toList none)
      run.error = some (.writeFailed "x/../out/Ann/" .isADirectory) ∧
        sampleTree.entry? ["work", "x"] = none ∧ run.tree.entry? ["work", "x"] = some .dir ∧
        sampleTree.place "x/../out/Ann/" = ["work", "out", "Ann"] ∧
        ¬ ["work", "x"] <+: ["work", "out", "Ann"] := by
  have h : ((Config.load sampleTree { sampleOptions "x/../out" false false with
      fileName := "@name/" }).result.toOption.any fun c =>
        let run := rows c "Dear @name" sampleTree (Csv.read "Ann".toUTF8.toList none)
        decide (run.error = some (.writeFailed "x/../out/Ann/" .isADirectory) ∧
          run.tree.entry? ["work", "x"] = some .dir)) = true := by
    decide +kernel
  obtain ⟨c, hc, hrun⟩ := exists_of_any_toOption h
  obtain ⟨herror, hx⟩ := of_decide_eq_true hrun
  exact ⟨c, hc, herror, by decide, hx, by decide +kernel, by decide⟩

end MailMerge.Run
