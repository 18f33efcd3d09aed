import MailMerge.Modifier
import MailMerge.Proofs.Record
import Mathlib.Data.List.Forall2

/-!
# Compiled rules

A modifier is made from rules if every pattern compiles, and it has these rules then, with their
texts, in this order (`exists_ofRecord`). If patterns do not compile, the first of them is reported
(`of_mapM_eq_error`).
-/

namespace MailMerge

theorem exists_of_isOk {ε α : Type} {r : Except ε α} (h : r.isOk = true) : ∃ a, r = .ok a := by
  cases r with
  | ok a => exact ⟨a, rfl⟩
  | error => cases h

/-- What can be computed of a result that is no error holds of that result. -/
theorem exists_of_any_toOption {α ε : Type} {r : Except ε α} {p : α → Bool}
    (h : r.toOption.any p = true) : ∃ a, r = .ok a ∧ p a = true := by
  cases r with
  | error e => cases h
  | ok a => exact ⟨a, rfl, h⟩

/-! ### Steps for the members of a list

Rules, placeholders and names are all compiled by going through a list until a step fails.
What that gives is stated once: a result for each member, or the error of the first one that
fails. -/

section MapM

variable {α β ε : Type} {f : α → Except ε β} {xs : List α}

theorem mapM_eq_ok_iff {ys : List β} :
    xs.mapM f = .ok ys ↔ List.Forall₂ (fun x y => f x = .ok y) xs ys := by
  induction xs generalizing ys with
  | nil =>
      rw [List.mapM_nil, List.forall₂_nil_left_iff]
      exact ⟨fun h => (Except.ok.inj h).symm, fun h => congrArg Except.ok h.symm⟩
  | cons x xs ih =>
      rw [List.mapM_cons, List.forall₂_cons_left_iff]
      constructor
      · intro h
        cases hx : f x with
        | error e => rw [hx] at h; cases h
        | ok y =>
            cases hxs : xs.mapM f with
            | error e => rw [hx, hxs] at h; cases h
            | ok ys' =>
                rw [hx, hxs] at h
                exact ⟨y, ys', rfl, ih.mp hxs, (Except.ok.inj h).symm⟩
      · rintro ⟨y, ys', hx, hxs, rfl⟩
        rw [hx, ih.mpr hxs]
        rfl

theorem exists_of_mapM_eq_ok {x : α} {ys : List β} (h : xs.mapM f = .ok ys) (hx : x ∈ xs) :
    ∃ y, f x = .ok y := by
  induction mapM_eq_ok_iff.mp h with
  | nil => cases hx
  | cons hstep hrest ih =>
      -- the member is the first one, or one of the others
      rcases List.mem_cons.mp hx with rfl | hx
      · exact ⟨_, hstep⟩
      · exact ih (mapM_eq_ok_iff.mpr hrest) hx

/-- The error is that of the first member whose step fails. -/
theorem of_mapM_eq_error {e : ε} (h : xs.mapM f = .error e) :
    ∃ (i : Nat) (x : α), xs[i]? = some x ∧ f x = .error e ∧
      ∀ j < i, ∀ x', xs[j]? = some x' → ∃ y, f x' = .ok y := by
  induction xs with
  | nil => cases h
  | cons x xs ih =>
      rw [List.mapM_cons] at h
      cases hx : f x with
      | error e' =>
          rw [hx] at h
          -- nothing stands before the first member
          exact ⟨0, x, rfl, hx.trans (congrArg Except.error (Except.error.inj h)), nofun⟩
      | ok y =>
          cases hxs : xs.mapM f with
          | ok ys => rw [hx, hxs] at h; cases h
          | error e' =>
              rw [hx, hxs] at h
              obtain ⟨i, x', hi, hfails, hbefore⟩ :=
                ih (hxs.trans (congrArg Except.error (Except.error.inj h)))
              refine ⟨i + 1, x', hi, hfails, fun j hj x'' hx'' => ?_⟩
              -- before the one that fails stand the first member, whose step gave `y`, and
              -- those of the rest
              cases j with
              | zero =>
                  obtain rfl : x = x'' := Option.some.inj hx''
                  exact ⟨y, hx⟩
              | succ j => exact hbefore j (Nat.lt_of_succ_lt_succ hj) x'' hx''

end MapM

/-! ### Patterns

An error of a pattern becomes an error of the options that names the pattern; a compiled one
is passed on. -/

theorem compilePattern_eq_ok_iff {pattern : String} {re : Regex} :
    compilePattern pattern = .ok re ↔ Regex.compile? pattern = .ok re := by
  unfold compilePattern
  cases Regex.compile? pattern with
  | ok => constructor <;> (rintro ⟨⟩; rfl)
  | error => exact ⟨nofun, nofun⟩

theorem compilePattern_eq_error_iff {pattern : String} {fault : ConfigFault} :
    compilePattern pattern = .error fault ↔
      ∃ e, Regex.compile? pattern = .error e ∧ fault = .badPattern pattern e := by
  unfold compilePattern
  cases Regex.compile? pattern with
  | ok => exact ⟨nofun, nofun⟩
  | error e =>
      constructor
      · intro h
        exact ⟨e, rfl, (Except.error.inj h).symm⟩
      · rintro ⟨_, ⟨⟩, rfl⟩
        rfl

/-- A compiled pattern keeps its text. -/
theorem Regex.source_of_compile? {pattern : String} {re : Regex} (h : compile? pattern = .ok re) :
    re.source = pattern := by
  obtain ⟨p, -, -, rfl⟩ := eq_of_compile? h
  rfl

/-! ### Rules -/

namespace Modifier

/-- The rules of a modifier as they were written. -/
def written (m : Modifier) : List (String × String) := m.rules.map fun rule => (rule.1.source, rule.2)

theorem compileRules_eq_mapM (rules : List (String × String)) :
    compileRules rules = rules.mapM fun rule => return (← compilePattern rule.1, rule.2) := by
  induction rules with
  | nil => rfl
  | cons rule rest ih =>
      rw [compileRules, List.mapM_cons, ih]
      cases compilePattern rule.1 <;> rfl

theorem exists_compileRules {rules : List (String × String)}
    (h : ∀ rule ∈ rules, ∃ re, Regex.compile? rule.1 = .ok re) :
    ∃ compiled, compileRules rules = .ok compiled ∧
      compiled.map (fun rule => (rule.1.source, rule.2)) = rules := by
  induction rules with
  | nil => exact ⟨[], rfl, rfl⟩
  | cons rule rest ih =>
      obtain ⟨⟨re, hre⟩, hrest⟩ := List.forall_mem_cons.mp h
      obtain ⟨compiled, hcompiled, hwritten⟩ := ih hrest
      refine ⟨(re, rule.2) :: compiled, ?_, ?_⟩
      · rw [compileRules, compilePattern_eq_ok_iff.mpr hre, hcompiled]
        rfl
      · rw [List.map_cons, hwritten, Regex.source_of_compile? hre]

/-- Rules whose patterns all compile make a modifier that has these rules in order. -/
theorem exists_ofRecord {rules : Record}
    (h : ∀ rule ∈ rules.entries, ∃ re, Regex.compile? rule.1 = .ok re) :
    ∃ m, ofRecord rules = .ok m ∧ m.written = rules.entries := by
  obtain ⟨compiled, hcompiled, hwritten⟩ := exists_compileRules h
  exact ⟨⟨compiled⟩, by rw [ofRecord, hcompiled]; rfl, hwritten⟩

end Modifier
end MailMerge
