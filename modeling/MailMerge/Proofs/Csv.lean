import MailMerge.Csv

/-!
# What reading comes to

Reading gives records up to the first that cannot be read, and then stops with an error. Which
record that is can be told from the bytes: it has a field that is no text, or the source of the data
fails in it (`Unreadable`, `unreadable_iff`).
-/

namespace MailMerge.Csv

/-- What reading gives up to a number of records. The error counts as the record that could not be
read. -/
def Reading.take (r : Reading) (n : Nat) : Reading :=
  ⟨r.records.take n, if n ≤ r.records.length then none else r.error⟩

/-- Whether the record behind a number of others cannot be read. -/
def Unreadable (data : List UInt8) (failure : Option String) (n : Nat) : Prop :=
  (∃ r, (rawRecords failure.isSome data)[n]? = some r ∧
    ∃ field ∈ r.fields, text? field = none) ∨
  (failure.isSome = true ∧ n = (rawRecords failure.isSome data).length)

/-! ### Up to a record -/

namespace Reading

variable (r : Reading)

@[simp] theorem take_zero : r.take 0 = ⟨[], none⟩ := by simp [take]

theorem take_of_le {n : Nat} (h : n ≤ r.records.length) : r.take n = ⟨r.records.take n, none⟩ := by
  rw [take, if_pos h]

theorem take_of_lt {n : Nat} (h : r.records.length < n) : r.take n = r := by
  rw [take, if_neg (by omega), List.take_of_length_le (by omega)]

end Reading

/-! ### The first record that cannot be read

Records are decoded in order until a field is no text. The number of records that are given
is the place of the one that stopped the reading, so a place up to there is decided by
comparing it with that number. -/

/-- A record is text unless one of its fields is not. -/
theorem decodeFields_eq_error_iff {place : Place} {index : Nat} {fields : List (List UInt8)} :
    (∃ e, decodeFields place index fields = .error e) ↔ ∃ field ∈ fields, text? field = none := by
  induction fields generalizing index with
  | nil => simp [decodeFields]
  | cons field rest ih =>
      have hrest : (∃ e, decodeFields place (index + 1) rest = .error e) ↔
          ∃ field ∈ rest, text? field = none := ih
      simp only [decodeFields, List.mem_cons, exists_eq_or_imp]
      rw [← hrest]
      -- the field itself, or one behind it
      cases htext : text? field with
      | none => simp
      | some s => cases decodeFields place (index + 1) rest <;> simp [Except.map]

/-- Reading raw records stops at the first that is no text, or behind the last one. -/
theorem decode_stops_iff {failure : Option Error} {raw : List Raw} {n : Nat}
    (hn : n ≤ (decode failure raw).records.length) :
    ((∃ r, raw[n]? = some r ∧ ∃ field ∈ r.fields, text? field = none) ∨
        (failure.isSome = true ∧ n = raw.length)) ↔
      n = (decode failure raw).records.length ∧ (decode failure raw).error.isSome = true := by
  induction raw generalizing n with
  | nil =>
      have hzero : n = 0 := Nat.le_zero.mp hn
      simp [decode, hzero]
  | cons r rest ih =>
      unfold decode at hn ⊢
      cases hr : decodeFields r.place 0 r.fields with
      | error e =>
          rw [hr] at hn
          -- the first record stops the reading, so only place zero is left
          have hzero : n = 0 := Nat.le_zero.mp hn
          simpa [hzero] using decodeFields_eq_error_iff.mp ⟨e, hr⟩
      | ok fields =>
          rw [hr] at hn
          have htext : ¬ ∃ field ∈ r.fields, text? field = none := fun h => by
            obtain ⟨e, he⟩ := (@decodeFields_eq_error_iff r.place 0 r.fields).mpr h
            rw [hr] at he
            cases he
          cases n with
          -- the first record is text; another place is a place among the others
          | zero => simpa using htext
          | succ m => simpa using ih (Nat.le_of_succ_le_succ hn)

theorem unreadable_iff {data : List UInt8} {failure : Option String} {n : Nat}
    (hn : n ≤ (read data failure).records.length) :
    Unreadable data failure n ↔
      n = (read data failure).records.length ∧ (read data failure).error.isSome = true := by
  have h := decode_stops_iff hn
  rwa [Option.isSome_map] at h

/-- Reading without error gives each raw record. -/
theorem length_decode_of_error_eq_none {failure : Option Error} {raw : List Raw}
    (h : (decode failure raw).error = none) :
    (decode failure raw).records.length = raw.length := by
  induction raw with
  | nil => rfl
  | cons r rest ih =>
      unfold decode at h ⊢
      cases hr : decodeFields r.place 0 r.fields with
      | error e =>
          rw [hr] at h
          cases h
      | ok fields =>
          rw [hr] at h
          exact congrArg (· + 1) (ih h)

/-- Where there is a record that cannot be read, reading ends with an error. -/
theorem Unreadable.exists_error {data : List UInt8} {failure : Option String} {n : Nat}
    (h : Unreadable data failure n) : ∃ e, (read data failure).error = some e := by
  have hn : n ≤ (rawRecords failure.isSome data).length := by
    rcases h with ⟨r, hr, -⟩ | ⟨-, hn⟩
    · exact Nat.le_of_lt (List.getElem?_eq_some_iff.mp hr).1
    · exact Nat.le_of_eq hn
  cases herror : (read data failure).error with
  | some e => exact ⟨e, rfl⟩
  -- without an error all raw records are given, so the place cannot be behind them
  | none =>
      have hlength : (read data failure).records.length = _ :=
        length_decode_of_error_eq_none herror
      have hsome := ((unreadable_iff (hlength ▸ hn)).mp h).2
      rw [herror] at hsome
      cases hsome

/-! ### Raw records in two parts

Reading in parts is reading at once: an error in the first part ends both, and otherwise the
records of the second part follow those of the first. -/

variable {failure : Option Error} {xs ys : List Raw}

/-- Behind a record that is no text nothing is read. -/
theorem decode_append_of_error {e : Error} (h : (decode none xs).error = some e) :
    decode failure (xs ++ ys) = decode none xs := by
  induction xs with
  | nil => cases h
  | cons r rest ih =>
      rw [List.cons_append]
      unfold decode at h ⊢
      cases hr : decodeFields r.place 0 r.fields with
      | error e => rfl
      | ok fields =>
          rw [hr] at h
          simp only [ih h]

/-- Behind records that are text reading goes on. -/
theorem decode_append_of_ok (h : (decode none xs).error = none) :
    decode failure (xs ++ ys) =
      ⟨(decode none xs).records ++ (decode failure ys).records, (decode failure ys).error⟩ := by
  induction xs with
  | nil => rfl
  | cons r rest ih =>
      rw [List.cons_append]
      unfold decode at h
      rw [decode, decode]
      cases hr : decodeFields r.place 0 r.fields with
      | error e =>
          rw [hr] at h
          cases h
      | ok fields =>
          rw [hr] at h
          simp only [ih h, List.cons_append]

end MailMerge.Csv
