import MailMerge.Proofs.Json.Number
import MailMerge.Proofs.Json.Text

/-!
# Values of the wrong kind

Where another kind of value is needed the reader tells what it has found. It does so for every
beginning of a value that shows the kind (`readFound_eq_ok_iff`): a scalar to its end, or the opening
bracket of a collection. Of all values that leaves out numbers that are out of range, and texts with
half of a surrogate pair alone (`Value.cases`).
-/

namespace MailMerge.Json

/-- Whether a fault lies in the kind of a value. -/
def Fault.isWrongType : Fault → Bool
  | .wrongType .. => true
  | _ => false

/-- Whether the reader finds a number, which is given behind its sign, out of range. -/
def OutOfRange (isNegative : Bool) (cs : List Char) : Prop :=
  ∃ left, readNumber isNegative cs = stop .numberOutOfRange left

/-- A text that begins with a number that is out of range. -/
inductive TooLarge : List Char → Prop
  | number {cs rest} : Magnitude cs rest → OutOfRange false cs → TooLarge cs
  | negative {cs rest} : Magnitude cs rest → OutOfRange true cs → TooLarge ('-' :: cs)

/-- A text that begins like a value, as far as it takes to tell the kind. -/
inductive Start : List Char → Prop
  | null {rest} : Start ('n' :: 'u' :: 'l' :: 'l' :: rest)
  | true {rest} : Start ('t' :: 'r' :: 'u' :: 'e' :: rest)
  | false {rest} : Start ('f' :: 'a' :: 'l' :: 's' :: 'e' :: rest)
  | number {cs rest} : Magnitude cs rest → ¬ OutOfRange false cs → Start cs
  | negative {cs rest} : Magnitude cs rest → ¬ OutOfRange true cs → Start ('-' :: cs)
  | text {cs rest} : Spelled cs rest → Start ('"' :: cs)
  | array {cs} : Start ('[' :: cs)
  | object {cs} : Start ('{' :: cs)

variable {cs rest : List Char}

/-! ### What is found

What is found is a scalar read to its end or an opening bracket. The first character decides
which reader is called, so the beginnings of `Start` are the branches of `readFound`, and
reading finds something exactly if that reader comes to its end. -/

theorem readWord_eq_ok_iff {word : List Char} : readWord word cs = .ok rest ↔ cs = word ++ rest := by
  induction word generalizing cs with
  | nil => simp [readWord]
  | cons w ws ih =>
      cases cs with
      | nil => simp [readWord, stop]
      | cons c cs =>
          by_cases hc : c = w
          · simp [readWord, hc, ih]
          · simp [readWord, hc, stopNext]

theorem Magnitude.exists_cons (h : Magnitude cs rest) :
    ∃ d ds, cs = d :: ds ∧ d.isDigit = true := by
  obtain ⟨a, b, hwhole, -⟩ := h
  cases hwhole with
  | zero => exact ⟨_, _, rfl, rfl⟩
  | digits _ hds =>
      obtain ⟨d, ds, hcs, hd⟩ := hds.exists_cons
      exact ⟨d, ds, hcs, hd⟩

theorem Magnitude.isDigit {c : Char} (h : Magnitude (c :: cs) rest) : c.isDigit = true := by
  obtain ⟨d, ds, hcons, hd⟩ := h.exists_cons
  obtain ⟨rfl, -⟩ := List.cons.inj hcons
  exact hd

theorem Magnitude.readNumber {isNegative : Bool} (h : Magnitude cs rest)
    (hrange : ¬ OutOfRange isNegative cs) : ∃ x, readNumber isNegative cs = .ok (x, rest) := by
  rcases readNumber_of_magnitude h with hok | hout
  · exact hok
  · exact absurd hout hrange

/-- Behind a digit a number is looked for. -/
theorem readFound_of_isDigit {d : Char} (hd : d.isDigit = true) (ds : List Char) :
    readFound (d :: ds) = (readNumber false (d :: ds)).map fun (n, rest) => (.number n, rest) := by
  -- a digit is none of the characters that the branches before this one look for
  have hne : ∀ c : Char, c.isDigit = false → d ≠ c := fun c hc => ne_of_isDigit hd hc
  rw [readFound, if_pos hd]
  all_goals exact hne _ (by decide)

theorem exists_readFound (h : Start cs) : ∃ found rest, readFound cs = .ok (found, rest) := by
  cases h with
  | null => exact ⟨_, _, rfl⟩
  | true => exact ⟨_, _, rfl⟩
  | false => exact ⟨_, _, rfl⟩
  | array => exact ⟨_, _, rfl⟩
  | object => exact ⟨_, _, rfl⟩
  | number hmagnitude hrange =>
      obtain ⟨d, ds, rfl, hd⟩ := hmagnitude.exists_cons
      obtain ⟨x, hx⟩ := hmagnitude.readNumber hrange
      exact ⟨_, _, by rw [readFound_of_isDigit hd, hx]; rfl⟩
  | negative hmagnitude hrange =>
      obtain ⟨x, hx⟩ := hmagnitude.readNumber hrange
      exact ⟨_, _, by rw [readFound, hx]; rfl⟩
  | text hspelled =>
      obtain ⟨s, hs⟩ := hspelled
      exact ⟨_, _, by rw [readFound, readText_eq_ok_iff.mpr hs]; rfl⟩

theorem exists_of_map_eq_ok {α β ε : Type} {f : α → β} {r : Except ε α} {b : β}
    (h : r.map f = .ok b) : ∃ a, r = .ok a := by
  cases r with
  | ok a => exact ⟨a, rfl⟩
  | error e => cases h

theorem start_of_readFound {found : Found} (h : readFound cs = .ok (found, rest)) : Start cs := by
  unfold readFound at h
  split at h
  · obtain ⟨a, ha⟩ := exists_of_map_eq_ok h
    rw [readWord_eq_ok_iff.mp ha]
    exact .null
  · obtain ⟨a, ha⟩ := exists_of_map_eq_ok h
    rw [readWord_eq_ok_iff.mp ha]
    exact .true
  · obtain ⟨a, ha⟩ := exists_of_map_eq_ok h
    rw [readWord_eq_ok_iff.mp ha]
    exact .false
  · obtain ⟨⟨x, a⟩, ha⟩ := exists_of_map_eq_ok h
    -- a number that was read is in range
    exact .negative (magnitude_of_readNumber ha) fun ⟨left, hleft⟩ => by
      rw [ha] at hleft
      cases hleft
  · obtain ⟨⟨s, a⟩, ha⟩ := exists_of_map_eq_ok h
    exact .text ⟨s, readText_eq_ok_iff.mp ha⟩
  · exact .array
  · exact .object
  · split at h
    · obtain ⟨⟨x, a⟩, ha⟩ := exists_of_map_eq_ok h
      exact .number (magnitude_of_readNumber ha) fun ⟨left, hleft⟩ => by
        rw [ha] at hleft
        cases hleft
    · cases h
  -- no value begins so
  · cases h

/-- The kind of a value is found exactly where a text begins like one. -/
theorem readFound_eq_ok_iff : (∃ found rest, readFound cs = .ok (found, rest)) ↔ Start cs :=
  ⟨fun ⟨_, _, h⟩ => start_of_readFound h, exists_readFound⟩

/-! ### The fault

Of what is found only the wrong kind is told. A number out of range is the one beginning of
a value where the reader fails before it can tell, and it says so instead. -/

theorem wrongType_of_start {α : Type} (h : Start cs) (needed : Needed) :
    ∃ s, (wrongType needed cs : Except Stop α) = .error s ∧ s.fault.isWrongType = true := by
  obtain ⟨found, rest, hfound⟩ := exists_readFound h
  exact ⟨_, by rw [wrongType, hfound]; rfl, rfl⟩

theorem readFound_of_tooLarge (h : TooLarge cs) :
    ∃ s, readFound cs = .error s ∧ s.fault = .numberOutOfRange := by
  cases h with
  | number hmagnitude hrange =>
      obtain ⟨d, ds, rfl, hd⟩ := hmagnitude.exists_cons
      obtain ⟨left, hleft⟩ := hrange
      exact ⟨⟨.numberOutOfRange, left, 0⟩, by rw [readFound_of_isDigit hd, hleft]; rfl, rfl⟩
  | negative hmagnitude hrange =>
      obtain ⟨left, hleft⟩ := hrange
      exact ⟨⟨.numberOutOfRange, left, 0⟩, by rw [readFound, hleft]; rfl, rfl⟩

theorem wrongType_of_tooLarge {α : Type} (h : TooLarge cs) (needed : Needed) :
    ∃ s, (wrongType needed cs : Except Stop α) = .error s ∧ s.fault = .numberOutOfRange := by
  obtain ⟨s, hs, hfault⟩ := readFound_of_tooLarge h
  exact ⟨s, by rw [wrongType, hs], hfault⟩

/-! ### Other faults

What stops a reader of one word, number or text is never the kind of a value.
-/

variable {e : Stop}

theorem isWrongType_of_readHex4 (h : readHex4 cs = .error e) : e.fault.isWrongType = false := by
  unfold readHex4 at h
  split at h
  · split at h
    · cases h
    · cases h
      rfl
  · split at h
    · cases h
      rfl
    · cases h
      rfl

theorem isWrongType_of_readUnicode (h : readUnicode cs = .error e) :
    e.fault.isWrongType = false := by
  unfold readUnicode at h
  simp only [bind, Except.bind] at h
  split at h
  · next he =>
    cases h
    exact isWrongType_of_readHex4 he
  · split at h
    · cases h
      rfl
    · split at h
      · split at h
        · cases h
          rfl
        · split at h
          · cases h
            rfl
          · split at h
            · next he =>
              cases h
              exact isWrongType_of_readHex4 he
            -- the second escape of a pair is read like the first
            · split at h
              · cases h
              · cases h
                rfl
          · cases h
            rfl
        · cases h
          rfl
      · cases h

theorem isWrongType_of_readEscape (h : readEscape cs = .error e) : e.fault.isWrongType = false := by
  unfold readEscape at h
  split at h
  · cases h
    rfl
  · exact isWrongType_of_readUnicode h
  · split at h
    · cases h
    · cases h
      rfl

theorem isWrongType_of_readText {read : List Char} (h : readText read cs = .error e) :
    e.fault.isWrongType = false := by
  fun_induction readText read cs with
  | case1 =>
      cases h
      rfl
  | case2 => cases h
  | case3 read cs e' he =>
      cases h
      exact isWrongType_of_readEscape he
  | case4 read cs c rest he ih => exact ih h
  | case5 =>
      cases h
      rfl
  | case6 read c cs hquote hslash hc ih => exact ih h

theorem isWrongType_of_readWord {word : List Char} (h : readWord word cs = .error e) :
    e.fault.isWrongType = false := by
  fun_induction readWord word cs with
  | case1 => cases h
  | case2 =>
      cases h
      rfl
  | case3 ws w rest ih => exact ih h
  | case4 =>
      cases h
      rfl

variable {isNegative : Bool} {significand : Nat} {exponent : Int}

theorem isWrongType_of_finishNumber
    (h : finishNumber isNegative significand exponent cs = .error e) :
    e.fault.isWrongType = false := by
  unfold finishNumber at h
  split at h
  · cases h
  · cases h
    rfl

theorem isWrongType_of_readExponent
    (h : readExponent isNegative significand exponent cs = .error e) :
    e.fault.isWrongType = false := by
  unfold readExponent at h
  split at h
  split at h
  · cases h
    rfl
  · split at h
    · cases h
      rfl
    · split at h
      split at h
      split at h
      · exact isWrongType_of_finishNumber h
      -- an exponent past all counting: out of range, or the number is zero
      · split at h
        · cases h
          rfl
        · cases h

theorem isWrongType_of_readFraction
    (h : readFraction isNegative significand exponent cs = .error e) :
    e.fault.isWrongType = false := by
  unfold readFraction at h
  split at h
  split at h
  split at h
  · split at h <;> (cases h; rfl)
  · unfold readTail at h
    split at h
    · exact isWrongType_of_readExponent h
    · exact isWrongType_of_readExponent h
    · exact isWrongType_of_finishNumber h

theorem isWrongType_of_readNumber (h : readNumber isNegative cs = .error e) :
    e.fault.isWrongType = false := by
  unfold readNumber at h
  split at h
  split at h
  · split at h <;> (cases h; rfl)
  · cases h
    rfl
  · split at h
    split at h
    · exact isWrongType_of_readFraction h
    · exact isWrongType_of_readExponent h
    · exact isWrongType_of_readExponent h
    · split at h
      · exact isWrongType_of_finishNumber h
      -- whole numbers that fit are never refused
      · split at h
        · cases h
        · split at h <;> cases h

theorem eq_error_of_map {α β ε : Type} {f : α → β} {r : Except ε α} {e : ε}
    (h : r.map f = .error e) : r = .error e := by
  cases r with
  | ok a => cases h
  | error e' =>
      cases h
      rfl

theorem isWrongType_of_readFound (h : readFound cs = .error e) : e.fault.isWrongType = false := by
  unfold readFound at h
  split at h
  · exact isWrongType_of_readWord (eq_error_of_map h)
  · exact isWrongType_of_readWord (eq_error_of_map h)
  · exact isWrongType_of_readWord (eq_error_of_map h)
  · exact isWrongType_of_readNumber (eq_error_of_map h)
  · exact isWrongType_of_readText (eq_error_of_map h)
  · cases h
  · cases h
  · split at h
    · exact isWrongType_of_readNumber (eq_error_of_map h)
    · cases h
      rfl
  · cases h
    rfl

/-- The fault of a value that is not of the kind needed lies in its kind only where a text begins
like a value. -/
theorem start_of_wrongType {α : Type} {needed : Needed}
    (h : (wrongType needed cs : Except Stop α) = .error e) (he : e.fault.isWrongType = true) :
    Start cs := by
  unfold wrongType at h
  split at h
  · next he' =>
    cases h
    rw [isWrongType_of_readFound he'] at he
    cases he
  · next found rest hfound => exact start_of_readFound hfound

-- Every value of the grammar begins in a way that shows its kind, but for two things the
-- grammar does not look at: whether the halves of surrogate pairs stand together, and how
-- large a number is.
/-! ### Values of the grammar -/

theorem Body.spelled_or_halved (h : Body cs rest) : Spelled cs rest ∨ Halved cs := by
  induction h with
  | close => exact Or.inl ⟨[], .close⟩
  | raw hc hquote hslash _ ih =>
      rcases ih with ⟨s, hs⟩ | hhalved
      · exact Or.inl ⟨_, .raw hc hquote hslash hs⟩
      · exact Or.inr (.raw hc hquote hslash hhalved)
  | short hl _ ih =>
      rcases ih with ⟨s, hs⟩ | hhalved
      · obtain ⟨c, hc⟩ := Option.isSome_iff_exists.mp hl
        exact Or.inl ⟨_, .escape (.short hc) hs⟩
      · exact Or.inr (.short hl hhalved)
  -- the code of a half that stands alone, or has another half behind it that does not fit
  | code hcode _ ih =>
      obtain ⟨n, hn⟩ := Option.isSome_iff_exists.mp hcode
      cases hsurrogate : isSurrogate n with
      | true => exact Or.inr (.here hn hsurrogate)
      | false =>
          rcases ih with ⟨s, hs⟩ | hhalved
          · exact Or.inl ⟨_, .escape (.code hn hsurrogate) hs⟩
          · exact Or.inr (.code hcode hhalved)

/-- A value is a text, or its kind can be told, or it is a number out of range. -/
theorem Value.cases (h : Value cs rest) :
    Quoted Body cs rest ∨ (Start cs ∧ cs.head? ≠ some '"') ∨ TooLarge cs := by
  cases h with
  | null => exact Or.inr (Or.inl ⟨.null, by simp⟩)
  | true => exact Or.inr (Or.inl ⟨.true, by simp⟩)
  | false => exact Or.inr (Or.inl ⟨.false, by simp⟩)
  | text hbody => exact Or.inl ⟨_, rfl, hbody⟩
  | emptyArray => exact Or.inr (Or.inl ⟨.array, by simp⟩)
  | array => exact Or.inr (Or.inl ⟨.array, by simp⟩)
  | emptyObject => exact Or.inr (Or.inl ⟨.object, by simp⟩)
  | object => exact Or.inr (Or.inl ⟨.object, by simp⟩)
  | number hmagnitude =>
      by_cases hrange : OutOfRange Bool.false cs
      · exact Or.inr (Or.inr (.number hmagnitude hrange))
      · obtain ⟨d, ds, rfl, hd⟩ := hmagnitude.exists_cons
        have hquote : d ≠ '"' := ne_of_isDigit hd (by decide)
        exact Or.inr (Or.inl ⟨.number hmagnitude hrange, by simpa using hquote⟩)
  | @negative cs _ hmagnitude =>
      by_cases hrange : OutOfRange Bool.true cs
      · exact Or.inr (Or.inr (.negative hmagnitude hrange))
      · exact Or.inr (Or.inl ⟨.negative hmagnitude hrange, by simp⟩)

end MailMerge.Json
