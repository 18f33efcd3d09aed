import Mathlib.Data.List.Nodup
import Mathlib.Data.List.TakeWhile
import MailMerge.Proofs.CommandLine

/-!
# Options written out and read back

Options can be written on the command line in many ways: in any order, an option with its long name
or its letter and with its value attached or behind it, and one that has its default need not be
written at all. `Writes` relates an argument and its value to the words that give it, and
`WritesAll` does so for several arguments in order. Reading is the way back: all words that give
options are read as these options, and words that give an argument twice are not read at all
(`parse_written`).

That no argument can be given twice holds of all words, also of those that are at fault elsewhere:
what is recorded in the end are the arguments that the words name, in order and none twice
(`given_of_readWords`).
-/

namespace MailMerge.CommandLine

/-! ### Ways to write arguments

A flag that is given has a single value, an option any text. What an option may look like
depends on its value: apart from its name the value must not look like another argument, and
attached to a letter it must not begin with an equals sign, which would be taken away. -/

/-- Whether an argument is a flag that can be set. -/
def Arg.isSwitch : Arg → Bool
  | ignoreHeader | skipInvalidRows | verbose => true
  | _ => false

/-- Whether a text is a value also where it is a word of its own. -/
def IsPlain (text : String) : Prop := text = "-" ∨ text.toList.head? ≠ some '-'

/-- The words that give an argument with its value. A flag is recorded with one value only. -/
inductive Writes : Arg → String → List String → Prop where
  | longApart {a : Arg} {v : String} :
      a.takesValue = true → IsPlain v → Writes a v ["--" ++ a.long, v]
  | longAttached {a : Arg} {v : String} :
      a.takesValue = true → Writes a v ["--" ++ a.long ++ "=" ++ v]
  | shortApart {a : Arg} {c : Char} {v : String} :
      a.takesValue = true → a.short? = some c → IsPlain v →
        Writes a v ["-" ++ String.singleton c, v]
  | shortAttached {a : Arg} {c : Char} {v : String} :
      a.takesValue = true → a.short? = some c → v ≠ "" → v.toList.head? ≠ some '=' →
        Writes a v ["-" ++ String.singleton c ++ v]
  | shortEquals {a : Arg} {c : Char} {v : String} :
      a.takesValue = true → a.short? = some c → Writes a v ["-" ++ String.singleton c ++ "=" ++ v]
  | longFlag {a : Arg} : a.isSwitch = true → Writes a "true" ["--" ++ a.long]
  | shortFlag {a : Arg} {c : Char} :
      a.isSwitch = true → a.short? = some c → Writes a "true" ["-" ++ String.singleton c]

/-- The words that give arguments with their values, in order. -/
inductive WritesAll : List (Arg × String) → List String → Prop where
  | nil : WritesAll [] []
  | cons {a : Arg} {v : String} {given : List (Arg × String)} {first rest : List String} :
      Writes a v first → WritesAll given rest → WritesAll ((a, v) :: given) (first ++ rest)

/-- The value that an argument has in options, if it is to be written at all. -/
def Arg.valueIn? (o : Options) : Arg → Option String
  | template => some o.template
  | data => some o.data
  | variableList => some o.variableList
  | fileName => some o.fileName
  | modifier => some o.modifier
  | outputDir => some o.outputDir
  | placeholder => some o.placeholder
  | ignoreHeader => if o.ignoreHeader then some "true" else none
  | skipInvalidRows => if o.skipInvalidRows then some "true" else none
  | verbose => if o.verbose then some "true" else none
  | help | version => none

/-- Arguments with their values give options: each is there once at most and has its value, and one
that is left out has its default. -/
structure Gives (given : List (Arg × String)) (o : Options) : Prop where
  once : (given.map Prod.fst).Nodup
  right : ∀ e ∈ given, e.1.valueIn? o = some e.2
  rest : ∀ a, a ∉ given.map Prod.fst → a.valueIn? o = a.default?

/-! ### Arguments by their names

The names of arguments are a finite table, so what is needed of them is decided argument by
argument. -/

namespace Arg

theorem ofLong?_long (a : Arg) : ofLong? a.long = some a := by cases a <;> decide

theorem ofShort?_of_short? {a : Arg} {c : Char} (h : a.short? = some c) :
    ofShort? c = some a := by
  cases a <;> cases h <;> decide

theorem ne_dash_of_short? {a : Arg} {c : Char} (h : a.short? = some c) : c ≠ '-' := by
  cases a <;> cases h <;> decide

theorem long_ne_nil (a : Arg) : a.long.toList ≠ [] := by cases a <;> decide

theorem ne_equals_of_mem_long (a : Arg) : ∀ c ∈ a.long.toList, decide (c ≠ '=') = true := by
  apply List.all_eq_true.mp
  cases a <;> rfl

theorem takesValue_eq_false_of_isSwitch {a : Arg} (h : a.isSwitch = true) :
    a.takesValue = false := by
  cases a <;> first | rfl | cases h

theorem default?_of_isRequired {a : Arg} (h : a.isRequired = true) : a.default? = none := by
  cases a <;> first | rfl | cases h

theorem isSome_valueIn?_of_isRequired {a : Arg} (h : a.isRequired = true) (o : Options) :
    (a.valueIn? o).isSome = true := by
  cases a <;> first | rfl | cases h

end Arg

/-! ### Words by their spelling

The kind of a word is told by its first characters. Two dashes begin a long name, which ends
at the first equals sign; one dash begins letters; anything else is plain, a dash alone
included. -/

namespace Word

theorem ofChars_dashes {rest : List Char} (h : rest ≠ []) :
    ofChars ('-' :: '-' :: rest) = .long (rest.takeWhile (· ≠ '='))
      (match rest.dropWhile (· ≠ '=') with
        | [] => none
        | _ :: value => some value) := by
  cases rest with
  | nil => contradiction
  | cons c rest => rfl

theorem ofChars_longOnly (a : Arg) :
    ofChars ("--" ++ a.long).toList = .long a.long.toList none := by
  rw [String.toList_append]
  show ofChars ('-' :: '-' :: a.long.toList) = _
  rw [ofChars_dashes a.long_ne_nil, List.takeWhile_eq_self_iff.mpr a.ne_equals_of_mem_long,
    List.dropWhile_eq_nil_iff.mpr a.ne_equals_of_mem_long]

theorem ofChars_longValue (a : Arg) (v : String) :
    ofChars ("--" ++ a.long ++ "=" ++ v).toList = .long a.long.toList (some v.toList) := by
  simp only [String.toList_append, List.append_assoc]
  -- the name holds no equals sign, so the first one is that before the value
  show ofChars ('-' :: '-' :: (a.long.toList ++ '=' :: v.toList)) = _
  rw [ofChars_dashes (by simp), List.takeWhile_append_of_pos a.ne_equals_of_mem_long,
    List.dropWhile_append_of_pos a.ne_equals_of_mem_long]
  simp

theorem ofChars_letters {a : Arg} {c : Char} (h : a.short? = some c) (v : String) :
    ofChars ("-" ++ String.singleton c ++ v).toList = .short (c :: v.toList) := by
  have hc : c ≠ '-' := Arg.ne_dash_of_short? h
  simp only [String.toList_append, String.toList_singleton]
  show ofChars ('-' :: c :: v.toList) = _
  unfold ofChars
  split <;> simp_all

theorem ofChars_letter {a : Arg} {c : Char} (h : a.short? = some c) :
    ofChars ("-" ++ String.singleton c).toList = .short [c] := by
  have hword := ofChars_letters h ""
  rwa [String.append_empty] at hword

theorem ofChars_letters_equals {a : Arg} {c : Char} (h : a.short? = some c) (v : String) :
    ofChars ("-" ++ String.singleton c ++ "=" ++ v).toList = .short (c :: '=' :: v.toList) := by
  have hword := ofChars_letters h ("=" ++ v)
  rw [← String.append_assoc, String.toList_append (s := "=")] at hword
  exact hword

theorem ofChars_plain {text : String} (h : IsPlain text) :
    ofChars text.toList = .plain text.toList := by
  obtain rfl | h := h
  · rfl
  · unfold ofChars
    split <;> simp_all

end Word

/-! ### The arguments that words name

Which arguments are named can be told from the words alone, without reading them: from the
name behind two dashes, and from letters up to the first that takes a value. Words that are
at fault may name too few, but then they are not read either. -/

/-- The arguments that letters behind one dash name. Behind the letter of an option stands its
value. -/
def namedByLetters : List Char → List Arg
  | [] => []
  | c :: rest =>
    match Arg.ofShort? c with
    | none => []
    | some a => if a.takesValue then [a] else a :: namedByLetters rest

/-- The arguments that a word names. -/
def Word.named : Word → List Arg
  | long name _ => (Arg.ofLong? (String.ofList name)).toList
  | short letters => namedByLetters letters
  | escape | plain _ => []

/-- The kinds of the words of a command line. -/
def kinds (args : List String) : List Word := (args.map String.toList).map Word.ofChars

/-- The arguments that the words of a command line name, in order. -/
def named (args : List String) : List Arg := (kinds args).flatMap Word.named

theorem named_append (front rest : List String) :
    named (front ++ rest) = named front ++ named rest := by
  simp [named, kinds]

theorem named_long (a : Arg) (v : Option (List Char)) :
    (Word.long a.long.toList v).named = [a] := by
  simp [Word.named, Arg.ofLong?_long]

theorem named_short {a : Arg} {c : Char} (h : a.short? = some c) {letters : List Char}
    (hletters : a.takesValue = true ∨ letters = []) : (Word.short (c :: letters)).named = [a] := by
  obtain hvalue | rfl := hletters
  · simp [Word.named, namedByLetters, Arg.ofShort?_of_short? h, hvalue]
  · simp [Word.named, namedByLetters, Arg.ofShort?_of_short? h]

/-- The words that give an argument are one that names it and at most one more, its value. -/
theorem kinds_of_writes {a : Arg} {v : String} {first : List String} (h : Writes a v first) :
    ∃ w, w.named = [a] ∧ (kinds first = [w] ∨ ∃ text, kinds first = [w, .plain text]) := by
  cases h with
  | longApart _ hv =>
      refine ⟨_, named_long a none, .inr ⟨v.toList, ?_⟩⟩
      show [Word.ofChars _, Word.ofChars _] = _
      rw [Word.ofChars_longOnly, Word.ofChars_plain hv]
  | longAttached => exact ⟨_, named_long a _, .inl (congrArg ([·]) (Word.ofChars_longValue a v))⟩
  | shortApart ha hc hv =>
      refine ⟨.short [_], named_short hc (.inl ha), .inr ⟨v.toList, ?_⟩⟩
      show [Word.ofChars _, Word.ofChars _] = _
      rw [Word.ofChars_letter hc, Word.ofChars_plain hv]
  | shortAttached ha hc =>
      exact ⟨_, named_short hc (.inl ha), .inl (congrArg ([·]) (Word.ofChars_letters hc v))⟩
  | shortEquals ha hc =>
      exact ⟨_, named_short hc (.inl ha), .inl (congrArg ([·]) (Word.ofChars_letters_equals hc v))⟩
  | longFlag => exact ⟨_, named_long a none, .inl (congrArg ([·]) (Word.ofChars_longOnly a))⟩
  | shortFlag _ hc =>
      exact ⟨_, named_short hc (.inr rfl), .inl (congrArg ([·]) (Word.ofChars_letter hc))⟩

theorem escape_not_mem_kinds {a : Arg} {v : String} {first : List String} (h : Writes a v first) :
    .escape ∉ kinds first := by
  obtain ⟨w, hnamed, hkinds⟩ := kinds_of_writes h
  have hw : w ≠ .escape := by
    rintro rfl
    cases hnamed
  obtain hkinds | ⟨text, hkinds⟩ := hkinds <;> rw [hkinds] <;> simpa using hw.symm

theorem named_of_writes {a : Arg} {v : String} {first : List String} (h : Writes a v first) :
    named first = [a] := by
  obtain ⟨w, hnamed, hkinds | ⟨text, hkinds⟩⟩ := kinds_of_writes h <;> unfold named <;> rw [hkinds]
  · rw [List.flatMap_singleton, hnamed]
  · rw [List.flatMap_cons, List.flatMap_singleton, hnamed]
    rfl

/-! ### What one step records

An option whose value is still to come is pending, and is recorded when the next argument or
the end settles it. So the state behind a word that gives an argument depends on how it is
written; what does not is the state when it has been settled. -/

namespace State

variable {s t : State} {a : Arg} {value : String}

theorem eq_of_check {r : State × Option Stop} (h : check r = .ok t) : t = r.1 := by
  obtain ⟨s, fault | stop⟩ := r
  · cases h
    rfl
  · cases h

theorem pending_record (s : State) (a : Arg) (value : String) :
    (s.record a value).1.pending = s.pending := by
  unfold record
  split <;> rfl

theorem pending_settle (s : State) : s.settle.1.pending = none := by
  unfold settle
  split
  · assumption
  · rfl
  · exact pending_record _ _ _

theorem pending_of_check_settle (h : check s.settle = .ok t) : t.pending = none := by
  rw [eq_of_check h]
  exact s.pending_settle

theorem check_settle (h : s.pending = none) : check s.settle = .ok s := by
  unfold settle
  rw [h]
  rfl

theorem bind_settle_eq {β : Type} (s : State) {f g : State → Except Stop β}
    (h : ∀ t, t.pending = none → f t = g t) : check s.settle >>= f = check s.settle >>= g := by
  -- settling fails alike for both, and otherwise leaves nothing pending
  cases hs : check s.settle with
  | error stop => rfl
  | ok t => exact h t (pending_of_check_settle hs)

/-! ### Reading one argument

Reading is compared with recording: `give` settles what was pending and records the argument
with its value, and each way to write the argument comes to that, once it is settled
(`readFrom_of_writes`). -/

/-- Reads words up to their end. -/
def readFrom (s : State) (args : List String) : Except Stop State := do
  let s ← s.words (args.map String.toList)
  check s.settle

/-- Records an argument that is written out, behind what is pending. -/
def give (s : State) (a : Arg) (value : String) : Except Stop State := do
  check ((← check s.settle).record a value)

theorem attached_eq (s : State) (a : Arg) (value : String) :
    s.attached a value.toList = s.give a value := by
  unfold attached give
  rw [String.ofList_toList]

theorem flag_eq (h : a.isSwitch = true) (s : State) (full : Bool) :
    s.flag a full = s.give a "true" := by
  cases a <;> first | rfl | cases h

/-- What is recorded leaves nothing pending. -/
theorem give_settle (s : State) (a : Arg) (value : String) :
    (s.give a value >>= fun t => check t.settle) = s.give a value := by
  unfold give
  rw [bind_assoc]
  refine bind_settle_eq s fun t ht => ?_
  cases hrecord : check (t.record a value) with
  | error stop => rfl
  | ok u =>
      apply check_settle
      -- recording an argument does not make it pending
      rw [eq_of_check hrecord, pending_record, ht]

/-- An option is recorded with the plain word behind it. -/
theorem await_plain (s : State) (a : Arg) (value : String) :
    (s.await a >>= fun t => t.plain value.toList >>= fun t => check t.settle) =
      s.give a value := by
  unfold await give
  rw [bind_assoc]
  refine bind_settle_eq s fun t ht => ?_
  -- the plain word becomes the value that is pending, and settling records it
  show check (({ t with pending := none } : State).record a (String.ofList value.toList)) = _
  rw [String.ofList_toList, ← ht]

variable {w : List Char} {rest : List (List Char)}

theorem words_long {name : List Char} {v : Option (List Char)} (h : Word.ofChars w = .long name v)
    (s : State) : s.words (w :: rest) = s.long name v >>= (·.words rest) := by
  simp only [words, h]

theorem words_short {letters : List Char} (h : Word.ofChars w = .short letters) (s : State) :
    s.words (w :: rest) = s.short letters >>= (·.words rest) := by
  simp only [words, h]

theorem words_plain {text : List Char} (h : Word.ofChars w = .plain text) (s : State) :
    s.words (w :: rest) = s.plain text >>= (·.words rest) := by
  simp only [words, h]

theorem long_apart (h : a.takesValue = true) (s : State) :
    s.long a.long.toList none = s.await a := by
  simp [long, Arg.ofLong?_long, h]

theorem long_attached (h : a.takesValue = true) (s : State) (value : List Char) :
    s.long a.long.toList (some value) = s.attached a value := by
  simp [long, Arg.ofLong?_long, h]

theorem long_flag (h : a.isSwitch = true) (s : State) :
    s.long a.long.toList none = s.flag a true := by
  simp [long, Arg.ofLong?_long, Arg.takesValue_eq_false_of_isSwitch h]

variable {c : Char}

theorem short_apart (h : a.takesValue = true) (hc : a.short? = some c) (s : State) :
    s.short [c] = s.await a := by
  simp [short, Arg.ofShort?_of_short? hc, h]

theorem short_equals (h : a.takesValue = true) (hc : a.short? = some c) (s : State)
    (value : List Char) : s.short (c :: '=' :: value) = s.attached a value := by
  simp [short, Arg.ofShort?_of_short? hc, h]

theorem short_attached (h : a.takesValue = true) (hc : a.short? = some c) (s : State)
    {value : List Char} (hne : value ≠ []) (hhead : value.head? ≠ some '=') :
    s.short (c :: value) = s.attached a value := by
  cases value with
  | nil => contradiction
  | cons d rest =>
      have hd : d ≠ '=' := by simpa using hhead
      simp [short, Arg.ofShort?_of_short? hc, h, hd]

theorem short_flag (h : a.isSwitch = true) (hc : a.short? = some c) (s : State) :
    s.short [c] = s.flag a false := by
  simp only [short, Arg.ofShort?_of_short? hc, Arg.takesValue_eq_false_of_isSwitch h]
  exact bind_pure _

/-- A word that holds its value is read as a whole. -/
theorem readFrom_attached {w : String}
    (h : s.words [w.toList] = s.give a value >>= (·.words [])) :
    s.readFrom [w] = s.give a value := by
  unfold readFrom
  rw [List.map_singleton, h, bind_assoc]
  exact s.give_settle a value

/-- A word that waits for its value is read with the next one. -/
theorem readFrom_apart {w : String} (hv : IsPlain value)
    (h : s.words [w.toList, value.toList] = s.await a >>= (·.words [value.toList])) :
    s.readFrom [w, value] = s.give a value := by
  unfold readFrom
  rw [List.map_cons, List.map_singleton, h, bind_assoc]
  simp only [words_plain (Word.ofChars_plain hv), bind_assoc]
  exact s.await_plain a value

/-- Reading the words that give an argument records it, whichever words these are. -/
theorem readFrom_of_writes {first : List String} (h : Writes a value first) (s : State) :
    s.readFrom first = s.give a value := by
  cases h with
  | longApart ha hv =>
      apply readFrom_apart hv
      rw [words_long (Word.ofChars_longOnly a), long_apart ha]
  | longAttached ha =>
      apply readFrom_attached
      rw [words_long (Word.ofChars_longValue a value), long_attached ha, attached_eq]
  | shortApart ha hc hv =>
      apply readFrom_apart hv
      rw [words_short (Word.ofChars_letter hc), short_apart ha hc]
  | shortAttached ha hc hne hhead =>
      have hne : value.toList ≠ [] := by simpa using hne
      apply readFrom_attached
      rw [words_short (Word.ofChars_letters hc value), short_attached ha hc s hne hhead,
        attached_eq]
  | shortEquals ha hc =>
      apply readFrom_attached
      rw [words_short (Word.ofChars_letters_equals hc value), short_equals ha hc, attached_eq]
  | longFlag ha =>
      apply readFrom_attached
      rw [words_long (Word.ofChars_longOnly a), long_flag ha, flag_eq ha]
  | shortFlag ha hc =>
      apply readFrom_attached
      rw [words_short (Word.ofChars_letter hc), short_flag ha hc, flag_eq ha]

/-! ### Reading all arguments

What one argument leaves behind is settled by the next one, so arguments written one behind
the other are recorded in that order. The state to start from has to be any state for that. -/

theorem words_append {front : List (List Char)} (h : .escape ∉ front.map Word.ofChars) (s : State)
    (rest : List (List Char)) : s.words (front ++ rest) = s.words front >>= (·.words rest) := by
  induction front generalizing s with
  | nil => rfl
  | cons w front ih =>
      rw [List.map_cons, List.mem_cons, not_or] at h
      rw [List.cons_append]
      cases hword : Word.ofChars w with
      -- two dashes alone would make all words behind them plain
      | escape => exact absurd hword.symm h.1
      | long name v => simp only [words_long hword, ih h.2, bind_assoc]
      | short letters => simp only [words_short hword, ih h.2, bind_assoc]
      | plain text => simp only [words_plain hword, ih h.2, bind_assoc]

theorem give_of_pending (h : s.pending = none) (a : Arg) (value : String) :
    s.give a value = check (s.record a value) := by
  unfold give
  rw [check_settle h]
  rfl

theorem settle_give (s : State) (a : Arg) (value : String) :
    check s.settle >>= (·.give a value) = s.give a value :=
  bind_settle_eq s fun _ ht => give_of_pending ht a value

/-- Words that give arguments are read one argument after the other. -/
theorem readFrom_of_writesAll {given : List (Arg × String)} {args : List String}
    (h : WritesAll given args) (s : State) :
    s.readFrom args = check s.settle >>= given.foldlM fun s e => s.give e.1 e.2 := by
  -- `s` is generalized: behind an option with its value apart, that value is still pending
  induction h generalizing s with
  | nil => exact (bind_pure _).symm
  | @cons a v given first rest hfirst _ ih =>
      calc s.readFrom (first ++ rest)
          = s.words (first.map String.toList) >>= (·.readFrom rest) := by
            unfold readFrom
            rw [List.map_append, words_append (escape_not_mem_kinds hfirst), bind_assoc]
        _ = s.readFrom first >>= given.foldlM fun s e => s.give e.1 e.2 := by
            simp only [ih]
            exact (bind_assoc _ _ _).symm
        _ = check s.settle >>= ((a, v) :: given).foldlM fun s e => s.give e.1 e.2 := by
            rw [readFrom_of_writes hfirst, ← settle_give, bind_assoc]
            rfl

/-! ### What reading records

Recording is a fold over the arguments. It comes to its end if they are all different, and
otherwise fails at the first one that is there already. -/

theorem has_iff (s : State) (a : Arg) : s.has a = true ↔ a ∈ s.given := by
  simp [has, given]

variable {recorded given : List (Arg × String)}

theorem give_of_not_mem (ha : a ∉ recorded.map Prod.fst) (hvalue : a.isPath = true → value ≠ "") :
    State.give ⟨recorded, none⟩ a value = .ok ⟨recorded ++ [(a, value)], none⟩ := by
  rw [give_of_pending rfl, record, if_neg fun h => ha ((has_iff ⟨recorded, none⟩ a).mp h),
    if_neg fun h => hvalue h.1 h.2]
  rfl

theorem give_of_mem (ha : a ∈ recorded.map Prod.fst) :
    State.give ⟨recorded, none⟩ a value = .error (.repeated a) := by
  rw [give_of_pending rfl, record, if_pos ((has_iff ⟨recorded, none⟩ a).mpr ha)]
  rfl

theorem nodup_concat (ha : a ∉ recorded.map Prod.fst) (h : (recorded.map Prod.fst).Nodup) :
    ((recorded ++ [(a, value)]).map Prod.fst).Nodup := by
  rw [List.map_append, List.map_singleton, List.nodup_middle, List.append_nil]
  exact List.nodup_cons.mpr ⟨ha, h⟩

/-- Arguments that are given once each are recorded, in order. -/
theorem foldlM_give (hvalue : ∀ e ∈ given, e.1.isPath = true → e.2 ≠ "")
    (hnodup : ((recorded ++ given).map Prod.fst).Nodup) :
    given.foldlM (fun s e => s.give e.1 e.2) (⟨recorded, none⟩ : State) =
      .ok ⟨recorded ++ given, none⟩ := by
  induction given generalizing recorded with
  | nil =>
      rw [List.append_nil]
      rfl
  | cons e given ih =>
      have hvalue' := fun e' he' => hvalue e' (List.mem_cons_of_mem _ he')
      have ha : e.1 ∉ recorded.map Prod.fst := by
        rw [List.map_append, List.map_cons] at hnodup
        -- it would stand in the list twice
        intro h
        exact (List.nodup_cons.mp (List.nodup_middle.mp hnodup)).1 (List.mem_append_left _ h)
      rw [List.append_cons] at hnodup ⊢
      rw [List.foldlM_cons, give_of_not_mem ha (hvalue e List.mem_cons_self)]
      exact ih hvalue' hnodup

/-- The first argument that is given again stops reading. -/
theorem foldlM_give_of_not_nodup (hvalue : ∀ e ∈ given, e.1.isPath = true → e.2 ≠ "")
    (hrecorded : (recorded.map Prod.fst).Nodup)
    (hnodup : ¬ ((recorded ++ given).map Prod.fst).Nodup) :
    ∃ a, 2 ≤ ((recorded ++ given).map Prod.fst).count a ∧
      given.foldlM (fun s e => s.give e.1 e.2) (⟨recorded, none⟩ : State) =
        .error (.repeated a) := by
  induction given generalizing recorded with
  | nil =>
      rw [List.append_nil] at hnodup
      exact absurd hrecorded hnodup
  | cons e given ih =>
      -- either this argument is there already, or the repetition comes later
      by_cases ha : e.1 ∈ recorded.map Prod.fst
      · refine ⟨e.1, ?_, ?_⟩
        · have hfirst : 1 ≤ (recorded.map Prod.fst).count e.1 := List.one_le_count_iff.mpr ha
          rw [List.map_append, List.count_append, List.map_cons, List.count_cons_self]
          omega
        · rw [List.foldlM_cons, give_of_mem ha]
          rfl
      · have hvalue' := fun e' he' => hvalue e' (List.mem_cons_of_mem _ he')
        rw [List.append_cons] at hnodup ⊢
        rw [List.foldlM_cons, give_of_not_mem ha (hvalue e List.mem_cons_self)]
        exact ih hvalue' (nodup_concat ha hrecorded) hnodup

/-! ### The options recorded

In the end the options are put together from what is recorded and from the defaults. `Gives`
says this argument by argument, and the record of options is read off it. -/

/-- What is recorded of an argument, or its default, is its value in the options. -/
theorem lookup_or_default {o : Options} (h : Gives given o) (a : Arg) :
    (given.lookup a).or a.default? = a.valueIn? o := by
  cases hlookup : given.lookup a with
  | some v =>
      obtain ⟨front, behind, rfl, -⟩ := List.lookup_eq_some_iff.mp hlookup
      exact (h.right (a, v) (List.mem_append_right _ List.mem_cons_self)).symm
  | none =>
      refine (h.rest a fun hmem => ?_).symm
      obtain ⟨e, he, rfl⟩ := List.mem_map.mp hmem
      simpa using List.lookup_eq_none_iff.mp hlookup e he

theorem has_of_gives {o : Options} (h : Gives given o) {a : Arg} (ha : a.default? = none) :
    (⟨given, none⟩ : State).has a = (a.valueIn? o).isSome := by
  rw [Bool.eq_iff_iff, has_iff]
  show a ∈ given.map Prod.fst ↔ _
  constructor
  · intro hmem
    obtain ⟨e, he, rfl⟩ := List.mem_map.mp hmem
    rw [h.right e he]
    rfl
  · intro hsome
    by_contra hmem
    rw [h.rest a hmem, ha] at hsome
    cases hsome

theorem options_of_gives {o : Options} (h : Gives given o) :
    (⟨given, none⟩ : State).options = .ok o := by
  have hvalue : ∀ a, (⟨given, none⟩ : State).value a = (a.valueIn? o).getD "" := fun a =>
    congrArg (·.getD "") (lookup_or_default h a)
  have hmissing :
      -- a required argument has no default, so it is among those given
      (Arg.all.filter fun a => a.isRequired && !(⟨given, none⟩ : State).has a) = [] := by
    refine List.filter_eq_nil_iff.mpr fun a _ => ?_
    rw [Bool.and_eq_true, Bool.not_eq_true', not_and, Bool.not_eq_false]
    intro ha
    rw [has_of_gives h (Arg.default?_of_isRequired ha), Arg.isSome_valueIn?_of_isRequired ha]
  unfold options
  dsimp only
  rw [if_neg (not_not_intro hmissing), has_of_gives h rfl, has_of_gives h rfl, has_of_gives h rfl]
  cases o
  -- a flag is set if it is recorded
  have hflag : ∀ b : Bool, (if b then some "true" else none).isSome = b := by decide
  simp only [hvalue, Arg.valueIn?, Option.getD_some, hflag]

/-! ### No argument is recorded twice

The other direction holds of all words. Each step of the reader adds the arguments that it
names to those seen, and a repetition would have been an error at the step that records it,
so what is recorded at the end is all that was named, without repetition. -/

/-- The arguments that were named, whether they are recorded or pending. -/
def seen (s : State) : List Arg := s.given ++ (s.pending.map Prod.fst).toList

/-- Reading goes on from a state behind some arguments, and records none of them twice. -/
def Adds (s : State) (as : List Arg) (x : Except Stop State) : Prop :=
  ∀ t, x = .ok t → t.seen = s.seen ++ as ∧ (s.given.Nodup → t.given.Nodup)

namespace Adds

variable {as bs : List Arg} {x : Except Stop State} {f : State → Except Stop State}

theorem error {stop : Stop} : s.Adds as (.error stop) := nofun

theorem refl (s : State) : s.Adds [] (.ok s) := by
  rintro _ ⟨⟩
  exact ⟨(List.append_nil _).symm, id⟩

theorem bind (hx : s.Adds as x) (hf : ∀ t : State, x = .ok t → t.Adds bs (f t)) :
    s.Adds (as ++ bs) (x >>= f) := by
  cases x with
  | error stop => exact error
  | ok t =>
      intro u hu
      obtain ⟨hseen, hnodup⟩ := hx t rfl
      obtain ⟨hseen', hnodup'⟩ := hf t rfl u hu
      refine ⟨?_, fun hs => hnodup' (hnodup hs)⟩
      rw [hseen', hseen, List.append_assoc]

end Adds

theorem seen_of_pending (h : s.pending = none) : s.seen = s.given := by
  unfold seen
  rw [h]
  exact List.append_nil _

theorem adds_record (hs : s.pending = none) (a : Arg) (value : String) :
    s.Adds [a] (check (s.record a value)) := by
  obtain ⟨recorded, _⟩ := s
  cases hs
  by_cases ha : a ∈ recorded.map Prod.fst
  · rw [← give_of_pending rfl, give_of_mem ha]
    exact Adds.error
  · -- a value that is refused is an error, so only the state counts
    intro t ht
    rw [record, if_neg fun h => ha ((has_iff ⟨recorded, none⟩ a).mp h)] at ht
    cases eq_of_check ht
    exact ⟨by simp [seen, State.given], nodup_concat ha⟩

/-- What is pending was named already. -/
theorem adds_settle (s : State) : s.Adds [] (check s.settle) := by
  -- nothing pending, an option that still waits for its value, or one that has it
  obtain ⟨recorded, _ | ⟨a, _ | value⟩⟩ := s
  · exact .refl _
  · exact Adds.error
  · intro t ht
    obtain ⟨hseen, hgiven⟩ := adds_record (s := ⟨recorded, none⟩) rfl a value t ht
    refine ⟨?_, hgiven⟩
    rw [hseen, seen_of_pending rfl, List.append_nil]
    rfl

theorem adds_give (s : State) (a : Arg) (value : String) : s.Adds [a] (s.give a value) :=
  s.adds_settle.bind fun _ ht => adds_record (pending_of_check_settle ht) a value

theorem adds_await (s : State) (a : Arg) : s.Adds [a] (s.await a) := by
  refine s.adds_settle.bind fun t ht => ?_
  rintro _ ⟨⟩
  refine ⟨?_, id⟩
  rw [seen_of_pending (pending_of_check_settle ht)]
  rfl

theorem adds_flag (s : State) (a : Arg) (full : Bool) : s.Adds [a] (s.flag a full) := by
  refine s.adds_settle.bind fun t ht => ?_
  split
  · exact Adds.error
  · exact Adds.error
  · exact adds_record (pending_of_check_settle ht) a _

theorem adds_long (s : State) (name : List Char) (v : Option (List Char)) :
    s.Adds (Word.long name v).named (s.long name v) := by
  unfold long
  show s.Adds (Arg.ofLong? (String.ofList name)).toList _
  split
  · exact Adds.error
  · next a ha =>
      rw [ha]
      cases v with
      | some v =>
          dsimp only
          split
          · exact s.adds_give a _
          · exact Adds.error
      | none =>
          dsimp only
          split
          · exact s.adds_await a
          · exact s.adds_flag a true

theorem adds_short (s : State) (letters : List Char) :
    s.Adds (Word.short letters).named (s.short letters) := by
  show s.Adds (namedByLetters letters) _
  induction letters generalizing s with
  | nil => exact .refl s
  | cons c rest ih =>
      unfold short namedByLetters
      cases Arg.ofShort? c with
      | none => exact Adds.error
      | some a =>
          dsimp only
          split
          · split
            · exact s.adds_await a
            · exact s.adds_give a _
            · exact s.adds_give a _
          · exact (s.adds_flag a false).bind fun t _ => ih t

theorem adds_plain (s : State) (text : List Char) : s.Adds [] (s.plain text) := by
  unfold plain
  split
  -- the plain word becomes the value of what is pending, which was named before
  · next a ha =>
      rintro _ ⟨⟩
      refine ⟨?_, id⟩
      unfold seen
      rw [ha, List.append_nil]
      rfl
  · exact Adds.error

/-- Reading words names the arguments that the words name, in order. -/
theorem adds_words (s : State) (ws : List (List Char)) :
    s.Adds ((ws.map Word.ofChars).flatMap Word.named) (s.words ws) := by
  induction ws generalizing s with
  | nil => exact .refl s
  | cons w rest ih =>
      rw [List.map_cons, List.flatMap_cons]
      cases hword : Word.ofChars w with
      | escape =>
          -- nothing may follow two dashes alone, so no argument is missed
          simp only [words, hword]
          cases rest with
          | nil => exact .refl s
          | cons text rest => exact Adds.error
      | long name v =>
          rw [words_long hword]
          exact (s.adds_long name v).bind fun t _ => ih t
      | short letters =>
          rw [words_short hword]
          exact (s.adds_short letters).bind fun t _ => ih t
      | plain text =>
          rw [words_plain hword]
          exact (s.adds_plain text).bind fun t _ => ih t

end State

/-- What is recorded in the end are the arguments that the words name, in order and none twice. -/
theorem given_of_readWords {args : List String} {s : State} (h : readWords args = .ok s) :
    s.given = named args ∧ (named args).Nodup := by
  have hpending : s.pending = none := by
    unfold readWords at h
    cases hwords : State.initial.words (args.map String.toList) with
    | error stop =>
        rw [hwords] at h
        cases h
    | ok t =>
        rw [hwords] at h
        exact State.pending_of_check_settle h
  obtain ⟨hseen, hnodup⟩ :=
    (State.initial.adds_words (args.map String.toList)).bind (fun t _ => t.adds_settle) s h
  have hgiven : s.given = named args := by
    rw [← State.seen_of_pending hpending, hseen, List.append_nil]
    rfl
  exact ⟨hgiven, hgiven ▸ hnodup List.nodup_nil⟩

/-- Words that name an argument twice give no options, wherever the two stand. -/
theorem parse_eq_error_of_named {args : List String} (h : ¬ (named args).Nodup) :
    ∃ stop, parse args = .error stop := by
  rw [parse_eq]
  cases hread : readWords args with
  | error stop => exact ⟨stop, rfl⟩
  | ok s => exact absurd (given_of_readWords hread).2 h

/-- All words that give options are read as these options, whichever spelling is chosen for each
argument and in whatever order they are. If arguments are given that are not all different, one that
is there twice is reported. Also among words that give nothing, no argument can be given twice. -/
theorem parse_written {given : List (Arg × String)} {args : List String}
    (hargs : WritesAll given args) (hpaths : ∀ e ∈ given, e.1.isPath = true → e.2 ≠ "") :
    (∀ o, Gives given o → parse args = .ok o) ∧
    (¬ (given.map Prod.fst).Nodup →
      ∃ a, 2 ≤ (given.map Prod.fst).count a ∧ parse args = .error (.repeated a)) ∧
    (∀ a v v' first second, Writes a v first → Writes a v' second → ∀ before between behind,
      ∃ stop, parse (before ++ first ++ between ++ second ++ behind) = .error stop) := by
  have hread : readWords args =
      given.foldlM (fun s e => s.give e.1 e.2) (⟨[], none⟩ : State) :=
    State.readFrom_of_writesAll hargs State.initial
  refine ⟨fun o ho => ?_, fun htwice => ?_, fun a v v' first second hfirst hsecond before between
    behind => ?_⟩
  · rw [parse_eq, hread, @State.foldlM_give [] given hpaths ho.once]
    exact State.options_of_gives ho
  · obtain ⟨a, hcount, hfold⟩ :=
      @State.foldlM_give_of_not_nodup [] given hpaths List.nodup_nil htwice
    exact ⟨a, hcount, by rw [parse_eq, hread, hfold]; rfl⟩
  · -- the words around the two do not matter: the list of names holds the argument twice
    refine parse_eq_error_of_named fun hnodup => ?_
    simp only [named_append, named_of_writes hfirst, named_of_writes hsecond] at hnodup
    have hcount := List.nodup_iff_count_le_one.mp hnodup a
    simp only [List.count_append, List.count_singleton_self] at hcount
    omega

/-- Forms mixed, with values that look like other arguments, and a flag in two forms. -/
theorem parse_written_of_mixed_forms :
    parse ["--verbose", "-r==x", "-s", "s.txt", "--data-file=-d", "-va b", "--filename-pattern",
        "@a"] =
      .ok ⟨"s.txt", "-d", "a b", "@a", "\x7b\x7d", "output", "=x", false, false, true⟩ ∧
    ∃ a, parse ["-i", "--verbose", "--ignore-header"] = .error (.repeated a) := by
  constructor
  · have hargs := WritesAll.cons (.longFlag (a := .verbose) rfl) <|
      .cons (.shortEquals (a := .placeholder) (v := "=x") rfl rfl) <|
      .cons (.shortApart (a := .template) (v := "s.txt") rfl rfl (.inr (by decide))) <|
      .cons (.longAttached (a := .data) (v := "-d") rfl) <|
      .cons (.shortAttached (a := .variableList) (v := "a b") rfl rfl (by decide) (by decide)) <|
      .cons (.longApart (a := .fileName) (v := "@a") rfl (.inr (by decide))) .nil
    refine (parse_written hargs (by decide)).1 _ ?_
    exact ⟨by decide, by decide, fun a => by cases a <;> decide⟩
  · have hargs := WritesAll.cons (.shortFlag (a := .ignoreHeader) rfl rfl) <|
      .cons (.longFlag (a := .verbose) rfl) <| .cons (.longFlag (a := .ignoreHeader) rfl) .nil
    obtain ⟨a, -, ha⟩ := (parse_written hargs (by decide)).2.1 (by decide)
    exact ⟨a, ha⟩

end MailMerge.CommandLine
