import MailMerge.CommandLine.Stop
import MailMerge.Text.Similarity

/-!
# Reading arguments

An option is written as `--long value`, `--long=value`, `-x value`, `-xvalue` or `-x=value`, a flag
as `--long` or `-x`. Letters of flags may stand behind one dash together, and an option may follow
them there. A value that starts with a dash needs one of the attached forms, unless it is a dash
alone. There are no other arguments, so nothing may stand behind two dashes.

No argument may be given twice.
-/

namespace MailMerge.CommandLine

/-- The kinds of words on a command line. -/
inductive Word where
  /-- Two dashes alone, behind which no option starts. -/
  | escape
  | long (name : List Char) (value : Option (List Char))
  | short (letters : List Char)
  | plain (text : List Char)
  deriving DecidableEq, Repr

/-- The kind of a word. -/
def Word.ofChars : List Char → Word
  | ['-', '-'] => .escape
  | '-' :: '-' :: rest =>
    .long (rest.takeWhile (· ≠ '='))
      (match rest.dropWhile (· ≠ '=') with
        | [] => none
        | _ :: value => some value)
  | '-' :: c :: letters => .short (c :: letters)
  | text => .plain text

/-- What was read so far. -/
structure State where
  /-- The arguments recorded, in order, with their values. -/
  recorded : List (Arg × String)
  /-- An option that is not recorded yet, with its value if that was read. -/
  pending : Option (Arg × Option String)
  deriving DecidableEq, Repr

namespace State

/-- Before the first word. -/
def initial : State := ⟨[], none⟩

/-- Whether an argument was recorded. -/
def has (s : State) (a : Arg) : Bool := s.recorded.any (·.1 = a)

/-- The arguments recorded. -/
def given (s : State) : List Arg := s.recorded.map (·.1)

/-- Records an argument. One that is there already is forgotten, and the fault reported. -/
def record (s : State) (a : Arg) (value : String) : State × Option Stop :=
  if s.has a then
    ({ s with recorded := s.recorded.filter (·.1 ≠ a) }, some (.repeated a))
  else
    ({ s with recorded := s.recorded ++ [(a, value)] },
      if a.isPath ∧ value = "" then some (.missingValue a) else none)

/-- Records the pending option. -/
def settle (s : State) : State × Option Stop :=
  match s.pending with
  | none => (s, none)
  | some (a, none) => ({ s with pending := none }, some (.missingValue a))
  | some (a, some value) => { s with pending := none }.record a value

/-- A state without fault. -/
def check : State × Option Stop → Except Stop State
  | (s, none) => .ok s
  | (_, some stop) => .error stop

/-! ### Words -/

/-- Reads an option with an attached value. -/
def attached (s : State) (a : Arg) (value : List Char) : Except Stop State := do
  check ((← check s.settle).record a (String.ofList value))

/-- Reads an option, the value of which is to follow. -/
def await (s : State) (a : Arg) : Except Stop State := do
  return { ← check s.settle with pending := some (a, none) }

/-- Reads a flag. -/
def flag (s : State) (a : Arg) (full : Bool) : Except Stop State := do
  let s ← check s.settle
  match a with
  | .help => .error (.help full)
  | .version => .error .version
  | _ => check (s.record a "true")

/-- The argument with the long name that is most similar to a name, if one is similar enough. Of
several the last one in the list wins. -/
def similar? (name : List Char) : Option Arg :=
  let score (a : Arg) : Float := Text.similarity name a.long.toList
  Arg.all.foldl (fun best a =>
    if 0.7 < score a ∧ best.all (fun b => score b ≤ score a) then some a else best) none

/-- The fault of a long name that no argument has. -/
def unknownLong (s : State) (name : List Char) : Stop :=
  let found := similar? name
  let given := s.settle.1.given ++ found.toList
  .unknown ("--" ++ String.ofList name) found (if given = [] then .general else .given given)

/-- Reads a long name with the value attached to it. -/
def long (s : State) (name : List Char) (value : Option (List Char)) : Except Stop State :=
  match Arg.ofLong? (String.ofList name) with
  | none => .error (s.unknownLong name)
  | some a =>
    match value with
    | some v =>
      if a.takesValue then s.attached a v
      else .error (.unneededValue a (String.ofList v) (.given (s.given ++ [a])))
    | none => if a.takesValue then s.await a else s.flag a true

/-- Reads letters. What stands behind the letter of an option is its value. -/
def short (s : State) : List Char → Except Stop State
  | [] => .ok s
  | c :: rest =>
    match Arg.ofShort? c with
    | none => .error (.unknown ("-" ++ String.singleton c) none .general)
    | some a =>
      if a.takesValue then
        match rest with
        | [] => s.await a
        | '=' :: value => s.attached a value
        | value => s.attached a value
      else do (← s.flag a false).short rest

/-- Reads a plain word, which can only be the value of the option in front of it. -/
def plain (s : State) (text : List Char) : Except Stop State :=
  match s.pending with
  | some (a, none) => .ok { s with pending := some (a, some (String.ofList text)) }
  | _ => .error (.unknown (String.ofList text) none .general)

/-- Reads words. -/
def words (s : State) : List (List Char) → Except Stop State
  | [] => .ok s
  | w :: rest =>
    match Word.ofChars w with
    | .escape =>
      match rest with
      | [] => .ok s
      | text :: _ => .error (.unknown (String.ofList text) none .general)
    | .long name value => do (← s.long name value).words rest
    | .short letters => do (← s.short letters).words rest
    | .plain text => do (← s.plain text).words rest

/-! ### Options -/

/-- The value of an option, or its default. -/
def value (s : State) (a : Arg) : String :=
  ((s.recorded.lookup a).or a.default?).getD ""

/-- The options recorded, if none is missing. -/
def options (s : State) : Except Stop Options :=
  let missing := Arg.all.filter fun a => a.isRequired && !s.has a
  if missing ≠ [] then .error (.missingRequired missing (.given s.given))
  else .ok {
    template := s.value .template, data := s.value .data, variableList := s.value .variableList
    fileName := s.value .fileName, modifier := s.value .modifier
    outputDir := s.value .outputDir, placeholder := s.value .placeholder
    ignoreHeader := s.has .ignoreHeader, skipInvalidRows := s.has .skipInvalidRows
    verbose := s.has .verbose }

end State

/-- The options that arguments give. -/
def parse (args : List String) : Except Stop Options := do
  let s ← State.initial.words (args.map String.toList)
  (← State.check s.settle).options

end MailMerge.CommandLine
