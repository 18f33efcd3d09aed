import MailMerge.Log
import MailMerge.Regex.Replace
import MailMerge.Text.White

/-!
# Log filters

Which log lines are shown. A filter is a list of directives, each a limit on the level of lines
whose topic starts with a name; the longest name that fits decides. A filter may also ask that the
text of a line matches a pattern.

A filter is written as directives between commas, each a name, a level, or `name=level`, and the
pattern behind a slash. What is malformed is left out with a warning.
-/

namespace MailMerge.Log

/-- A limit on levels; `none` admits no line. -/
abbrev Limit := Option Level

/-- A limit for the topics that start with a name. Without a name it is for all topics. -/
structure Directive where
  name : Option String
  limit : Limit
  deriving DecidableEq, Repr

/-- Which lines are shown. -/
structure Filter where
  directives : List Directive
  pattern : Option Regex
  deriving DecidableEq, Repr

namespace Filter

/-- The filter in force when none is asked for. -/
def initial (verbose : Bool) : Filter :=
  ⟨[⟨none, some (if verbose then .debug else .info)⟩], none⟩

/-! ### Deciding -/

/-- Whether a level is within a limit. -/
def within (l : Level) : Limit → Bool
  | none => false
  | some limit => l.rank ≤ limit.rank

/-- Whether a directive is for a topic. -/
def Directive.appliesTo (d : Directive) (topic : String) : Bool :=
  d.name.all fun name => name.toList.isPrefixOf topic.toList

/-- How specific a directive is. -/
def Directive.weight (d : Directive) : Nat :=
  match d.name with
  | none => 0
  | some name => name.utf8ByteSize

/-- The directive that decides about a topic: the most specific one, and the last of those. -/
def decisive? (f : Filter) (topic : String) : Option Directive :=
  (f.directives.filter (Directive.appliesTo · topic)).foldl (fun best d =>
    if best.all fun b => Directive.weight b ≤ Directive.weight d then some d else best) none

/-- Whether a line is shown. -/
def admits (f : Filter) (l : Line) : Bool :=
  ((f.decisive? l.topic.path).any fun d => within l.level d.limit) &&
    f.pattern.all fun re => (re.find l.text.toList.toArray 0).isSome

/-! ### Reading -/

/-- The limit that a word names, in capitals or not. -/
def limit? (word : String) : Option Limit :=
  let names : List (String × Limit) :=
    [("off", none), ("error", some .error), ("warn", some .warn), ("info", some .info),
      ("debug", some .debug), ("trace", some .trace)]
  names.lookup (word.map Char.toLower)

private def malformed (text : String) : String := "invalid logging spec '" ++ text ++ "'"

/-- The directive that a text writes, or what is wrong with it. -/
def readDirective (text : String) : Except String Directive :=
  match (text.toList.splitOn '=').map String.ofList with
  | [word] =>
    match limit? word with
    | some limit => .ok ⟨none, limit⟩
    | none => .ok ⟨some word, some .trace⟩
  | [name, word] =>
    let word := Text.trim word
    if word = "" then .ok ⟨some name, some .trace⟩
    else
      match limit? word with
      | some limit => .ok ⟨some name, limit⟩
      | none => .error (malformed word)
  | _ => .error (malformed text)

/-- Adds a directive, in place of one with the same name. -/
def addTo (d : Directive) : List Directive → List Directive
  | [] => [d]
  | e :: rest => if e.name = d.name then d :: rest else e :: addTo d rest

/-- Changes a filter as a text says and gives the warnings about it. -/
def update (f : Filter) (spec : String) : Filter × List String :=
  match (spec.toList.splitOn '/').map String.ofList with
  | list :: patterns =>
    if 1 < patterns.length then
      ({ f with pattern := none }, [malformed spec ++ " (too many '/'s)"])
    else
      let parts := (list.toList.splitOn ',').map fun p => Text.trim (String.ofList p)
      let read := (parts.filter (· ≠ "")).map readDirective
      let directives := read.foldl (fun ds r =>
        match r with
        | .ok d => addTo d ds
        | .error _ => ds) f.directives
      let faults := read.filterMap fun r =>
        match r with
        | .ok _ => none
        | .error e => some e
      match patterns with
      | [] => (⟨directives, none⟩, faults)
      | source :: _ =>
        match Regex.compile? source with
        | .ok re => (⟨directives, some re⟩, faults)
        | .error e => (⟨directives, none⟩, faults ++ ["invalid regex filter - " ++ e.message])
  | [] => (f, [])

end Filter
end MailMerge.Log
