import MailMerge.Regex.Pattern

/-!
# Programs

A pattern is compiled to a `Program`: a list of instructions that each name the instructions to go
on with. Compiling works from the back to the front, so that what follows a part is already there
when the part is compiled; only a loop refers to an instruction whose content is filled in later.

    compile p next prog = (entry, prog')

means that a run that starts at `entry` in `prog'` matches `p` and goes on at `next`.
-/

namespace MailMerge.Regex

/-- An instruction, with the numbers of those that may follow. -/
inductive Instr where
  /-- The match is complete. -/
  | accept
  /-- Reads one character of a set. -/
  | chars (s : CharSet) (next : Nat)
  /-- Goes on at places that meet a condition. -/
  | look (l : Look) (next : Nat)
  /-- Goes on at the first instruction or, if that leads nowhere, at the second. -/
  | split (first second : Nat)
  deriving DecidableEq, Repr, Inhabited

/-- Instructions, referred to by their places in the list. -/
abbrev Program := Array Instr

namespace Program

/-- Adds an instruction and gives its number. -/
def emit (prog : Program) (i : Instr) : Nat × Program := (prog.size, prog.push i)

/-- A choice to do something first or to go on, or the other way round. -/
def choice (greedy : Bool) (more done : Nat) : Instr :=
  if greedy then .split more done else .split done more

end Program

/-- Compiles a part: given the number of what follows, the entry of the part and the program with
it. -/
abbrev Part := Nat → Program → Nat × Program

namespace Part

/-- The same part `n` times in a row. -/
def copies (part : Part) : Nat → Part
  | 0 => fun next prog => (next, prog)
  | n + 1 => fun next prog =>
    let (entry, prog) := copies part n next prog
    part entry prog

/-- A part once or more: behind each copy stands the choice to start it over. -/
def loop (greedy : Bool) (part : Part) : Part := fun next prog =>
  let (again, prog) := prog.emit .accept
  let (entry, prog) := part again prog
  (entry, prog.setIfInBounds again (Program.choice greedy entry next))

/-- A part once or not at all. -/
def optional (greedy : Bool) (part : Part) : Part := fun next prog =>
  let (entry, prog) := part next prog
  prog.emit (Program.choice greedy entry next)

/-- A part at most `n` times: each copy but the first is tried only behind the one before it, and
every choice to stop leads out of all of them. -/
def upTo (greedy : Bool) (part : Part) (next : Nat) : Nat → Program → Nat × Program
  | 0, prog => (next, prog)
  | n + 1, prog =>
    let (entry, prog) := upTo greedy part next n prog
    let (entry, prog) := part entry prog
    prog.emit (Program.choice greedy entry next)

/-- A part at least `min` times and at most `max` times. -/
def repeated (greedy : Bool) (min : Nat) (max : Option Nat) (part : Part) : Part :=
  match max, min with
  | none, 0 => optional greedy (loop greedy part)
  | none, min + 1 => fun next prog =>
    let (entry, prog) := loop greedy part next prog
    copies part min entry prog
  | some max, min => fun next prog =>
    let (entry, prog) := upTo greedy part next (max - min) prog
    copies part min entry prog

end Part

/-- Compiles a pattern in front of what follows. -/
def Pattern.compile : Pattern → Part
  | .empty => fun next prog => (next, prog)
  | .chars c => fun next prog => prog.emit (.chars c.toCharSet next)
  | .look l => fun next prog => prog.emit (.look l next)
  | .group _ p => p.compile
  | .seq p q => fun next prog =>
    let (entry, prog) := q.compile next prog
    p.compile entry prog
  | .alt p q => fun next prog =>
    let (second, prog) := q.compile next prog
    let (first, prog) := p.compile next prog
    prog.emit (.split first second)
  | .repeated greedy min max p => Part.repeated greedy min max p.compile

/-- The program of a whole pattern, with the number of its first instruction. -/
def Pattern.program (p : Pattern) : Nat × Program :=
  let (accept, prog) := Program.emit #[] .accept
  p.compile accept prog

end MailMerge.Regex
