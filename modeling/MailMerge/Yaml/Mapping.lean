import MailMerge.Record
import MailMerge.Yaml.Token

/-!
# Rule sets in YAML

A rule set in YAML is one document that holds a mapping from texts to texts, or nothing. What kind
of value a scalar looks like does not matter: every scalar is the text it is written with, and a
missing key or value is the empty text. Lists and further mappings are refused.

A text may be given a name and be repeated by it. A name is looked up when it is read, but the text
it stands for only when the whole document is known.
-/

namespace MailMerge.Yaml

/-- A key or value as it is read. -/
inductive Leaf where
  | text (t : List Char)
  /-- What the anchor with a number stands for. -/
  | alias (id : Nat)
  deriving DecidableEq, Repr

/-- The names given so far. Each name has a number, and each number a text, or none if it stands for
a collection. -/
structure Anchors where
  ids : List (List Char × Nat)
  targets : List (Nat × Option (List Char))
  deriving DecidableEq, Repr

namespace Anchors

def empty : Anchors := ⟨[], []⟩

/-- Gives a name. Its number is the number of different names given before. -/
def define (a : Anchors) (target : Option (List Char)) : Option (List Char) → Anchors
  | none => a
  | some name =>
    let id := a.ids.length
    ⟨(name, id) :: a.ids.filter (·.1 ≠ name), (id, target) :: a.targets⟩

/-- The text of a key or value. -/
def text? (a : Anchors) : Leaf → Option (List Char)
  | .text t => some t
  | .alias id => (a.targets.lookup id).join

end Anchors

/-! ### Keys and values -/

/-- What stands in front of a scalar or collection. -/
structure Properties where
  anchor : Option (List Char)
  tagged : Bool
  deriving DecidableEq, Repr

/-- Whether anything stands in front. -/
def Properties.any (p : Properties) : Bool := p.anchor.isSome || p.tagged

/-- Passes an anchor. -/
def takeAnchor : List Token → Option (List Char) × List Token
  | .anchor name :: rest => (some name, rest)
  | ts => (none, ts)

/-- Passes a tag, the handle of which must be known. -/
def takeTag? (handles : List (List Char)) : List Token → Option (Bool × List Token)
  | .tag handle :: rest => if handle = [] ∨ handle ∈ handles then some (true, rest) else none
  | ts => some (false, ts)

/-- Passes an anchor and a tag in either order. -/
def takeProperties? (handles : List (List Char)) (ts : List Token) :
    Option (Properties × List Token) := do
  let (anchor, ts) := takeAnchor ts
  let (tagged, ts) ← takeTag? handles ts
  -- a tag may stand in front of the anchor as well
  if anchor.isSome then return (⟨anchor, tagged⟩, ts)
  else
    let (anchor, ts) := takeAnchor ts
    return (⟨anchor, tagged⟩, ts)

/-- Reads a key or value. -/
def leaf? (handles : List (List Char)) (a : Anchors) (ts : List Token) :
    Option (Leaf × Anchors × List Token) :=
  match ts with
  | .alias name :: rest => (a.ids.lookup name).map fun id => (.alias id, a, rest)
  | _ =>
    match takeProperties? handles ts with
    | none => none
    | some (p, .scalar t :: rest) => some (.text t, a.define (some t) p.anchor, rest)
    | some (p, rest) =>
      if p.any then some (.text [], a.define (some []) p.anchor, rest) else none

/-- Reads a key or value that is empty if one of some tokens follows. -/
def slot? (handles : List (List Char)) (ends : List Token) (a : Anchors) (ts : List Token) :
    Option (Leaf × Anchors × List Token) :=
  if ts.head?.any ends.contains then some (.text [], a, ts) else leaf? handles a ts

/-- Reads the value behind a key, which is missing without its token. -/
def valueSlot? (handles : List (List Char)) (ends : List Token) (a : Anchors) :
    List Token → Option (Leaf × Anchors × List Token)
  | .value :: rest => slot? handles ends a rest
  | ts => some (.text [], a, ts)

/-! No reader leaves more tokens than it was given. -/

theorem length_takeAnchor (ts : List Token) : (takeAnchor ts).2.length ≤ ts.length := by
  unfold takeAnchor
  split <;> simp

theorem length_takeTag {handles : List (List Char)} {ts : List Token} {r : Bool × List Token}
    (h : takeTag? handles ts = some r) : r.2.length ≤ ts.length := by
  unfold takeTag? at h
  split at h
  · split at h
    · obtain rfl := Option.some.inj h
      simp
    · simp at h
  · obtain rfl := Option.some.inj h
    simp

theorem length_takeProperties {handles : List (List Char)} {ts : List Token}
    {r : Properties × List Token} (h : takeProperties? handles ts = some r) :
    r.2.length ≤ ts.length := by
  simp only [takeProperties?, bind, Option.bind] at h
  have first := length_takeAnchor ts
  split at h
  · simp at h
  · next tagged htag =>
    have second := length_takeTag htag
    have third := length_takeAnchor tagged.2
    split at h <;> obtain rfl := Option.some.inj h <;> simp only <;> omega

theorem length_leaf {handles : List (List Char)} {a : Anchors} {ts : List Token}
    {r : Leaf × Anchors × List Token} (h : leaf? handles a ts = some r) :
    r.2.2.length ≤ ts.length := by
  unfold leaf? at h
  split at h
  · obtain ⟨id, -, rfl⟩ := Option.map_eq_some_iff.1 h
    simp
  · split at h
    · simp at h
    · next htake =>
      have := length_takeProperties htake
      obtain rfl := Option.some.inj h
      simp only [List.length_cons] at this
      simp only
      omega
    · next htake =>
      have := length_takeProperties htake
      split at h
      · obtain rfl := Option.some.inj h
        exact this
      · simp at h

theorem length_slot {handles : List (List Char)} {ends : List Token} {a : Anchors}
    {ts : List Token} {r : Leaf × Anchors × List Token} (h : slot? handles ends a ts = some r) :
    r.2.2.length ≤ ts.length := by
  unfold slot? at h
  split at h
  · obtain rfl := Option.some.inj h
    simp
  · exact length_leaf h

theorem length_valueSlot {handles : List (List Char)} {ends : List Token} {a : Anchors}
    {ts : List Token} {r : Leaf × Anchors × List Token}
    (h : valueSlot? handles ends a ts = some r) : r.2.2.length ≤ ts.length := by
  unfold valueSlot? at h
  split at h
  · have := length_slot h
    simp only [List.length_cons]
    omega
  · obtain rfl := Option.some.inj h
    simp

/-! ### Mappings

In block style each entry begins with the mark of its key, and the mapping ends with the
block. In flow style commas part the entries, and a key may stand without its mark. Keys and
values are read in the same way in both. -/

/-- A mapping as it is read: keys with values, the names given, and the tokens behind it. -/
abbrev Entries := List (Leaf × Leaf) × Anchors × List Token

/-- Reads the entries of a mapping in block style. -/
def blockEntries? (handles : List (List Char)) (a : Anchors) : List Token → Option Entries
  | .blockEnd :: rest => some ([], a, rest)
  | .key :: rest =>
    match _hk : slot? handles [.key, .value, .blockEnd] a rest with
    | none => none
    | some (key, a, rest) =>
      match _hv : valueSlot? handles [.key, .value, .blockEnd] a rest with
      | none => none
      | some (value, a, rest) =>
        (blockEntries? handles a rest).map fun (entries, more) => ((key, value) :: entries, more)
  | _ => none
termination_by ts => ts.length
decreasing_by
  have hk := length_slot _hk
  have hv := length_valueSlot _hv
  simp only [List.length_cons] at *
  omega

/-- Reads one entry of a mapping in flow style. -/
def flowEntry? (handles : List (List Char)) (a : Anchors) :
    List Token → Option ((Leaf × Leaf) × Anchors × List Token)
  | .key :: rest =>
    match slot? handles [.value, .flowEntry, .flowMappingEnd] a rest with
    | none => none
    | some (key, a, rest) =>
      (valueSlot? handles [.flowEntry, .flowMappingEnd] a rest).map fun (value, more) =>
        ((key, value), more)
  -- a key without its mark has no value either
  | ts => (leaf? handles a ts).map fun (key, more) => ((key, .text []), more)

theorem length_flowEntry {handles : List (List Char)} {a : Anchors} {ts : List Token}
    {r : (Leaf × Leaf) × Anchors × List Token} (h : flowEntry? handles a ts = some r) :
    r.2.2.length ≤ ts.length := by
  unfold flowEntry? at h
  split at h
  · split at h
    · simp at h
    · next hk =>
      obtain ⟨v, hv, rfl⟩ := Option.map_eq_some_iff.1 h
      have hk := length_slot hk
      have hv := length_valueSlot hv
      simp only [List.length_cons] at *
      omega
  · obtain ⟨v, hv, rfl⟩ := Option.map_eq_some_iff.1 h
    exact length_leaf hv

/-- Reads the entries of a mapping in flow style behind the comma in front of the next one. A comma
may stand behind the last one. -/
def flowEntries? (handles : List (List Char)) (a : Anchors) : List Token → Option Entries
  | .flowMappingEnd :: rest => some ([], a, rest)
  | ts =>
    match _h : flowEntry? handles a ts with
    | some (entry, a, .flowMappingEnd :: rest) => some ([entry], a, rest)
    | some (entry, a, .flowEntry :: rest) =>
      (flowEntries? handles a rest).map fun (entries, more) => (entry :: entries, more)
    | _ => none
termination_by ts => ts.length
decreasing_by
  have := length_flowEntry _h
  simp only [List.length_cons] at this
  omega

/-! ### Documents -/

/-- Reads the root of a document. A root that is missing behind its properties is a mapping without
entries. A scalar that is written out is not, even if it is empty. -/
def root? (handles : List (List Char)) (ts : List Token) : Option Entries :=
  match takeProperties? handles ts with
  | none => none
  | some (p, .blockMappingStart :: rest) =>
    blockEntries? handles (Anchors.empty.define none p.anchor) rest
  | some (p, .flowMappingStart :: rest) =>
    flowEntries? handles (Anchors.empty.define none p.anchor) rest
  | some (_, .scalar _ :: _) => none
  | some (p, rest) => if p.any then some ([], .empty, rest) else none

/-- The handles that need no directive. -/
def standardHandles : List (List Char) := [['!'], ['!', '!']]

/-- Passes the directives of a document and gives the handles they define. There may be one version,
1.1 or 1.2, and each handle may be defined once. -/
def directives? (versionSeen : Bool) (handles : List (List Char)) :
    List Token → Option (List (List Char) × List Token)
  | .versionDirective major minor :: rest =>
    if versionSeen ∨ major ≠ 1 ∨ (minor ≠ 1 ∧ minor ≠ 2) then none
    else directives? true handles rest
  | .tagDirective handle :: rest =>
    if handle ∈ handles then none else directives? versionSeen (handle :: handles) rest
  | ts => some (handles, ts)

/-- Whether a document has no content: the next token belongs to no node. -/
def isBareDocument : List Token → Bool
  | [] | .versionDirective .. :: _ | .tagDirective _ :: _ | .documentStart :: _
  | .documentEnd :: _ => true
  | _ => false

/-- Reads the first document. Directives need a start mark behind them. -/
def document? (ts : List Token) : Option Entries :=
  match directives? false [] ts with
  | none => none
  | some (handles, .documentStart :: rest) =>
    if isBareDocument rest then some ([], .empty, rest) else root? (standardHandles ++ handles) rest
  | some (_, rest) =>
    if ts = [] then some ([], .empty, [])
    -- no directive was passed, so no start mark is needed
    else if rest.length = ts.length then root? standardHandles rest
    else none

/-- The text of keys and values. -/
def Anchors.resolve? (a : Anchors) (e : Leaf × Leaf) : Option (String × String) := do
  return (String.ofList (← a.text? e.1), String.ofList (← a.text? e.2))

/-- The rules that a text writes in YAML, if it is one document that is a mapping of texts. -/
def parse? (text : String) : Option Record := do
  let (entries, anchors, rest) ← document? (← tokens? text.toList)
  guard (rest.all (· = .documentEnd))
  return Record.ofList (← entries.mapM anchors.resolve?)

end MailMerge.Yaml
