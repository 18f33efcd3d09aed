import MailMerge.Proofs.Json.Value

/-!
# Reading objects of texts

What is read as an object of texts is one (`flatDocument_of_readObject`). The fault lies in the kind
of a value exactly in a `Misfit`: a text that is in order up to a place where a value of another kind
begins (`misfit_iff`). Whether anything behind that place is JSON plays no part.
-/

namespace MailMerge.Json

/-- Texts in order up to a value of an object: all before it are members whose values are texts. -/
inductive AtValue : List Char → List Char → Prop
  | here {cs v} : Key Spelled cs v → AtValue cs v
  | next {cs v a b w} : Key Spelled cs v → Quoted Spelled v a → Gap a (',' :: b) → AtValue b w →
      AtValue cs w

/-- A text in which a value of another kind begins where an object or a text is needed. -/
inductive Misfit : List Char → Prop
  | top {cs v} : Gap cs v → Start v → v.head? ≠ some '\x7b' → Misfit cs
  | member {cs b v} : Gap cs ('{' :: b) → AtValue b v → Start v → v.head? ≠ some '"' → Misfit cs

/-- An object in which a number that is out of range begins where a text is needed. -/
def Overflow (cs : List Char) : Prop := ∃ b v, Gap cs ('{' :: b) ∧ AtValue b v ∧ TooLarge v

/-- Members up to a text with half of a surrogate pair, all before it being texts. -/
inductive Stuck : List Char → Prop
  | here {cs} : Halved cs → Stuck ('"' :: cs)
  | space {c cs} : isSpace c = true → Stuck cs → Stuck (c :: cs)
  | mark {c cs} : c = ':' ∨ c = ',' → Stuck cs → Stuck (c :: cs)
  | text {cs rest} : Body cs rest → Stuck rest → Stuck ('"' :: cs)

/-- A document that is no object of texts, but in which the reader does not come to tell the kind of
a value or to a number of an object. -/
inductive Refused : List Char → Prop
  | text {cs t} : Gap cs ('"' :: t) → Halved t → Refused cs
  | number {cs v rest} : Gap cs v → Magnitude v rest → Gap rest [] → Refused cs
  | negative {cs v rest} : Gap cs ('-' :: v) → Magnitude v rest → Gap rest [] → Refused cs
  | object {cs b} : Gap cs ('{' :: b) → Stuck b → Refused cs

variable {cs rest : List Char}

/-! ### Space

The reader skips space in one go where the grammar takes it character by character. The two
meet as soon as the place that is reached does not begin with space, which is true of
everything the grammar lets stand there. -/

theorem gap_skipSpace (cs : List Char) : Gap cs (skipSpace cs) := by
  unfold skipSpace
  induction cs with
  | nil => exact .none
  | cons c cs ih =>
      rw [List.dropWhile_cons]
      split
      · next hc => exact .space hc ih
      · exact .none

theorem skipSpace_of_gap (h : Gap cs rest) (hrest : ∀ c ∈ rest.head?, isSpace c = false) :
    skipSpace cs = rest := by
  unfold skipSpace
  induction h with
  | @none rest =>
      cases rest with
      | nil => rfl
      | cons c rest =>
          rw [List.dropWhile_cons, hrest c rfl]
          -- the head is no space, so nothing is dropped
          rfl
  | space hc _ ih => rw [List.dropWhile_cons, if_pos hc, ih hrest]

/-- Space is skipped up to a character that is none. -/
theorem skipSpace_of_gap_cons {c : Char} (h : Gap cs (c :: rest)) (hc : isSpace c = false) :
    skipSpace cs = c :: rest :=
  skipSpace_of_gap h (by simpa using hc)

theorem gap_of_skipSpace (h : skipSpace cs = rest) : Gap cs rest := h ▸ gap_skipSpace cs

theorem eq_of_gap {c : Char} (h : Gap (c :: cs) rest) (hc : isSpace c = false) :
    rest = c :: cs := by
  cases h with
  | none => rfl
  | space hspace =>
      rw [hc] at hspace
      cases hspace

theorem isSpace_of_isDigit {d : Char} (hd : d.isDigit = true) : isSpace d = false := by
  cases hspace : isSpace d with
  | false => rfl
  | true =>
      simp only [isSpace, Bool.or_eq_true, decide_eq_true_eq] at hspace
      rcases hspace with ((rfl | rfl) | rfl) | rfl <;> cases hd

theorem head?_of_start (h : Start cs) : ∃ c, cs.head? = some c ∧ isSpace c = false := by
  cases h with
  | number hmagnitude =>
      obtain ⟨d, ds, rfl, hd⟩ := hmagnitude.exists_cons
      exact ⟨d, rfl, isSpace_of_isDigit hd⟩
  | _ => exact ⟨_, rfl, by decide⟩

theorem head?_of_tooLarge (h : TooLarge cs) :
    ∃ c, cs.head? = some c ∧ isSpace c = false ∧ c ≠ '"' := by
  cases h with
  | number hmagnitude =>
      obtain ⟨d, ds, rfl, hd⟩ := hmagnitude.exists_cons
      exact ⟨d, rfl, isSpace_of_isDigit hd, ne_of_isDigit hd (by decide)⟩
  | negative => exact ⟨'-', rfl, by decide, by decide⟩

/-! ### One member

A value is read only after its first character has said of which kind it is. The grammar
gives that character through `Gap`, so each of these equations needs one look at it. -/

theorem readValue_of_gap {t : List Char} (h : Gap cs ('"' :: t)) :
    readValue cs = readText [] t := by
  simp only [readValue, skipSpace_of_gap_cons h (by decide)]

theorem readValue_of_gap_of_ne {v : List Char} {c : Char} (h : Gap cs v) (hc : v.head? = some c)
    (hspace : isSpace c = false) (hquote : c ≠ '"') : readValue cs = wrongType .text v := by
  obtain ⟨v, rfl⟩ := List.head?_eq_some_iff.mp hc
  unfold readValue
  rw [skipSpace_of_gap_cons h hspace]
  split
  · next heq => cases heq
  · next heq => exact absurd (List.cons.inj heq).1 hquote
  · rfl

theorem readMember_of_spells {s k a b : List Char} (hkey : Spells s k a)
    (hcolon : Gap a (':' :: b)) :
    readMember k = (readValue b).map fun (value, rest) => ((s, value), rest) := by
  unfold readMember
  rw [readText_eq_ok_iff.mpr hkey]
  simp only [bind, Except.bind, skipSpace_of_gap_cons hcolon (by decide)]
  cases readValue b <;> rfl

theorem spells_of_readMember {k name value : List Char}
    (h : readMember k = .ok ((name, value), rest)) :
    ∃ a b, Spells name k a ∧ Gap a (':' :: b) ∧ readValue b = .ok (value, rest) := by
  unfold readMember at h
  -- a key, the colon behind it, and the value: three places where a member can break off
  simp only [bind, Except.bind, pure, Except.pure] at h
  split at h
  · cases h
  · next p hp =>
    obtain ⟨key, a⟩ := p
    dsimp only at h
    split at h
    · cases h
    · next b hb =>
      split at h
      · cases h
      · next q hq =>
        obtain ⟨v, c⟩ := q
        cases h
        exact ⟨a, b, readText_eq_ok_iff.mp hp, gap_of_skipSpace hb, hq⟩
    · cases h

/-! ### From member to member

`nextKey` answers three ways: a fault, the closing brace, or a key. Each answer is taken
apart once here; from then on members are read and recognised by these lemmas alone. -/

theorem nextKey_first {k : List Char} (h : Gap cs ('"' :: k)) :
    nextKey true cs = .ok (some k, k) := by
  simp [nextKey, skipSpace_of_gap_cons h (by decide)]

theorem nextKey_comma {b k : List Char} (h : Gap cs (',' :: b)) (hkey : Gap b ('"' :: k)) :
    nextKey false cs = .ok (some k, k) := by
  simp [nextKey, skipSpace_of_gap_cons h (by decide), skipSpace_of_gap_cons hkey (by decide)]

theorem nextKey_brace {isFirst : Bool} (h : Gap cs ('}' :: rest)) :
    nextKey isFirst cs = .ok (none, rest) := by
  simp [nextKey, skipSpace_of_gap_cons h (by decide)]

theorem gap_of_nextKey_none {isFirst : Bool} (h : nextKey isFirst cs = .ok (none, rest)) :
    Gap cs ('}' :: rest) := by
  unfold nextKey at h
  split at h
  · cases h
  · next hbrace =>
    cases h
    exact gap_of_skipSpace hbrace
  -- the other branches find a key or a fault, never the end
  · split at h
    · split at h <;> cases h
    · split at h
      · split at h <;> cases h
      · cases h

theorem gap_of_nextKey_first {k a : List Char} (h : nextKey true cs = .ok (some k, a)) :
    Gap cs ('"' :: k) := by
  unfold nextKey at h
  split at h
  · cases h
  · cases h
  · next c b _ hc =>
    rw [if_pos rfl] at h
    split at h
    · next hquote =>
      cases h
      exact hquote ▸ gap_of_skipSpace hc
    · cases h

theorem gap_of_nextKey_comma {k a : List Char} (h : nextKey false cs = .ok (some k, a)) :
    ∃ b, Gap cs (',' :: b) ∧ Gap b ('"' :: k) := by
  unfold nextKey at h
  split at h
  · cases h
  · cases h
  · next c b _ hc =>
    -- not the first member, so a comma has to come before the key
    rw [if_neg (by decide)] at h
    split at h
    · next hcomma =>
      split at h
      · cases h
      · next hquote =>
        cases h
        exact ⟨b, hcomma ▸ gap_of_skipSpace hc, gap_of_skipSpace hquote⟩
      · cases h
      · cases h
    · cases h

theorem isWrongType_of_nextKey {isFirst : Bool} {e : Stop} (h : nextKey isFirst cs = .error e) :
    e.fault.isWrongType = false := by
  unfold nextKey at h
  -- a fault of this function is about punctuation, in each of its branches
  split at h
  · cases h
    rfl
  · cases h
  · split at h
    · split at h
      · cases h
      · cases h
        rfl
    · split at h
      · split at h
        · cases h
          rfl
        · cases h
        · cases h
          rfl
        · cases h
          rfl
      · cases h
        rfl

/-- What is read behind the key whose place is found. -/
theorem readMembers_of_nextKey {isFirst : Bool} {r : Record} {k a : List Char}
    (h : nextKey isFirst cs = .ok (some k, a)) :
    readMembers isFirst r cs =
      match readMember k with
      | .error e => .error e
      | .ok ((name, value), rest) =>
        readMembers false (r.insert (String.ofList name) (String.ofList value)) rest := by
  rw [readMembers]
  split
  · next h' =>
    rw [h] at h'
    cases h'
  · next h' =>
    rw [h] at h'
    cases h'
  -- the branch that agrees with `h`; the other two cannot
  · next h' =>
    rw [h] at h'
    cases h'
    split
    · next hm => rw [hm]
    · next hm => rw [hm]

theorem readMembers_brace {isFirst : Bool} {r : Record} (h : Gap cs ('}' :: rest)) :
    readMembers isFirst r cs = .ok (r, rest) := by
  rw [readMembers]
  split
  · next h' =>
    rw [nextKey_brace h] at h'
    cases h'
  · next h' =>
    rw [nextKey_brace h] at h'
    cases h'
    rfl
  · next h' =>
    rw [nextKey_brace h] at h'
    cases h'

/-- Behind a comma members are read like first ones. -/
theorem readMembers_comma {r : Record} {b k : List Char} (h : Gap cs (',' :: b))
    (hkey : Gap b ('"' :: k)) : readMembers false r cs = readMembers true r b := by
  rw [readMembers_of_nextKey (nextKey_comma h hkey), readMembers_of_nextKey (nextKey_first hkey)]

/-- Where the next member begins: here, or behind a comma. -/
def Next (isFirst : Bool) (cs b : List Char) : Prop := if isFirst then b = cs else Gap cs (',' :: b)

theorem next_of_nextKey {isFirst : Bool} {k a : List Char}
    (h : nextKey isFirst cs = .ok (some k, a)) :
    ∃ b, Next isFirst cs b ∧ Gap b ('"' :: k) := by
  cases isFirst with
  | true => exact ⟨cs, rfl, gap_of_nextKey_first h⟩
  | false => exact gap_of_nextKey_comma h

/-! ### Faults in the kind of a value

Both directions of `misfit_iff` are here. Forwards, the fault is followed back through the
calls that passed it on, down to the character `wrongType` looked at. Backwards, everything
before that character is read without a fault, so the reader comes to it. -/

theorem Key.exists_gap {K : List Char → List Char → Prop} {v : List Char} (h : Key K cs v) :
    ∃ k, Gap cs ('"' :: k) := by
  obtain ⟨hgap, -⟩ := h
  exact ⟨_, hgap⟩

theorem AtValue.exists_gap {v : List Char} (h : AtValue cs v) : ∃ k, Gap cs ('"' :: k) := by
  cases h with
  | here hkey => exact hkey.exists_gap
  | next hkey => exact hkey.exists_gap

theorem readMembers_of_member {v a : List Char} (hkey : Key Spelled cs v)
    (hvalue : Quoted Spelled v a) (r : Record) :
    ∃ r', readMembers true r cs = readMembers false r' a := by
  obtain ⟨hgap, ⟨name, hname⟩, hcolon, hv⟩ := hkey
  obtain ⟨t, rfl, value, hvalue⟩ := hvalue
  refine ⟨r.insert (String.ofList name) (String.ofList value), ?_⟩
  rw [readMembers_of_nextKey (nextKey_first hgap), readMember_of_spells hname hcolon,
    readValue_of_gap hv, readText_eq_ok_iff.mpr hvalue]
  rfl

/-- The first value that is no text stops the reader. -/
theorem readMembers_of_atValue {v : List Char} (h : AtValue cs v) {c : Char} (hc : v.head? = some c)
    (hspace : isSpace c = false) (hquote : c ≠ '"') {e : Stop}
    (he : (wrongType .text v : Except Stop (List Char × List Char)) = .error e) (r : Record) :
    readMembers true r cs = .error e := by
  induction h generalizing r with
  | here hkey =>
      obtain ⟨hgap, ⟨name, hname⟩, hcolon, hv⟩ := hkey
      rw [readMembers_of_nextKey (nextKey_first hgap), readMember_of_spells hname hcolon,
        readValue_of_gap_of_ne hv hc hspace hquote, he]
      rfl
  -- one member in order, then the comma, then the same question behind it
  | next hkey hvalue hcomma hnext ih =>
      obtain ⟨r', hr'⟩ := readMembers_of_member hkey hvalue r
      obtain ⟨k, hk⟩ := hnext.exists_gap
      rw [hr', readMembers_comma hcomma hk]
      exact ih hc he r'

theorem isWrongType_of_readValue {e : Stop} (h : readValue cs = .error e)
    (he : e.fault.isWrongType = true) : ∃ v, Gap cs v ∧ Start v ∧ v.head? ≠ some '"' := by
  unfold readValue at h
  split at h
  -- the text ended before a value began
  · cases h
    cases he
  -- a text that is not in order has a fault of its own
  · rw [isWrongType_of_readText h] at he
    cases he
  · next hquote =>
    refine ⟨skipSpace cs, gap_skipSpace cs, start_of_wrongType h he, fun hhead => ?_⟩
    obtain ⟨rest, hrest⟩ := List.head?_eq_some_iff.mp hhead
    exact hquote rest hrest

theorem isWrongType_of_readMember {k : List Char} {e : Stop} (h : readMember k = .error e)
    (he : e.fault.isWrongType = true) :
    ∃ a b v, Spelled k a ∧ Gap a (':' :: b) ∧ Gap b v ∧ Start v ∧ v.head? ≠ some '"' := by
  unfold readMember at h
  simp only [bind, Except.bind] at h
  split at h
  · next he' =>
    cases h
    -- the fault lies in the key, and a key has no other kind to be of
    rw [isWrongType_of_readText he'] at he
    cases he
  · next p hp =>
    obtain ⟨name, a⟩ := p
    dsimp only at h
    split at h
    -- no colon behind the key
    · cases h
      cases he
    · next b hb =>
      split at h
      · next he' =>
        cases h
        obtain ⟨v, hv, hstart, hquote⟩ := isWrongType_of_readValue he' he
        exact ⟨a, b, v, ⟨name, readText_eq_ok_iff.mp hp⟩, gap_of_skipSpace hb, hv, hstart, hquote⟩
      · cases h
    · cases h
      cases he

theorem key_of_readMember {b k name value : List Char} (hgap : Gap b ('"' :: k))
    (h : readMember k = .ok ((name, value), rest)) :
    ∃ v, Key Spelled b v ∧ Quoted Spelled v rest := by
  obtain ⟨a, c, hname, hcolon, hvalue⟩ := spells_of_readMember h
  unfold readValue at hvalue
  split at hvalue
  · cases hvalue
  · next t ht =>
    exact ⟨_, ⟨hgap, ⟨name, hname⟩, hcolon, gap_of_skipSpace ht⟩, t, rfl, value,
      readText_eq_ok_iff.mp hvalue⟩
  · unfold wrongType at hvalue
    split at hvalue <;> cases hvalue

/-- The fault lies in the kind of a value only where all before the value is in order. -/
theorem atValue_of_readMembers {isFirst : Bool} {r : Record} {e : Stop}
    (h : readMembers isFirst r cs = .error e) (he : e.fault.isWrongType = true) :
    ∃ b v, Next isFirst cs b ∧ AtValue b v ∧ Start v ∧ v.head? ≠ some '"' := by
  fun_induction readMembers isFirst r cs with
  | case1 isFirst r cs e' hk =>
      cases h
      rw [isWrongType_of_nextKey hk] at he
      cases he
  | case2 => cases h
  | case3 isFirst r cs k a hk e' hm =>
      -- this member is the one at fault
      cases h
      obtain ⟨b, hnext, hgap⟩ := next_of_nextKey hk
      obtain ⟨c, d, v, hname, hcolon, hv, hstart, hquote⟩ := isWrongType_of_readMember hm he
      exact ⟨b, v, hnext, .here ⟨hgap, hname, hcolon, hv⟩, hstart, hquote⟩
  | case4 isFirst r cs k a hk name value rest hm ih =>
      -- it is one behind, so this member is in order and a comma follows it
      obtain ⟨b, hnext, hgap⟩ := next_of_nextKey hk
      obtain ⟨v, hkey, hvalue⟩ := key_of_readMember hgap hm
      obtain ⟨b', w, hcomma, hat, hstart, hquote⟩ := ih h
      exact ⟨b, w, hnext, .next hkey hvalue hcomma hat, hstart, hquote⟩

/-! ### Whole documents -/

/-- The fault lies in the kind of a value exactly where a value of another kind begins and all
before it is in order. -/
theorem misfit_iff :
    (∃ e, readObject cs = .error e ∧ e.fault.isWrongType = true) ↔ Misfit cs := by
  constructor
  · rintro ⟨e, h, he⟩
    unfold readObject at h
    split at h
    · cases h
      cases he
    · next rest hbrace =>
      simp only [bind, Except.bind] at h
      split at h
      · next he' =>
        cases h
        obtain ⟨b, v, rfl, hat, hstart, hquote⟩ := atValue_of_readMembers he' he
        exact .member (gap_of_skipSpace hbrace) hat hstart hquote
      · split at h
        · cases h
        · cases h
          cases he
    · next hbrace =>
      -- no brace at the top: the kind of the document itself is the fault
      refine .top (gap_skipSpace cs) (start_of_wrongType h he) fun hhead => ?_
      obtain ⟨rest, hrest⟩ := List.head?_eq_some_iff.mp hhead
      exact hbrace rest hrest
  · intro h
    cases h with
    -- any first character is told from a brace
    | top hgap hstart hbrace =>
        obtain ⟨e, he, hfault⟩ := wrongType_of_start hstart .object
        obtain ⟨c, hc, hspace⟩ := head?_of_start hstart
        obtain ⟨v, rfl⟩ := List.head?_eq_some_iff.mp hc
        refine ⟨e, ?_, hfault⟩
        unfold readObject
        rw [skipSpace_of_gap_cons hgap hspace]
        split
        · next heq => cases heq
        · next heq => exact absurd (congrArg List.head? heq) hbrace
        · exact he
    -- the members before the value are read, then its first character stops the reader
    | member hgap hat hstart hquote =>
        obtain ⟨e, he, hfault⟩ := wrongType_of_start hstart .text
        obtain ⟨c, hc, hspace⟩ := head?_of_start hstart
        have hne : c ≠ '"' := fun heq => hquote (heq ▸ hc)
        have hread := readMembers_of_atValue hat hc hspace hne he .empty
        refine ⟨e, ?_, hfault⟩
        simp [readObject, skipSpace_of_gap_cons hgap (by decide), hread, bind, Except.bind]

theorem readObject_of_overflow (h : Overflow cs) :
    ∃ e, readObject cs = .error e ∧ e.fault = .numberOutOfRange := by
  obtain ⟨b, v, hgap, hat, hlarge⟩ := h
  obtain ⟨e, he, hfault⟩ := wrongType_of_tooLarge hlarge .text
  obtain ⟨c, hc, hspace, hquote⟩ := head?_of_tooLarge hlarge
  have hread := readMembers_of_atValue hat hc hspace hquote he .empty
  exact ⟨e, by simp [readObject, skipSpace_of_gap_cons hgap (by decide), hread, bind, Except.bind],
    hfault⟩

theorem Overflow.not_misfit (h : Overflow cs) : ¬ Misfit cs := by
  intro hmisfit
  obtain ⟨e, he, hfault⟩ := readObject_of_overflow h
  obtain ⟨e', he', hwrong⟩ := misfit_iff.mpr hmisfit
  obtain rfl := Except.error.inj (he.symm.trans he')
  rw [hfault] at hwrong
  cases hwrong

theorem Spells.body {s : List Char} (h : Spells s cs rest) : Body cs rest := by
  induction h with
  | close => exact .close
  | raw hc hquote hslash _ ih => exact .raw hc hquote hslash ih
  | escape hescape _ ih =>
      -- a pair of escapes stands for one character, but is two pieces of the text
      cases hescape with
      | short hl => exact .short (by rw [hl]; rfl) ih
      | code hn => exact .code (by rw [hn]; rfl) ih
      | pair hm _ hn => exact .code (by rw [hm]; rfl) (.code (by rw [hn]; rfl) ih)

theorem Spelled.body (h : Spelled cs rest) : Body cs rest := h.elim fun _ => Spells.body

theorem Key.body {v : List Char} (h : Key Spelled cs v) : Key Body cs v := by
  obtain ⟨hgap, hkey, hcolon, hv⟩ := h
  exact ⟨hgap, hkey.body, hcolon, hv⟩

theorem Quoted.body (h : Quoted Spelled cs rest) : Quoted Body cs rest := by
  obtain ⟨t, hcs, ht⟩ := h
  exact ⟨t, hcs, ht.body⟩

/-- What is read as the members of an object are members whose values are texts. -/
theorem members_of_readMembers {isFirst : Bool} {r r' : Record}
    (h : readMembers isFirst r cs = .ok (r', rest)) :
    Gap cs ('}' :: rest) ∨
      ∃ b, Next isFirst cs b ∧ Members Body (Quoted Body) b rest := by
  fun_induction readMembers isFirst r cs with
  | case1 => cases h
  | case2 isFirst r cs rest' hk =>
      cases h
      exact Or.inl (gap_of_nextKey_none hk)
  | case3 => cases h
  -- the member just read is the last one, or a comma follows it
  | case4 isFirst r cs k a hk name value rest' hm ih =>
      obtain ⟨b, hnext, hgap⟩ := next_of_nextKey hk
      obtain ⟨v, hkey, hvalue⟩ := key_of_readMember hgap hm
      rcases ih h with hbrace | ⟨b', hcomma, hmembers⟩
      · exact Or.inr ⟨b, hnext, .last hkey.body hvalue.body hbrace⟩
      · exact Or.inr ⟨b, hnext, .more hkey.body hvalue.body hcomma hmembers⟩

/-- What is read as an object of texts is one. -/
theorem flatDocument_of_readObject {r : Record} (h : readObject cs = .ok r) : FlatDocument cs := by
  unfold readObject at h
  split at h
  · cases h
  · next v hbrace =>
    simp only [bind, Except.bind] at h
    split at h
    · cases h
    · next p hp =>
      obtain ⟨r', a⟩ := p
      have hgap := gap_of_skipSpace hbrace
      dsimp only at h
      split at h
      · next hend =>
        have hbehind : Gap a [] := gap_of_skipSpace (List.isEmpty_iff.mp hend)
        rcases members_of_readMembers hp with hempty | ⟨b, rfl, hmembers⟩
        · exact ⟨v, a, hgap, Or.inl hempty, hbehind⟩
        · exact ⟨b, a, hgap, Or.inr hmembers, hbehind⟩
      · cases h
  -- a fault is no record
  · unfold wrongType at h
    split at h <;> cases h

theorem Members.mono {K P P' : List Char → List Char → Prop} (hP : ∀ {v a}, P v a → P' v a)
    (h : Members K P cs rest) : Members K P' cs rest := by
  induction h with
  | last hkey hvalue hbrace => exact .last hkey (hP hvalue) hbrace
  | more hkey hvalue hcomma _ ih => exact .more hkey (hP hvalue) hcomma ih

theorem FlatDocument.document (h : FlatDocument cs) : Document cs := by
  obtain ⟨v, a, hgap, hempty | hmembers, hbehind⟩ := h
  · exact ⟨_, a, hgap, .emptyObject hempty, hbehind⟩
  · refine ⟨_, a, hgap, .object (hmembers.mono fun hvalue => ?_), hbehind⟩
    obtain ⟨t, rfl, ht⟩ := hvalue
    exact .text ht

/-- A member of a flat object is passed, or stops the reader for half of a surrogate pair. -/
theorem readMembers_of_flat_member {v a : List Char} (hkey : Key Body cs v)
    (hvalue : Quoted Body v a) :
    (∀ r, ∃ r', readMembers true r cs = readMembers false r' a) ∨
      ∀ r, ∃ e, readMembers true r cs = .error e ∧ e.fault.isSurrogate = true := by
  obtain ⟨hgap, hk, hcolon, hv⟩ := hkey
  obtain ⟨t, rfl, ht⟩ := hvalue
  rcases readText_of_body hk [] with ⟨name, hname⟩ | ⟨e, he, hfault⟩
  -- the key is read; now the value decides
  · have hspells := readText_eq_ok_iff.mp hname
    rcases readText_of_body ht [] with ⟨value, hvalue⟩ | ⟨e, he, hfault⟩
    · exact Or.inl (readMembers_of_member ⟨hgap, ⟨name, hspells⟩, hcolon, hv⟩
        ⟨t, rfl, value, readText_eq_ok_iff.mp hvalue⟩)
    · refine Or.inr fun r => ⟨e, ?_, hfault⟩
      rw [readMembers_of_nextKey (nextKey_first hgap), readMember_of_spells hspells hcolon,
        readValue_of_gap hv, he]
      rfl
  -- the key itself has half of a pair
  · refine Or.inr fun r => ⟨e, ?_, hfault⟩
    rw [readMembers_of_nextKey (nextKey_first hgap), readMember, he]
    rfl

theorem Members.exists_gap {K P : List Char → List Char → Prop} (h : Members K P cs rest) :
    ∃ k, Gap cs ('"' :: k) := by
  cases h with
  | last hkey => exact hkey.exists_gap
  | more hkey => exact hkey.exists_gap

theorem readMembers_of_flat (h : Members Body (Quoted Body) cs rest) (r : Record) :
    (∃ r', readMembers true r cs = .ok (r', rest)) ∨
      ∃ e, readMembers true r cs = .error e ∧ e.fault.isSurrogate = true := by
  -- the members before are read by the first alternative or have stopped the reader
  induction h generalizing r with
  | last hkey hvalue hbrace =>
      rcases readMembers_of_flat_member hkey hvalue with hread | hstop
      · obtain ⟨r', hr'⟩ := hread r
        exact Or.inl ⟨r', by rw [hr', readMembers_brace hbrace]⟩
      · exact Or.inr (hstop r)
  | more hkey hvalue hcomma hmembers ih =>
      rcases readMembers_of_flat_member hkey hvalue with hread | hstop
      · obtain ⟨r', hr'⟩ := hread r
        obtain ⟨k, hk⟩ := hmembers.exists_gap
        rw [hr', readMembers_comma hcomma hk]
        exact ih r'
      · exact Or.inr (hstop r)

/-- An object of texts is read, unless half of a surrogate pair stands alone in it. -/
theorem readObject_of_flatDocument (h : FlatDocument cs) :
    (∃ r, readObject cs = .ok r) ∨ ∃ e, readObject cs = .error e ∧ e.fault.isSurrogate = true := by
  obtain ⟨v, a, hgap, hinside, hbehind⟩ := h
  have hend : skipSpace a = [] := skipSpace_of_gap hbehind (by simp)
  have hread : (∃ r', readMembers true .empty v = .ok (r', a)) ∨
      ∃ e, readMembers true .empty v = .error e ∧ e.fault.isSurrogate = true := by
    rcases hinside with hempty | hmembers
    · exact Or.inl ⟨.empty, readMembers_brace hempty⟩
    · exact readMembers_of_flat hmembers .empty
  rcases hread with ⟨r', hr'⟩ | ⟨e, he, hfault⟩
  · left
    exact ⟨r', by
      simp [readObject, skipSpace_of_gap_cons hgap (by decide), hr', hend, bind, Except.bind]; rfl⟩
  · right
    exact ⟨e, by simp [readObject, skipSpace_of_gap_cons hgap (by decide), he, bind, Except.bind],
      hfault⟩

theorem Misfit.not_flat (h : Misfit cs) : ¬ FlatDocument cs := by
  intro hflat
  obtain ⟨e, he, hwrong⟩ := misfit_iff.mpr h
  rcases readObject_of_flatDocument hflat with ⟨r, hr⟩ | ⟨e', he', hfault⟩
  · rw [hr] at he
    cases he
  · obtain rfl := Except.error.inj (he.symm.trans he')
    -- no fault is both about a kind and about a surrogate
    generalize e.fault = fault at hwrong hfault
    cases fault with
    | wrongType => cases hfault
    | _ => cases hwrong

theorem Overflow.not_flat (h : Overflow cs) : ¬ FlatDocument cs := by
  intro hflat
  obtain ⟨e, he, hrange⟩ := readObject_of_overflow h
  rcases readObject_of_flatDocument hflat with ⟨r, hr⟩ | ⟨e', he', hfault⟩
  · rw [hr] at he
    cases he
  · obtain rfl := Except.error.inj (he.symm.trans he')
    rw [hrange] at hfault
    cases hfault

/-! ### What becomes of a document -/

theorem Stuck.of_gap (h : Gap cs rest) (hrest : Stuck rest) : Stuck cs := by
  induction h with
  | none => exact hrest
  | space hc _ ih => exact .space hc (ih hrest)

/-- The key of a member stands for characters, or has half of a surrogate pair. -/
theorem Key.cases {v : List Char} (h : Key Body cs v) : Key Spelled cs v ∨ Stuck cs := by
  obtain ⟨hgap, hkey, hcolon, hv⟩ := h
  rcases hkey.spelled_or_halved with hspelled | hhalved
  · exact Or.inl ⟨hgap, hspelled, hcolon, hv⟩
  · exact Or.inr (.of_gap hgap (.here hhalved))

theorem Stuck.of_key {v : List Char} (h : Key Body cs v) (hv : Stuck v) : Stuck cs := by
  obtain ⟨hgap, hkey, hcolon, hgap'⟩ := h
  exact .of_gap hgap (.text hkey (.of_gap hcolon (.mark (Or.inl rfl) (.of_gap hgap' hv))))

/-- The first value of an object that is no text decides what becomes of it. -/
theorem Members.cases (h : Members Body Value cs rest) :
    Members Body (Quoted Body) cs rest ∨
      (∃ v, AtValue cs v ∧ Start v ∧ v.head? ≠ some '"') ∨ (∃ v, AtValue cs v ∧ TooLarge v) ∨
      Stuck cs := by
  induction h with
  | last hkey hvalue hbrace =>
      rcases hkey.cases with hspelled | hstuck
      · rcases hvalue.cases with htext | ⟨hstart, hquote⟩ | hlarge
        · exact Or.inl (.last hkey htext hbrace)
        · exact Or.inr (Or.inl ⟨_, .here hspelled, hstart, hquote⟩)
        · exact Or.inr (Or.inr (Or.inl ⟨_, .here hspelled, hlarge⟩))
      · exact Or.inr (Or.inr (Or.inr hstuck))
  | more hkey hvalue hcomma _ ih =>
      rcases hkey.cases with hspelled | hstuck
      · rcases hvalue.cases with ⟨t, rfl, ht⟩ | ⟨hstart, hquote⟩ | hlarge
        -- the value is a text: whether it can be read decides if the members behind it count
        · rcases ht.spelled_or_halved with ht' | hhalved
          · rcases ih with hmembers | ⟨w, hat, hw⟩ | ⟨w, hat, hw⟩ | hstuck
            · exact Or.inl (.more hkey ⟨t, rfl, ht⟩ hcomma hmembers)
            · exact Or.inr (Or.inl ⟨w, .next hspelled ⟨t, rfl, ht'⟩ hcomma hat, hw⟩)
            · exact Or.inr (Or.inr (Or.inl ⟨w, .next hspelled ⟨t, rfl, ht'⟩ hcomma hat, hw⟩))
            -- what is stuck behind the comma is stuck from here too
            · have hbehind : Stuck ('"' :: t) :=
                .text ht (.of_gap hcomma (.mark (Or.inr rfl) hstuck))
              exact Or.inr (Or.inr (Or.inr (.of_key hkey hbehind)))
          -- the value has half of a pair, so nothing behind it is looked at
          · exact Or.inr (Or.inr (Or.inr (.of_key hkey (.here hhalved))))
        · exact Or.inr (Or.inl ⟨_, .here hspelled, hstart, hquote⟩)
        · exact Or.inr (Or.inr (Or.inl ⟨_, .here hspelled, hlarge⟩))
      · exact Or.inr (Or.inr (Or.inr hstuck))

/-- A document is an object of texts, or the first value of another kind shows its kind or is a
number out of range, or the reader comes to neither. -/
theorem Document.cases (h : Document cs) :
    FlatDocument cs ∨ Misfit cs ∨ Overflow cs ∨ Refused cs := by
  obtain ⟨v, a, hgap, hvalue, hbehind⟩ := h
  have hkind : Start v → v.head? ≠ some '\x7b' → Misfit cs := Misfit.top hgap
  cases hvalue with
  | null => exact Or.inr (Or.inl (hkind .null (by simp)))
  | true => exact Or.inr (Or.inl (hkind .true (by simp)))
  | false => exact Or.inr (Or.inl (hkind .false (by simp)))
  | number hmagnitude => exact Or.inr (Or.inr (Or.inr (.number hgap hmagnitude hbehind)))
  | negative hmagnitude => exact Or.inr (Or.inr (Or.inr (.negative hgap hmagnitude hbehind)))
  | emptyArray => exact Or.inr (Or.inl (hkind .array (by simp)))
  | array => exact Or.inr (Or.inl (hkind .array (by simp)))
  | emptyObject hempty => exact Or.inl ⟨_, a, hgap, Or.inl hempty, hbehind⟩
  -- the reader takes the text in to name it in its error, and half of a pair stops it there
  | text hbody =>
      rcases hbody.spelled_or_halved with hspelled | hhalved
      · exact Or.inr (Or.inl (hkind (.text hspelled) (by simp)))
      · exact Or.inr (Or.inr (Or.inr (.text hgap hhalved)))
  | object hmembers =>
      rcases hmembers.cases with hflat | ⟨w, hat, hstart, hquote⟩ | ⟨w, hat, hlarge⟩ | hstuck
      · exact Or.inl ⟨_, a, hgap, Or.inr hflat, hbehind⟩
      · exact Or.inr (Or.inl (.member hgap hat hstart hquote))
      · exact Or.inr (Or.inr (Or.inl ⟨_, w, hgap, hat, hlarge⟩))
      · exact Or.inr (Or.inr (Or.inr (.object hgap hstuck)))

end MailMerge.Json
