import MailMerge.Proofs.Json.Object

/-!
# Writing objects of texts

All the ways to write an object of texts in JSON: each character as it is, by a letter behind a
backslash, by its code or by the codes of a surrogate pair, and space wherever there may be some
(`WritesObject`). However an object is written, what is read are the pairs it was written from, put
into a record one after the other (`parse_of_writesObject`).

Where the grammar says what is left behind a part of a text, here a text is put together from its
parts.
-/

namespace MailMerge.Json

/-! ### Characters

A character may be written in all the ways that the grammar knows, and each of them is
allowed for each character that it can write. Digits may be small or capital, even within
one code. -/

/-- The letters that stand for characters behind a backslash. -/
def shortEscapes : List (Char × Char) :=
  [('"', '"'), ('\\', '\\'), ('/', '/'), ('\x08', 'b'), ('\x0C', 'f'), ('\n', 'n'), ('\r', 'r'),
    ('\t', 't')]

/-- A hexadecimal digit, as a small or as a capital letter. -/
def WritesDigit (n : Nat) (d : Char) : Prop :=
  n < 16 ∧ (d = Nat.digitChar n ∨ d = (Nat.digitChar n).toUpper)

/-- A code of four hexadecimal digits. -/
inductive WritesCode : Nat → List Char → Prop
  | mk {x y z w a b c d} : WritesDigit x a → WritesDigit y b → WritesDigit z c → WritesDigit w d →
      WritesCode (x * 0x1000 + y * 0x100 + z * 0x10 + w) [a, b, c, d]

/-- The ways to write a character between quotes. -/
inductive WritesChar : Char → List Char → Prop
  | raw {c} : ' ' ≤ c → c ≠ '"' → c ≠ '\\' → WritesChar c [c]
  | short {c l} : (c, l) ∈ shortEscapes → WritesChar c ['\\', l]
  | code {c ds} : WritesCode c.toNat ds → WritesChar c ('\\' :: 'u' :: ds)
  | pair {c first second ds es} : 0xD800 ≤ first → first ≤ 0xDBFF → 0xDC00 ≤ second →
      second ≤ 0xDFFF → c.toNat = 0x10000 + (first - 0xD800) * 0x400 + (second - 0xDC00) →
      WritesCode first ds → WritesCode second es →
      WritesChar c ('\\' :: 'u' :: ds ++ '\\' :: 'u' :: es)

/-! ### Objects

Space may stand around every token, and of any amount. Nothing else is left to choose once
the members and their texts are written. -/

/-- Any amount of space. -/
def WritesSpace (cs : List Char) : Prop := ∀ c ∈ cs, c = ' ' ∨ c = '\n' ∨ c = '\t' ∨ c = '\r'

/-- A text in quotes. -/
def WritesText (s : String) (cs : List Char) : Prop :=
  ∃ forms, List.Forall₂ WritesChar s.toList forms ∧ cs = '"' :: (forms.flatten ++ ['"'])

/-- A member of an object, with the space around it. -/
inductive WritesMember : String × String → List Char → Prop
  | mk {name value front key behind before text back} : WritesSpace front → WritesText name key →
      WritesSpace behind → WritesSpace before → WritesText value text → WritesSpace back →
      WritesMember (name, value)
        (front ++ key ++ behind ++ ':' :: (before ++ text ++ back))

/-- An object with these members in this order. -/
inductive WritesObject : List (String × String) → List Char → Prop
  | empty {front inside back} : WritesSpace front → WritesSpace inside → WritesSpace back →
      WritesObject [] (front ++ '{' :: (inside ++ '}' :: back))
  | members {pairs front members back} : WritesSpace front → pairs ≠ [] →
      List.Forall₂ WritesMember pairs members → WritesSpace back →
      WritesObject pairs (front ++ '{' :: ([','].intercalate members ++ '}' :: back))

/-! ### Reading characters

The relation `Spells` is put together from its end, as a text is here. That the codes
written are those of characters, and of pairs of halves, is what `Escape` asks for. -/

theorem hexDigit?_of_writesDigit {n : Nat} {d : Char} (h : WritesDigit n d) :
    Unicode.hexDigit? d = some n := by
  have hall : ∀ n < 16, Unicode.hexDigit? (Nat.digitChar n) = some n ∧
      Unicode.hexDigit? (Nat.digitChar n).toUpper = some n := by decide
  obtain ⟨hn, rfl | rfl⟩ := h
  · exact (hall n hn).1
  · exact (hall n hn).2

theorem hex4?_of_writesCode {n : Nat} {ds : List Char} (h : WritesCode n ds) :
    ∃ a b c d, ds = [a, b, c, d] ∧ hex4? a b c d = some n := by
  obtain ⟨ha, hb, hc, hd⟩ := h
  refine ⟨_, _, _, _, rfl, ?_⟩
  simp only [hex4?, hexDigit?_of_writesDigit ha, hexDigit?_of_writesDigit hb,
    hexDigit?_of_writesDigit hc, hexDigit?_of_writesDigit hd, Option.bind_eq_bind,
    Option.bind_some, Option.pure_def, Option.some.injEq]
  omega

/-- No character has the code of half of a surrogate pair. -/
theorem isSurrogate_toNat (c : Char) : isSurrogate c.toNat = false := by
  -- a character has no code in the range of the halves
  have hvalid : c.toNat < 0xD800 ∨ (0xDFFF < c.toNat ∧ c.toNat < 0x110000) := c.valid
  simp only [isSurrogate, isLeading, isTrailing, Bool.or_eq_false_iff, Bool.and_eq_false_iff,
    decide_eq_false_iff_not]
  omega

/-- However a character is written, it is the one spelled. -/
theorem spells_of_writesChar {c : Char} {form s cs rest : List Char} (h : WritesChar c form)
    (hs : Spells s cs rest) : Spells (c :: s) (form ++ cs) rest := by
  cases h with
  | raw hspace hquote hslash => exact .raw hspace hquote hslash hs
  | short hl =>
      have hall : ∀ p ∈ shortEscapes, escaped? p.2 = some p.1 := by decide
      exact .escape (.short (hall _ hl)) hs
  | code hcode =>
      obtain ⟨x, y, z, w, rfl, hn⟩ := hex4?_of_writesCode hcode
      have hescape : Escape (Char.ofNat c.toNat) ('u' :: x :: y :: z :: w :: cs) cs :=
        .code hn (isSurrogate_toNat c)
      rw [Char.ofNat_toNat] at hescape
      exact .escape hescape hs
  | @pair first second ds es hfirst hfirst' hsecond hsecond' hc hds hes =>
      obtain ⟨x, y, z, w, rfl, hm⟩ := hex4?_of_writesCode hds
      obtain ⟨x', y', z', w', rfl, hn⟩ := hex4?_of_writesCode hes
      have hleading : isLeading first = true := by simp [isLeading, hfirst, hfirst']
      -- both codes are in the range of their half, and together they are the code of the character
      have htrailing : isTrailing second = true := by simp [isTrailing, hsecond, hsecond']
      have hpair : ofPair first second = c := by rw [ofPair, ← hc, Char.ofNat_toNat]
      have hescape : Escape (ofPair first second)
          ('u' :: x :: y :: z :: w :: '\\' :: 'u' :: x' :: y' :: z' :: w' :: cs) cs :=
        .pair hm hleading hn htrailing
      rw [hpair] at hescape
      exact .escape hescape hs

theorem spells_of_writesChars {s : List Char} {forms : List (List Char)}
    (h : List.Forall₂ WritesChar s forms) (rest : List Char) :
    Spells s (forms.flatten ++ '"' :: rest) rest := by
  induction h with
  | nil => exact .close
  | cons hchar _ ih =>
      rw [List.flatten_cons, List.append_assoc]
      exact spells_of_writesChar hchar ih

/-- A text in quotes spells the text. -/
theorem exists_spells_of_writesText {s : String} {cs : List Char} (h : WritesText s cs)
    (rest : List Char) : ∃ body, cs ++ rest = '"' :: body ∧ Spells s.toList body rest := by
  obtain ⟨forms, hforms, rfl⟩ := h
  exact ⟨_, by simp, spells_of_writesChars hforms rest⟩

/-! ### Reading members

The reader looks for a comma in front of each member but the first. So what is left behind a
member is told up to space: the comma or the brace behind it is found by whoever reads on. -/

theorem gap_of_writesSpace {space : List Char} (h : WritesSpace space) (rest : List Char) :
    Gap (space ++ rest) rest := by
  induction space with
  | nil => exact .none
  | cons c space ih =>
      obtain ⟨hc, hspace⟩ := List.forall_mem_cons.mp h
      refine .space ?_ (ih hspace)
      rcases hc with rfl | rfl | rfl | rfl <;> rfl

/-- A member is put into the record. What is left is the space behind it. -/
theorem readMembers_of_writesMember {pair : String × String} {member : List Char}
    (h : WritesMember pair member) (r : Record) (rest : List Char) :
    ∃ left, Gap left rest ∧
      readMembers true r (member ++ rest) = readMembers false (r.insert pair.1 pair.2) left := by
  obtain ⟨hfront, hkey, hbehind, hbefore, htext, hback⟩ := h
  rename_i name value front key behind before text back
  obtain ⟨body, hbody, hvalue⟩ := exists_spells_of_writesText htext (back ++ rest)
  obtain ⟨k, hk, hname⟩ :=
    exists_spells_of_writesText hkey (behind ++ ':' :: (before ++ (text ++ (back ++ rest))))
  -- the key with all that stands behind it
  have hwritten : front ++ key ++ behind ++ ':' :: (before ++ text ++ back) ++ rest =
      front ++ '"' :: k := by
    rw [← hk]
    simp
  refine ⟨back ++ rest, gap_of_writesSpace hback rest, ?_⟩
  rw [hwritten, readMembers_of_nextKey (nextKey_first (gap_of_writesSpace hfront _)),
    readMember_of_spells hname (gap_of_writesSpace hbehind _), hbody,
    readValue_of_gap (gap_of_writesSpace hbefore _), readText_eq_ok_iff.mpr hvalue]
  simp [Except.map]

theorem exists_gap_of_writesMember {pair : String × String} {member : List Char}
    (h : WritesMember pair member) (rest : List Char) : ∃ k, Gap (member ++ rest) ('"' :: k) := by
  obtain ⟨hfront, ⟨forms, -, rfl⟩, -⟩ := h
  simp only [List.append_assoc, List.cons_append]
  exact ⟨_, gap_of_writesSpace hfront _⟩

/-- Members are put into the record in order. -/
theorem readMembers_of_writesMembers {pairs : List (String × String)} {members : List (List Char)}
    (h : List.Forall₂ WritesMember pairs members) (hne : pairs ≠ []) (r : Record)
    (rest : List Char) :
    readMembers true r ([','].intercalate members ++ '}' :: rest) =
      .ok (pairs.foldl (fun r p => r.insert p.1 p.2) r, rest) := by
  induction h generalizing r with
  | nil => exact absurd rfl hne
  | @cons pair member pairs members hmember hmembers ih =>
      -- what is left behind a member is read by the brace or the comma that follows it
      cases hmembers with
      | nil =>
          obtain ⟨left, hgap, hread⟩ := readMembers_of_writesMember hmember r ('}' :: rest)
          rw [List.intercalate_singleton, hread, readMembers_brace hgap]
          rfl
      | @cons pair' member' pairs members hmember' hmembers =>
          obtain ⟨left, hgap, hread⟩ := readMembers_of_writesMember hmember r
            (',' :: ([','].intercalate (member' :: members) ++ '}' :: rest))
          obtain ⟨k, hk⟩ : ∃ k,
              Gap ([','].intercalate (member' :: members) ++ '}' :: rest) ('"' :: k) := by
            cases members with
            | nil =>
                rw [List.intercalate_singleton]
                exact exists_gap_of_writesMember hmember' _
            | cons member'' members =>
                rw [List.intercalate_cons_cons, List.append_assoc, List.append_assoc]
                exact exists_gap_of_writesMember hmember' _
          rw [List.intercalate_cons_cons, List.append_assoc, List.append_assoc,
            List.singleton_append, hread, readMembers_comma hgap hk, ih (List.cons_ne_nil _ _)]
          rfl

/-! ### Reading objects

The members are put into the record as they come, so the record read is the one made of the
pairs in order, by `Record.ofList`. -/

theorem exists_gap_of_writesObject {pairs : List (String × String)} {cs : List Char}
    (h : WritesObject pairs cs) : ∃ rest, Gap cs ('{' :: rest) := by
  cases h with
  | empty hfront => exact ⟨_, gap_of_writesSpace hfront _⟩
  | members hfront => exact ⟨_, gap_of_writesSpace hfront _⟩

theorem readObject_of_members {cs v a : List Char} {r : Record} (hfront : Gap cs ('{' :: v))
    (hread : readMembers true .empty v = .ok (r, a)) (hback : Gap a []) :
    readObject cs = .ok r := by
  have hend : skipSpace a = [] := skipSpace_of_gap hback (by simp)
  simp [readObject, skipSpace_of_gap_cons hfront (by decide), hread, hend, bind, Except.bind, pure,
    Except.pure]

theorem readObject_of_writesObject {pairs : List (String × String)} {cs : List Char}
    (h : WritesObject pairs cs) : readObject cs = .ok (Record.ofList pairs) := by
  have hend : ∀ back, WritesSpace back → Gap back [] := fun back hback => by
    simpa using gap_of_writesSpace hback []
  cases h with
  | empty hfront hinside hback =>
      exact readObject_of_members (gap_of_writesSpace hfront _)
        (readMembers_brace (gap_of_writesSpace hinside _)) (hend _ hback)
  | members hfront hne hmembers hback =>
      exact readObject_of_members (gap_of_writesSpace hfront _)
        (readMembers_of_writesMembers hmembers hne .empty _) (hend _ hback)

/-- An object is read as the record of the pairs it was written from. -/
theorem parse_of_writesObject {pairs : List (String × String)} {text : String}
    (h : WritesObject pairs text.toList) : parse text = .ok (Record.ofList pairs) := by
  rw [parse, readObject_of_writesObject h]

end MailMerge.Json
