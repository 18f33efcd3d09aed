import MailMerge.Proofs.Json.Grammar

/-!
# Reading the texts of JSON

The reader of texts takes exactly what spells characters (`readText_eq_ok_iff`). Of what the grammar
allows it refuses nothing but the halves of surrogate pairs (`readText_of_body`).
-/

namespace MailMerge.Json

/-- Whether a fault lies in half of a surrogate pair. -/
def Fault.isSurrogate : Fault → Bool
  | .loneSurrogate | .surrogateEnd => true
  | _ => false

/-! ### What the grammar allows

What the grammar allows behind the first character of a text, by what this character is. -/

theorem Body.of_raw {c : Char} {cs rest : List Char} (h : Body (c :: cs) rest) (hquote : c ≠ '"')
    (hslash : c ≠ '\\') : ' ' ≤ c ∧ Body cs rest := by
  cases h with
  | close => exact absurd rfl hquote
  | raw hc _ _ hbody => exact ⟨hc, hbody⟩
  | short => exact absurd rfl hslash
  | code => exact absurd rfl hslash

theorem Body.of_escape {l : Char} {cs rest : List Char} (h : Body ('\\' :: l :: cs) rest) :
    ((escaped? l).isSome = true ∧ Body cs rest) ∨
      l = 'u' ∧ ∃ a b c d cs', cs = a :: b :: c :: d :: cs' ∧ (hex4? a b c d).isSome = true ∧
        Body cs' rest := by
  cases h with
  | raw _ _ hslash => exact absurd rfl hslash
  | short hl hbody => exact Or.inl ⟨hl, hbody⟩
  | code hcode hbody => exact Or.inr ⟨rfl, _, _, _, _, _, rfl, hcode, hbody⟩

/-! ### Escapes

An escape by a code is read in two steps if the code is the first half of a surrogate pair:
then the second half must follow, as an escape of its own. To the grammar these are two
escapes; to the reader they are one, or a fault. -/

theorem readHex4_cons (a b c d : Char) (rest : List Char) :
    readHex4 (a :: b :: c :: d :: rest) =
      match hex4? a b c d with
      | some n => .ok (n, rest)
      | none => .error ⟨.invalidEscape, a :: b :: c :: d :: rest, 4⟩ := rfl

theorem readHex4_eq_ok {cs rest : List Char} {n : Nat} (h : readHex4 cs = .ok (n, rest)) :
    ∃ a b c d, cs = a :: b :: c :: d :: rest ∧ hex4? a b c d = some n := by
  unfold readHex4 at h
  split at h
  · next a b c d rest' =>
    split at h
    · next n' hn =>
      obtain ⟨rfl, rfl⟩ := Prod.mk.inj (Except.ok.inj h)
      exact ⟨a, b, c, d, rfl, hn⟩
    · cases h
  · split at h <;> cases h

theorem isTrailing_eq_false {n : Nat} (h : isLeading n = true) : isTrailing n = false := by
  simp only [isLeading, isTrailing, Bool.and_eq_true, Bool.and_eq_false_iff, decide_eq_true_eq,
    decide_eq_false_iff_not] at *
  omega

theorem readUnicode_eq_ok {cs rest : List Char} {c : Char} (h : readUnicode cs = .ok (c, rest)) :
    Escape c ('u' :: cs) rest := by
  unfold readUnicode at h
  simp only [bind, Except.bind, pure, Except.pure] at h
  split at h
  · cases h
  · next p hp =>
    obtain ⟨first, behind⟩ := p
    obtain ⟨x, y, z, w, rfl, hfirst⟩ := readHex4_eq_ok hp
    dsimp only at h
    split at h
    · cases h
    · next htrailing =>
      split at h
      · next hleading =>
        -- a second escape has to follow
        split at h
        · cases h
        · split at h
          · cases h
          · split at h
            · cases h
            · next q hq =>
              obtain ⟨second, last⟩ := q
              obtain ⟨x', y', z', w', rfl, hsecond⟩ := readHex4_eq_ok hq
              dsimp only at h
              split at h
              · next htrail =>
                obtain ⟨rfl, rfl⟩ := Prod.mk.inj (Except.ok.inj h)
                exact .pair hfirst hleading hsecond htrail
              · cases h
          · cases h
        · cases h
      · next hleading =>
        obtain ⟨rfl, rfl⟩ := Prod.mk.inj (Except.ok.inj h)
        refine .code hfirst ?_
        rw [isSurrogate, Bool.or_eq_false_iff]
        exact ⟨Bool.eq_false_iff.mpr hleading, Bool.eq_false_iff.mpr htrailing⟩

theorem escaped?_u : escaped? 'u' = none := rfl

/-- What is read behind a backslash is an escape, and every escape is read. -/
theorem readEscape_eq_ok_iff {cs rest : List Char} {c : Char} :
    readEscape cs = .ok (c, rest) ↔ Escape c cs rest := by
  constructor
  · intro h
    unfold readEscape at h
    split at h
    · cases h
    · exact readUnicode_eq_ok h
    · split at h
      · next d hd =>
        obtain ⟨rfl, rfl⟩ := Prod.mk.inj (Except.ok.inj h)
        exact .short hd
      · cases h
  -- a short escape or a code; a `u` is no short escape
  · intro h
    cases h with
    | @short c l rest hl =>
        unfold readEscape
        split
        · next heq => cases heq
        · next heq =>
          obtain ⟨rfl, -⟩ := List.cons.inj heq
          rw [escaped?_u] at hl
          cases hl
        · next heq =>
          obtain ⟨rfl, rfl⟩ := List.cons.inj heq
          rw [hl]
    | code hn hsurrogate =>
        rw [isSurrogate, Bool.or_eq_false_iff] at hsurrogate
        simp [readEscape, readUnicode, readHex4_cons, hn, hsurrogate, bind, Except.bind, pure,
          Except.pure]
    | pair hm hleading hn htrailing =>
        simp [readEscape, readUnicode, readHex4_cons, hm, hn, hleading, htrailing,
          isTrailing_eq_false hleading, bind, Except.bind, pure, Except.pure]

/-- Behind the first half of a surrogate pair the grammar allows the second half, or a fault. -/
theorem readUnicode_of_leading {a b c d : Char} {m : Nat} {cs rest : List Char}
    (hm : hex4? a b c d = some m) (hleading : isLeading m = true) (h : Body cs rest) :
    (∃ ch cs', readUnicode (a :: b :: c :: d :: cs) = .ok (ch, cs') ∧ Body cs' rest) ∨
      ∃ e, readUnicode (a :: b :: c :: d :: cs) = .error e ∧ e.fault.isSurrogate = true := by
  unfold readUnicode
  simp only [readHex4_cons, hm, isTrailing_eq_false hleading, hleading, bind, Except.bind, if_true,
    Bool.false_eq_true, if_false]
  -- what the grammar allows next is the end, a character, another escape or another code, and
  -- only that last one can be the second half
  cases h with
  | close => exact Or.inr ⟨_, rfl, rfl⟩
  | raw _ _ hslash =>
      right
      split
      · next heq => cases heq
      · next heq => exact absurd (List.cons.inj heq).1 hslash
      · exact ⟨_, rfl, rfl⟩
  | @short l cs _ hl hbody =>
      have hu : l ≠ 'u' := by
        rintro rfl
        cases hl
      exact Or.inr ⟨_, by simp [hu]; rfl, rfl⟩
  | @code a' b' c' d' cs _ hcode hbody =>
      obtain ⟨n, hn⟩ := Option.isSome_iff_exists.mp hcode
      simp only [readHex4_cons, hn]
      cases isTrailing n with
      | true => exact Or.inl ⟨_, cs, rfl, hbody⟩
      | false => exact Or.inr ⟨_, rfl, rfl⟩

/-- Behind a backslash the grammar allows an escape, or half of a surrogate pair. -/
theorem readEscape_of_body {cs rest : List Char} (h : Body ('\\' :: cs) rest) :
    (∃ c cs', readEscape cs = .ok (c, cs') ∧ Body cs' rest) ∨
      ∃ e, readEscape cs = .error e ∧ e.fault.isSurrogate = true := by
  cases h with
  | raw _ _ hne => exact absurd rfl hne
  | @short l cs _ hl hbody =>
      obtain ⟨c, hc⟩ := Option.isSome_iff_exists.mp hl
      exact Or.inl ⟨c, cs, readEscape_eq_ok_iff.mpr (.short hc), hbody⟩
  | @code a b c d cs _ hcode hbody =>
      obtain ⟨m, hm⟩ := Option.isSome_iff_exists.mp hcode
      -- the first half of a pair, the second half alone, or a character
      cases hleading : isLeading m with
      | true => exact readUnicode_of_leading hm hleading hbody
      | false =>
          cases htrailing : isTrailing m with
          | true =>
              right
              simp only [readEscape, readUnicode, readHex4_cons, hm, htrailing, bind, Except.bind]
              exact ⟨_, rfl, rfl⟩
          | false =>
              have hsurrogate : isSurrogate m = false := by
                rw [isSurrogate, hleading, htrailing]
                rfl
              exact Or.inl ⟨_, cs, readEscape_eq_ok_iff.mpr (.code hm hsurrogate), hbody⟩

/-! ### Whole texts

A text is read character by character, with what was read so far in reverse. The reader and
the relation `Spells` go along the same characters; the grammar goes along too, but sees two
escapes where the reader sees a pair. -/

theorem readText_close (read rest : List Char) :
    readText read ('"' :: rest) = .ok (read.reverse, rest) := by
  rw [readText]

theorem readText_raw {c : Char} (hc : ' ' ≤ c) (hquote : c ≠ '"') (hslash : c ≠ '\\')
    (read cs : List Char) : readText read (c :: cs) = readText (c :: read) cs := by
  rw [readText, if_neg (Char.not_lt.mpr hc)]
  · exact hquote
  · exact hslash

theorem readText_escape {c : Char} {cs cs' : List Char} (h : readEscape cs = .ok (c, cs'))
    (read : List Char) : readText read ('\\' :: cs) = readText (c :: read) cs' := by
  rw [readText]
  split
  · next h' => rw [h] at h'; cases h'
  · next h' =>
    rw [h] at h'
    cases h'
    rfl

theorem readText_of_spells {s cs rest : List Char} (h : Spells s cs rest) (read : List Char) :
    readText read cs = .ok (read.reverse ++ s, rest) := by
  induction h generalizing read with
  | close => rw [readText_close, List.append_nil]
  | raw hc hquote hslash _ ih =>
      rw [readText_raw hc hquote hslash, ih, List.reverse_cons, List.append_assoc]
      rfl
  | escape hescape _ ih =>
      rw [readText_escape (readEscape_eq_ok_iff.mpr hescape), ih, List.reverse_cons,
        List.append_assoc]
      rfl

theorem exists_spells_of_readText {read s cs rest : List Char}
    (h : readText read cs = .ok (s, rest)) : ∃ t, Spells t cs rest ∧ s = read.reverse ++ t := by
  fun_induction readText read cs with
  | case1 => cases h
  | case2 read rest' =>
      obtain ⟨rfl, rfl⟩ := Prod.mk.inj (Except.ok.inj h)
      exact ⟨[], .close, (List.append_nil _).symm⟩
  | case3 => cases h
  | case4 read cs c cs' hescape ih =>
      obtain ⟨t, ht, rfl⟩ := ih h
      refine ⟨c :: t, .escape (readEscape_eq_ok_iff.mp hescape) ht, ?_⟩
      rw [List.reverse_cons, List.append_assoc]
      rfl
  | case5 => cases h
  | case6 read c cs hquote hslash hc ih =>
      obtain ⟨t, ht, rfl⟩ := ih h
      refine ⟨c :: t, .raw (Char.not_lt.mp hc) hquote hslash ht, ?_⟩
      rw [List.reverse_cons, List.append_assoc]
      rfl

/-- What is read as a text spells its characters, and all that spells characters is read. -/
theorem readText_eq_ok_iff {s cs rest : List Char} :
    readText [] cs = .ok (s, rest) ↔ Spells s cs rest := by
  constructor
  · intro h
    obtain ⟨t, ht, rfl⟩ := exists_spells_of_readText h
    exact ht
  · exact fun h => readText_of_spells h []

/-- A text of the grammar is read, unless half of a surrogate pair stands alone in it. -/
theorem readText_of_body {cs rest : List Char} (h : Body cs rest) (read : List Char) :
    (∃ s, readText read cs = .ok (s, rest)) ∨
      ∃ e, readText read cs = .error e ∧ e.fault.isSurrogate = true := by
  fun_induction readText read cs with
  | case1 => cases h
  | case2 read rest' =>
      cases h with
      | close => exact Or.inl ⟨_, rfl⟩
      | raw _ hquote => exact absurd rfl hquote
  | case3 read cs e hescape =>
      -- the grammar allows the escape, so the fault is half of a pair
      rcases readEscape_of_body h with ⟨c, cs', hok, -⟩ | ⟨e', herror, hfault⟩
      · rw [hok] at hescape
        cases hescape
      · rw [herror] at hescape
        cases hescape
        exact Or.inr ⟨_, rfl, hfault⟩
  | case4 read cs c cs' hescape ih =>
      -- what is left behind the escape is a text of the grammar again
      rcases readEscape_of_body h with ⟨c', cs'', hok, hbody⟩ | ⟨e', herror, -⟩
      · rw [hok] at hescape
        cases hescape
        exact ih hbody
      · rw [herror] at hescape
        cases hescape
  | case5 read c cs hquote hslash hc =>
      cases h with
      | close => exact absurd rfl hquote
      | raw hc' => exact absurd hc (Char.not_lt.mpr hc')
      | short => exact absurd rfl hslash
      | code => exact absurd rfl hslash
  | case6 read c cs hquote hslash hc ih =>
      cases h with
      | close => exact absurd rfl hquote
      | raw _ _ _ hbody => exact ih hbody
      | short => exact absurd rfl hslash
      | code => exact absurd rfl hslash

end MailMerge.Json
