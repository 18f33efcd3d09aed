import MailMerge.Proofs.Filler
import Mathlib.Logic.ExistsUnique

/-!
# Escaped texts

A text is escaped by a backslash before each of its characters that means something in a pattern.
An escaped text is a pattern for the text itself (`replaceAll_escape`), so a replace pattern that is
escaped around the place for names makes filling a template plain replacement of text. Then a
template and a file name are filled alike: once a pattern and once by text, with the same result
(`fill_escape`).
-/

namespace MailMerge

namespace Regex

/-- A character, behind a backslash if it means something in a pattern. -/
def escapeChar (c : Char) : List Char := if isMeta c then ['\\', c] else [c]

/-- The pattern for a text. -/
def escape (s : String) : String := String.ofList (s.toList.flatMap escapeChar)

theorem toList_escape (s : String) : (escape s).toList = s.toList.flatMap escapeChar := by
  rw [escape, String.toList_ofList]

/-- A character needs no backslash where escaping gives it none. -/
theorem isPlain_of_isMeta_eq_false {c : Char} (h : isMeta c = false) : isPlain c = true := by
  have hsub : "\\.+*?()|[]\x7b\x7d^$".toList.all isMeta = true := by decide
  rw [isPlain, Bool.not_eq_true', ← Bool.not_eq_true]
  -- the characters that mean something to a pattern are among those that are escaped
  intro hspecial
  rw [List.all_eq_true.mp hsub c (List.contains_iff_mem.mp hspecial)] at h
  cases h

theorem writes_escape (s : String) : Writes (escape s).toList s.toList := by
  rw [toList_escape]
  induction s.toList with
  | nil => exact .nil
  | cons c cs ih =>
      have hone : Writes (escapeChar c) [c] := by
        unfold escapeChar
        split
        · next h => exact ⟨[.escaped c h], rfl, rfl⟩
        · next h =>
            rw [Bool.not_eq_true] at h
            exact ⟨[.plain c (isPlain_of_isMeta_eq_false h)], rfl, rfl⟩
      exact hone.append ih

/-- An escaped text matches the text and nothing else. -/
theorem replaceAll_escape {literal : String} {re : Regex} (hne : literal ≠ "")
    (hre : compilePattern (escape literal) = .ok re) (text new : String) :
    re.replaceAll text new = Text.replace text literal new :=
  replaceAll_of_writes (writes_escape literal) hne (compilePattern_eq_ok_iff.mp hre) text new

end Regex

namespace Placeholder

/-- Whether a replace pattern has one place for names and not more. -/
def HasOnePlace (source : String) : Prop :=
  ∃! n, variableToken.toList <+: source.toList.drop n

theorem lt_of_token_prefix_drop {source : String} {n : Nat}
    (h : variableToken.toList <+: source.toList.drop n) : n < source.toList.length := by
  have hlen := h.length_le
  have htoken : variableToken.toList.length = 8 := by decide
  rw [List.length_drop, htoken] at hlen
  omega

/-- Only places inside a replace pattern have to be looked at. -/
theorem hasOnePlace_iff {source : String} : HasOnePlace source ↔
    ∃ n < source.toList.length, variableToken.toList <+: source.toList.drop n ∧
      ∀ m < source.toList.length, variableToken.toList <+: source.toList.drop m → m = n := by
  constructor
  -- only inside the replace pattern there is room for the token
  · rintro ⟨n, hn, honly⟩
    exact ⟨n, lt_of_token_prefix_drop hn, hn, fun m _ => honly m⟩
  · rintro ⟨n, -, hn, honly⟩
    exact ⟨n, hn, fun m hm => honly m (lt_of_token_prefix_drop hm) hm⟩

instance (source : String) : Decidable (HasOnePlace source) := decidable_of_iff' _ hasOnePlace_iff

variable {front back : String}

theorem token_prefix_drop (front back : String) :
    variableToken.toList <+: (front ++ variableToken ++ back).toList.drop front.toList.length := by
  rw [String.toList_append, String.toList_append, List.append_assoc, List.drop_left]
  exact List.prefix_append _ _

/-- A replace pattern with a place for names is accepted. -/
theorem exists_ofString (front back : String) :
    ∃ p, ofString (front ++ variableToken ++ back) = .ok p ∧
      p.source = front ++ variableToken ++ back := by
  have hoccurs : Text.contains (front ++ variableToken ++ back) variableToken = true :=
    Text.occursIn_iff.mpr ⟨_, token_prefix_drop front back⟩
  refine ⟨⟨_, hoccurs⟩, ?_, rfl⟩
  rw [ofString, dif_pos hoccurs]

/-- In a replace pattern with one place for names, the name is put in there. -/
theorem patternFor_of_hasOnePlace {p : Placeholder}
    (hsource : p.source = front ++ variableToken ++ back) (hone : HasOnePlace p.source)
    (v : String) : p.patternFor v = front ++ v ++ back := by
  obtain ⟨n, -, honly⟩ := hone
  have hplace : ∀ i, variableToken.toList <+: p.source.toList.drop i → i = front.toList.length := by
    intro i hi
    have hfront := token_prefix_drop front back
    rw [← hsource] at hfront
    rw [honly i hi, honly _ hfront]
  have hchars : p.source.toList = front.toList ++ (variableToken.toList ++ back.toList) := by
    rw [hsource, String.toList_append, String.toList_append, List.append_assoc]
  rw [hchars] at hplace
  -- the token begins nowhere before its place, and nowhere behind it
  have hbefore : ∀ n < front.toList.length, ¬ variableToken.toList <+:
      (front.toList ++ (variableToken.toList ++ back.toList)).drop n := by
    intro n hn hoccurs
    exact Nat.ne_of_lt hn (hplace n hoccurs)
  have hbehind : ∀ n < back.toList.length, ¬ variableToken.toList <+: back.toList.drop n := by
    intro n _ hoccurs
    -- a place behind the token would be a second one
    have hi := hplace (front.toList.length + (variableToken.toList.length + n)) <| by
      rw [List.drop_append, List.drop_append]
      simpa [List.drop_eq_nil_of_le] using hoccurs
    have hpos : 0 < variableToken.toList.length := by decide
    omega
  apply String.toList_inj.mp
  rw [patternFor, Text.replace, String.toList_ofList, hchars, Text.replaceChars_append hbefore,
    Text.replaceChars_old_append (by decide), Text.replaceChars_eq_self hbehind,
    String.toList_append, String.toList_append, List.append_assoc]

end Placeholder

namespace Filler

/-- Around the place for names escaped text stands for itself, and names without special characters
do so anywhere. -/
theorem writes_escape_name (front back : String) {v : String}
    (h : ∀ c ∈ v.toList, Regex.isPlain c = true) :
    Regex.Writes (Regex.escape front ++ v ++ Regex.escape back).toList
      (front ++ v ++ back).toList := by
  simp only [String.toList_append]
  have hfront := (Regex.writes_escape front).append (Regex.writes_of_plain h)
  exact hfront.append (Regex.writes_escape back)

/-- Filling with an escaped replace pattern replaces plain text. -/
theorem fill_eq_foldl_replace {front back : String} {p : Placeholder} {names : List String}
    {f : Filler} (hsource : p.source = Regex.escape front ++ variableToken ++ Regex.escape back)
    (hone : Placeholder.HasOnePlace p.source)
    (hnames : ∀ v ∈ names, v ≠ "" ∧ ∀ c ∈ v.toList, Regex.isPlain c = true)
    (hf : ofNames p names = .ok f) (template : String) (r : Record) :
    f.fill template r = names.foldl (fun text v => match r.get? v with
      | some value => Text.replace text (front ++ v ++ back) value
      | none => text) template := by
  refine fill_eq_foldl hf (fun v hv re hre text value => ?_) template r
  obtain ⟨hne, hplain⟩ := hnames v hv
  -- a name is not empty, so the placeholder is no empty text
  have hliteral : front ++ v ++ back ≠ "" := by
    intro hempty
    have hchars := congrArg String.toList hempty
    rw [String.toList_append, String.toList_append] at hchars
    have hv := (List.append_eq_nil_iff.mp (List.append_eq_nil_iff.mp hchars).1).2
    exact hne (String.toList_eq_nil_iff.mp hv)
  unfold Placeholder.compile at hre
  rw [Placeholder.patternFor_of_hasOnePlace hsource hone, compilePattern_eq_ok_iff] at hre
  exact Regex.replaceAll_of_writes (writes_escape_name front back hplain) hliteral hre text value

/-- **Replacing matches of escaped text is replacing text.** So it is for a whole replace pattern
that is escaped but for its one place for names: variable by variable, the values are put in for the
plain placeholders. With the default replace pattern this is what makes the name of a file. -/
theorem fill_escape :
    (∀ (literal : String) (re : Regex), literal ≠ "" →
      compilePattern (Regex.escape literal) = .ok re →
      ∀ text new, re.replaceAll text new = Text.replace text literal new) ∧
    (∀ front back : String,
      Placeholder.HasOnePlace (Regex.escape front ++ variableToken ++ Regex.escape back) →
      ∃ p, Placeholder.ofString (Regex.escape front ++ variableToken ++ Regex.escape back) = .ok p ∧
        ∀ (names : List String) (f : Filler),
          (∀ v ∈ names, v ≠ "" ∧ ∀ c ∈ v.toList, Regex.isPlain c = true) →
          ofNames p names = .ok f → ∀ (template : String) (r : Record),
            f.fill template r = names.foldl (fun text v => match r.get? v with
              | some value => Text.replace text (front ++ v ++ back) value
              | none => text) template) ∧
    ∃ p, Placeholder.ofString (Regex.escape "@" ++ variableToken ++ Regex.escape "") = .ok p ∧
      ∀ (names : List String) (f : Filler),
        (∀ v ∈ names, ∀ c ∈ v.toList, Regex.isPlain c = true) →
        ofNames p names = .ok f → ∀ (template : String) (r : Record),
          f.fill template r = FileName.resolve template names r := by
  refine ⟨fun literal re hne hre => Regex.replaceAll_escape hne hre, fun front back hone => ?_, ?_⟩
  · obtain ⟨p, hp, hsource⟩ :=
      Placeholder.exists_ofString (Regex.escape front) (Regex.escape back)
    rw [← hsource] at hone
    exact ⟨p, hp, fun names f hnames hf => fill_eq_foldl_replace hsource hone hnames hf⟩
  -- the replace pattern that is the default is escaped as it stands
  · obtain ⟨p, hp, -⟩ := Placeholder.exists_ofString (Regex.escape "@") (Regex.escape "")
    have hdefault : Regex.escape "@" ++ variableToken ++ Regex.escape "" =
        Options.defaultPlaceholder := by decide
    rw [hdefault] at hp ⊢
    exact ⟨p, hp, fun names f hplain hf => fill_eq_resolve hp hf hplain⟩

/-- A text that overlaps itself, placeholders between braces whose first value brings in another
placeholder, and a file name in which one name starts with the other. -/
theorem fill_escape_of_braces :
    (∃ re, compilePattern (Regex.escape "a.a") = .ok re ∧
      re.replaceAll "a.a.axa" "$1" = "$1.axa") ∧
    (∃ p f, Placeholder.ofString "\\\x7b\\\x7bvariable\\\x7d\\\x7d" = .ok p ∧
      ofNames p ["a", "ab"] = .ok f ∧
      f.fill "\x7b\x7ba\x7d\x7d, \x7b\x7bab\x7d\x7d"
        (Record.ofList [("a", "\x7b\x7bab\x7d\x7d"), ("ab", "$0")]) = "$0, $0") ∧
    ∃ p f, Placeholder.ofString "@variable" = .ok p ∧ ofNames p ["a", "ab"] = .ok f ∧
      f.fill "@ab" (Record.ofList [("a", "1"), ("ab", "2")]) =
        FileName.resolve "@ab" ["a", "ab"] (Record.ofList [("a", "1"), ("ab", "2")]) := by
  obtain ⟨hreplace, hfold, p, hp, hresolve⟩ := fill_escape
  refine ⟨?_, ?_, ?_⟩
  · obtain ⟨re, hre⟩ := exists_of_isOk (r := compilePattern (Regex.escape "a.a"))
      (by decide +kernel)
    exact ⟨re, hre, (hreplace "a.a" re (by decide) hre _ _).trans (by decide +kernel)⟩
  · obtain ⟨q, hq, hfilled⟩ := hfold "\x7b\x7b" "\x7d\x7d" (by decide +kernel)
    have hbraces : Regex.escape "\x7b\x7b" ++ variableToken ++ Regex.escape "\x7d\x7d" =
        "\\\x7b\\\x7bvariable\\\x7d\\\x7d" := by decide
    rw [hbraces] at hq
    -- the replace pattern is known, so its placeholders can be compiled by computing
    have hpattern : q = ⟨"\\\x7b\\\x7bvariable\\\x7d\\\x7d", by decide +kernel⟩ := by
      rw [Placeholder.ofString, dif_pos (by decide +kernel)] at hq
      exact (Except.ok.inj hq).symm
    obtain ⟨f, hf⟩ := exists_of_isOk (r := ofNames q ["a", "ab"])
      (by subst hpattern; decide +kernel)
    refine ⟨q, f, hq, hf, (hfilled _ _ ?_ hf _ _).trans (by decide +kernel)⟩
    simp only [← List.all_eq_true]
    decide
  · have hdefault : Regex.escape "@" ++ variableToken ++ Regex.escape "" = "@variable" := by decide
    rw [hdefault] at hp
    have hpattern : p = ⟨"@variable", by decide +kernel⟩ := by
      rw [Placeholder.ofString, dif_pos (by decide +kernel)] at hp
      exact (Except.ok.inj hp).symm
    obtain ⟨f, hf⟩ := exists_of_isOk (r := ofNames p ["a", "ab"])
      (by subst hpattern; decide +kernel)
    refine ⟨p, f, hp, hf, hresolve _ _ ?_ hf _ _⟩
    simp only [← List.all_eq_true]
    decide

end Filler
end MailMerge
