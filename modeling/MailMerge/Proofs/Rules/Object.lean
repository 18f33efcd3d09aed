import MailMerge.Proofs.Json.Written
import MailMerge.Proofs.Rules

/-!
# Rules in an object of JSON

However an object of texts is written, it makes one rule for each of its patterns (`parse_object`).
The rules stand in the order in which their patterns come first, and a pattern that comes again
changes the replacement and not the place. If some patterns do not compile, the first of them in
this order is reported.
-/

namespace MailMerge.Modifier

variable {text : String} {pairs : List (String × String)}

/-- The first pattern that does not compile is reported. -/
theorem compileRules_eq_error {rules : List (String × String)} {before behind : List String}
    {p : String} {e : Regex.Error} (hrules : rules.map Prod.fst = before ++ p :: behind)
    (hbefore : ∀ q ∈ before, ∃ re, Regex.compile? q = .ok re) (he : Regex.compile? p = .error e) :
    compileRules rules = .error (.badPattern p e) := by
  -- the patterns in front compile, so that the fault found is that of `p`
  induction before generalizing rules with
  | nil =>
      obtain ⟨rule, rest, rfl, rfl, -⟩ := List.map_eq_cons_iff.mp hrules
      rw [compileRules, compilePattern_eq_error_iff.mpr ⟨e, he, rfl⟩]
      rfl
  | cons q before ih =>
      obtain ⟨rule, rest, rfl, rfl, hrest⟩ := List.map_eq_cons_iff.mp hrules
      obtain ⟨⟨re, hre⟩, hbefore⟩ := List.forall_mem_cons.mp hbefore
      rw [compileRules, compilePattern_eq_ok_iff.mpr hre, ih hrest hbefore]
      rfl

/-- Each compiled rule has the pattern that its text compiles to. -/
theorem compile?_source_of_compileRules {rules : List (String × String)}
    {compiled : List (Regex × String)} (h : compileRules rules = .ok compiled) :
    ∀ rule ∈ compiled, Regex.compile? rule.1.source = .ok rule.1 := by
  rw [compileRules_eq_mapM, mapM_eq_ok_iff] at h
  induction h with
  | nil => nofun
  | @cons rule rule' rules compiled hrule _ ih =>
      refine List.forall_mem_cons.mpr ⟨?_, ih⟩
      cases hre : compilePattern rule.1 with
      | error e => rw [hre] at hrule; cases hrule
      | ok re =>
          rw [hre] at hrule
          cases hrule
          have hcompile := compilePattern_eq_ok_iff.mp hre
          rwa [Regex.source_of_compile? hcompile]

/-- An object of texts is read as JSON, and its pairs make the rules. -/
theorem parse_of_writesObject (h : Json.WritesObject pairs text.toList) :
    parse text = ofRecord (Record.ofList pairs) := by
  obtain ⟨rest, hgap⟩ := Json.exists_gap_of_writesObject h
  have hblank : Text.isBlank text = false := isBlank_of_gap hgap (by decide)
  simp only [parse, hblank, Bool.false_eq_true, if_false, readRules, Json.parse_of_writesObject h]
  rfl

/-- **Rules written as an object.** Each pattern makes one rule, at the place where it comes first
and with the replacement that comes last. If a pattern does not compile and all in front of it do, it
is reported. -/
theorem parse_object (h : Json.WritesObject pairs text.toList) :
    let patterns := (pairs.map Prod.fst).eraseDups
    ((∀ p ∈ patterns, ∃ re, Regex.compile? p = .ok re) →
      ∃ m, parse text = .ok m ∧ m.written.map Prod.fst = patterns ∧
        (∀ rule ∈ m.written, pairs.reverse.lookup rule.1 = some rule.2) ∧
        ∀ rule ∈ m.rules, Regex.compile? rule.1.source = .ok rule.1) ∧
    ∀ before p behind e, patterns = before ++ p :: behind →
      (∀ q ∈ before, ∃ re, Regex.compile? q = .ok re) → Regex.compile? p = .error e →
      parse text = .error (.badPattern p e) := by
  intro patterns
  have hnames : (Record.ofList pairs).entries.map Prod.fst = patterns := Record.names_ofList pairs
  rw [parse_of_writesObject h]
  constructor
  · intro hcompile
    obtain ⟨m, hm, hwritten⟩ := exists_ofRecord fun rule hrule =>
      hcompile _ (hnames ▸ List.mem_map_of_mem hrule)
    -- a record takes a pair under a name it has by changing the value there
    refine ⟨m, hm, hwritten ▸ hnames, fun rule hrule => ?_, ?_⟩
    · rw [← Record.get?_ofList]
      exact Record.get?_of_mem_entries (Record.nodup_names_ofList pairs) (hwritten ▸ hrule)
    · unfold ofRecord at hm
      cases hcompiled : compileRules (Record.ofList pairs).entries with
      | error e => rw [hcompiled] at hm; cases hm
      | ok compiled =>
          rw [hcompiled] at hm
          cases hm
          exact compile?_source_of_compileRules hcompiled
  · intro before p behind e hpatterns hbefore he
    rw [ofRecord, compileRules_eq_error (hnames.trans hpatterns) hbefore he]
    rfl

/-- A pattern that comes twice, once written by its code, beside one that is written by a surrogate
pair; and two patterns that do not compile. -/
theorem parse_object_of_repeated_pattern :
    (∃ m, parse " \x7b\"a\": \"x\",\n\"\\uD83D\\ude00\" :\"\\n\",\"\\u0061\":\"z\"\x7d" = .ok m ∧
      m.written.map Prod.fst = ["a", "😀"] ∧
      ∀ rule ∈ m.written, [("a", "z"), ("😀", "\n"), ("a", "x")].lookup rule.1 = some rule.2) ∧
    ∃ e, parse "\x7b\"a\":\"\",\"(\":\"\",\"[\":\"\"\x7d" = .error (.badPattern "(" e) := by
  -- the texts of the example are put together from their characters
  have hone : ∀ {c form}, Json.WritesChar c form →
      Json.WritesText (String.ofList [c]) ('"' :: (form ++ ['"'])) := fun {c form} h =>
    ⟨[form], by rw [String.toList_ofList]; exact .cons h .nil, by simp⟩
  have hraw : ∀ {c}, ' ' ≤ c ∧ c ≠ '"' ∧ c ≠ '\\' →
      Json.WritesText (String.ofList [c]) ['"', c, '"'] := fun h => hone (.raw h.1 h.2.1 h.2.2)
  have hempty : Json.WritesText "" ['"', '"'] := ⟨[], .nil, rfl⟩
  have hnone : Json.WritesSpace [] := nofun
  have hblank : Json.WritesSpace [' '] := List.forall_mem_singleton.mpr (.inl rfl)
  have hline : Json.WritesSpace ['\n'] := List.forall_mem_singleton.mpr (.inr (.inl rfl))
  constructor
  · have hfirst : Json.WritesCode 0xD83D ['D', '8', '3', 'D'] :=
      @Json.WritesCode.mk 0xD 8 3 0xD _ _ _ _ ⟨by decide, Or.inr rfl⟩ ⟨by decide, Or.inl rfl⟩
        ⟨by decide, Or.inl rfl⟩ ⟨by decide, Or.inr rfl⟩
    have hsecond : Json.WritesCode 0xDE00 ['d', 'e', '0', '0'] :=
      @Json.WritesCode.mk 0xD 0xE 0 0 _ _ _ _ ⟨by decide, Or.inl rfl⟩ ⟨by decide, Or.inl rfl⟩
        ⟨by decide, Or.inl rfl⟩ ⟨by decide, Or.inl rfl⟩
    have hletter : Json.WritesCode 'a'.toNat ['0', '0', '6', '1'] :=
      @Json.WritesCode.mk 0 0 6 1 _ _ _ _ ⟨by decide, Or.inl rfl⟩ ⟨by decide, Or.inl rfl⟩
        ⟨by decide, Or.inl rfl⟩ ⟨by decide, Or.inl rfl⟩
    have hobject : Json.WritesObject [("a", "x"), ("😀", "\n"), ("a", "z")]
        " \x7b\"a\": \"x\",\n\"\\uD83D\\ude00\" :\"\\n\",\"\\u0061\":\"z\"\x7d".toList :=
      .members hblank (by decide)
        (.cons (.mk hnone (hraw (by decide)) hnone hblank (hraw (by decide)) hnone)
          (.cons (.mk hline
              (hone (.pair (by decide) (by decide) (by decide) (by decide) (by decide) hfirst hsecond))
              hblank hnone (hone (.short (by decide))) hnone)
            (.cons (.mk hnone (hone (.code hletter)) hnone hnone (hraw (by decide)) hnone) .nil)))
        hnone
    have hcompile : ∀ p ∈ ["a", "😀"], ∃ re, Regex.compile? p = .ok re :=
      List.forall_mem_cons.mpr ⟨exists_of_isOk (by decide +kernel),
        List.forall_mem_singleton.mpr (exists_of_isOk (by decide +kernel))⟩
    obtain ⟨m, hm, hpatterns, hlast, -⟩ := (parse_object hobject).1 hcompile
    exact ⟨m, hm, hpatterns, hlast⟩
  · have hobject : Json.WritesObject [("a", ""), ("(", ""), ("[", "")]
        "\x7b\"a\":\"\",\"(\":\"\",\"[\":\"\"\x7d".toList :=
      .members hnone (by decide)
        (.cons (.mk hnone (hraw (by decide)) hnone hnone hempty hnone)
          (.cons (.mk hnone (hraw (by decide)) hnone hnone hempty hnone)
            (.cons (.mk hnone (hraw (by decide)) hnone hnone hempty hnone) .nil)))
        hnone
    have hcompile : ∀ p ∈ ["a"], ∃ re, Regex.compile? p = .ok re :=
      List.forall_mem_singleton.mpr (exists_of_isOk (by decide +kernel))
    have hopen : (Regex.compile? "(").isOk = false := by decide +kernel
    obtain ⟨e, he⟩ : ∃ e, Regex.compile? "(" = .error e := by
      cases hre : Regex.compile? "(" with
      | error e => exact ⟨e, rfl⟩
      | ok re => rw [hre] at hopen; cases hopen
    exact ⟨e, (parse_object hobject).2 ["a"] "(" ["["] e rfl hcompile he⟩

end MailMerge.Modifier
