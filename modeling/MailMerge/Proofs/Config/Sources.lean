import MailMerge.Proofs.Config
import MailMerge.Proofs.Text.Bytes
import MailMerge.Proofs.Text.Parts

/-!
# Values of options

An option that leads to a file gives the text in the file, and any other option gives itself
(`Gives`); only a file without text gives no value (`value_eq_error_iff`). So it is all the same
whether a text is given as an option or in a file, with line ends behind it where the option is one
line: options come to the same configuration, or to the same error, whichever of them are given as
files (`load_of_means`).
-/

namespace MailMerge

variable {t : File.Tree}

/-! ### Files

A path is a file exactly if it can be read, and the empty path is none. So an empty option
is itself and never a file. -/

namespace File.Tree

theorem isFile_iff {path : String} :
    t.isFile path = true ↔ ∃ content, t.read path = .ok content := by
  unfold isFile read
  cases t.stat path with
  | error fault => exact ⟨nofun, nofun⟩
  | ok e =>
      cases e with
      | dir => exact ⟨nofun, nofun⟩
      | file content => exact ⟨fun _ => ⟨content, rfl⟩, fun _ => rfl⟩

theorem isFile_empty : t.isFile "" = false := rfl

theorem readText_of_read {path : String} {content : ByteArray} (h : t.read path = .ok content) :
    t.readText path = match String.fromUTF8? content with
      | some text => .ok text
      | none => .error .notText := by
  rw [readText, h]
  rfl

end File.Tree

namespace OptionSource

/-! ### What an option gives

The value of an option is computed with a log, which tells of the file. What it gives is
stated without the log, as a relation with one case for each of the two ways, and each way
has its equation. -/

/-- The text that an option gives. -/
inductive Gives (t : File.Tree) (option : String) : String → Prop
  | literal (h : t.isFile option = false) : Gives t option option
  | file {content : ByteArray} {text : String} (hread : t.read option = .ok content)
      (htext : String.fromUTF8? content = some text) : Gives t option text

theorem result_value_of_not_isFile {option : String} (h : t.isFile option = false) :
    (value t option).result = .ok option := by
  unfold value ofText
  rw [if_neg fun hfile => by simp [h] at hfile]
  rfl

theorem result_value_of_read {option : String} {content : ByteArray}
    (h : t.read option = .ok content) :
    (value t option).result = match String.fromUTF8? content with
      | some text => .ok text
      | none => .error (.config (.unreadable option .notText)) := by
  have hfile : t.isFile option = true := File.Tree.isFile_iff.mpr ⟨content, h⟩
  -- the empty option is not looked up, so that an option in a file is not empty
  have hne : option ≠ "" := by
    rintro rfl
    rw [File.Tree.isFile_empty] at hfile
    cases hfile
  unfold value ofText
  rw [if_pos ⟨hne, hfile⟩]
  simp only [load, Logged.result_bind, Logged.result_log, Logged.result_config,
    File.Tree.readText_of_read h]
  cases String.fromUTF8? content <;> rfl

theorem value_eq_ok_iff {option text : String} :
    (value t option).result = .ok text ↔ Gives t option text := by
  constructor
  · intro h
    -- whether the option leads to a file settles which of the equations is used
    cases hfile : t.isFile option with
    | false =>
        rw [result_value_of_not_isFile hfile] at h
        rw [← Except.ok.inj h]
        exact .literal hfile
    | true =>
        obtain ⟨content, hread⟩ := File.Tree.isFile_iff.mp hfile
        rw [result_value_of_read hread] at h
        cases htext : String.fromUTF8? content with
        | none => rw [htext] at h; cases h
        | some s =>
            rw [htext] at h
            rw [← Except.ok.inj h]
            exact .file hread htext
  · intro h
    cases h with
    | literal hfile => exact result_value_of_not_isFile hfile
    | file hread htext => rw [result_value_of_read hread, htext]

/-- An option that gives no text is a file without text. -/
theorem value_eq_error_iff {option : String} {e : Error} :
    (value t option).result = .error e ↔ ∃ content, t.read option = .ok content ∧
      String.fromUTF8? content = none ∧ e = .config (.unreadable option .notText) := by
  constructor
  · intro h
    cases hfile : t.isFile option with
    | false => rw [result_value_of_not_isFile hfile] at h; cases h
    | true =>
        obtain ⟨content, hread⟩ := File.Tree.isFile_iff.mp hfile
        rw [result_value_of_read hread] at h
        cases htext : String.fromUTF8? content with
        -- the file was read, so what failed is its text
        | none => rw [htext] at h; exact ⟨content, hread, htext, (Except.error.inj h).symm⟩
        | some text => rw [htext] at h; cases h
  · rintro ⟨content, hread, htext, rfl⟩
    rw [result_value_of_read hread, htext]

theorem Gives.unique {option a b : String} (ha : Gives t option a) (hb : Gives t option b) :
    a = b :=
  Except.ok.inj ((value_eq_ok_iff.mpr ha).symm.trans (value_eq_ok_iff.mpr hb))

/-- The line that an option gives. -/
def GivesLine (t : File.Tree) (option line : String) : Prop :=
  ∃ text, Gives t option text ∧ line = Text.dropLineEnds text

theorem lineValue_eq_ok_iff {option line : String} :
    (lineValue t option).result = .ok line ↔ GivesLine t option line := by
  unfold GivesLine
  simp only [← value_eq_ok_iff]
  constructor
  · intro h
    obtain ⟨text, htext, h⟩ := Logged.bind_eq_ok h
    exact ⟨text, htext, (Except.ok.inj h).symm⟩
  · rintro ⟨text, htext, rfl⟩
    rw [lineValue, Logged.result_bind, htext]
    rfl

theorem lineValue_eq_error_iff {option : String} {e : Error} :
    (lineValue t option).result = .error e ↔ (value t option).result = .error e := by
  refine ⟨lineValue_eq_error, fun h => ?_⟩
  rw [lineValue, Logged.result_bind, h]
  rfl

theorem GivesLine.unique {option a b : String} (ha : GivesLine t option a)
    (hb : GivesLine t option b) : a = b :=
  Except.ok.inj ((lineValue_eq_ok_iff.mpr ha).symm.trans (lineValue_eq_ok_iff.mpr hb))

/-! ### Texts given as files

A text in a file stands for the option only if the text itself leads to no file: otherwise
the option, given literally, would be looked up once more. -/

/-- An option means a text if it is the text, or if the text itself leads to no file and is, with
characters behind it, in the file that the option leads to. -/
inductive Means (t : File.Tree) (back : List Char) (text : String) : (option : String) → Prop
  | literally : Means t back text text
  | inFile {path : String} (htext : t.isFile text = false)
      (hread : t.read path = .ok (text ++ String.ofList back).toUTF8) : Means t back text path

/-- An option means a line if it means it with nothing but line ends behind it. -/
def MeansLine (t : File.Tree) (line option : String) : Prop :=
  ∃ ends : List Char, (∀ c ∈ ends, Text.isLineEnd c = true) ∧ Means t ends line option

theorem result_value_of_read_toUTF8 {path text : String} (hread : t.read path = .ok text.toUTF8) :
    (value t path).result = .ok text := by
  rw [result_value_of_read hread, Text.fromUTF8?_toUTF8]

/-- A text and a file that holds it are the same option. -/
theorem result_value_of_means {text option : String} (h : Means t [] text option) :
    (value t option).result = (value t text).result := by
  cases h with
  | literally => rfl
  | inFile htext hread =>
      rw [result_value_of_read_toUTF8 hread, result_value_of_not_isFile htext]
      exact congrArg Except.ok String.append_empty

/-- A line and a file that holds it are the same option. -/
theorem result_lineValue_of_meansLine {line option : String} (h : MeansLine t line option) :
    (lineValue t option).result = (lineValue t line).result := by
  obtain ⟨ends, hends, h⟩ := h
  cases h with
  | literally => rfl
  -- the line ends behind the line in the file are dropped, and the line has none to lose where
  -- it is given literally
  | inFile htext hread =>
      unfold lineValue
      rw [Logged.result_bind, Logged.result_bind, result_value_of_read_toUTF8 hread,
        result_value_of_not_isFile htext]
      exact congrArg Except.ok (Text.dropLineEnds_append hends)

end OptionSource

namespace Config

open OptionSource (Means MeansLine)

/-- **It is all the same whether options are given literally or as files.** -/
theorem load_of_means (o : Options) {list name rules mark : String}
    (hlist : MeansLine t o.variableList list) (hname : MeansLine t o.fileName name)
    (hrules : Means t [] o.modifier rules) (hmark : MeansLine t o.placeholder mark) :
    (load t { o with variableList := list, fileName := name, modifier := rules,
                     placeholder := mark }).result = (load t o).result := by
  -- the four values are the only places where the options enter
  unfold load
  simp only [Logged.result_bind, OptionSource.result_lineValue_of_meansLine hlist,
    OptionSource.result_lineValue_of_meansLine hname, OptionSource.result_value_of_means hrules,
    OptionSource.result_lineValue_of_meansLine hmark]

/-- A directory with options in files. -/
def optionTree : File.Tree :=
  ⟨[(["template"], .file "Dear <name>".toUTF8), (["data"], .file "Ann;7".toUTF8),
    (["list"], .file "name, id\r\n".toUTF8), (["names"], .file "@name-@id.txt\n\n".toUTF8),
    (["rules"], .file "\x7b\";\": \",\"\x7d".toUTF8), (["mark"], .file "<variable>".toUTF8)], []⟩

/-- Options given literally. -/
def literalOptions : Options where
  template := "template"
  data := "data"
  variableList := "name, id"
  fileName := "@name-@id.txt"
  modifier := "\x7b\";\": \",\"\x7d"
  outputDir := "out"
  placeholder := "<variable>"
  ignoreHeader := false
  skipInvalidRows := false
  verbose := false

/-- The same options with all four in files. -/
theorem load_of_means_of_four_files :
    let o := { literalOptions with
      variableList := "list", fileName := "names", modifier := "rules", placeholder := "mark" }
    (load optionTree o).result = (load optionTree literalOptions).result ∧
      (load optionTree literalOptions).result.isOk = true := by
  -- the list and the pattern of names have line ends in their files, the mark has none
  refine ⟨load_of_means literalOptions ⟨['\r', '\n'], by simp [Text.isLineEnd], ?_⟩
    ⟨['\n', '\n'], by simp [Text.isLineEnd], ?_⟩ ?_ ⟨[], by simp, ?_⟩, by decide +kernel⟩
  · exact .inFile (by decide) (by decide)
  · exact .inFile (by decide) (by decide)
  · exact .inFile (by decide) (by decide)
  · exact .inFile (by decide) (by decide)

end Config
end MailMerge
