import GoldenTree.Proofs.Golden.Header
import GoldenTree.Proofs.Migration.Audit
import GoldenTree.Proofs.Text.Utf8

/-! Headers under a migration. A header is the first node of a golden file, and no rule explains a
difference there, so that an audit which applies a dump keeps the header line, as it reads it. For
the readers of golden files, the line is kept if and only if it is UTF-8 in the dump. -/
namespace GoldenTree.Migration

open Disk FileSystem Text Golden Golden.Header GoldenTree.Tree

/-! First lines. -/

theorem trim_dropReturn (s : List Char) : trim (dropReturn s) = trim s := by
  unfold dropReturn
  split
  · next hreturn =>
    obtain ⟨front, rfl⟩ := List.getLast?_eq_some_iff.mp hreturn
    have hblank : ∀ c ∈ ['\r'], isBlank c = true := by
      intro c hc
      rw [List.mem_singleton.mp hc]
      decide
    rw [List.dropLast_concat, trim_append_of_blank hblank]
  · rfl

theorem trim_firstLine (s : List Char) :
    trim (firstLine s) = trim (s.takeWhile (· ≠ '\n')) := by
  obtain ⟨dropped, hdropped, hbreaks⟩ :=
    exists_dropEndWhile (fun c => c == '\n' || c == '\r') (s.takeWhile (· ≠ '\n'))
  have hblank : ∀ c ∈ dropped, isBlank c = true := by
    intro c hc
    have hbreak := hbreaks c hc
    simp only [Bool.or_eq_true, beq_iff_eq] at hbreak
    rcases hbreak with rfl | rfl <;> decide
  rw [firstLine]
  conv => rhs; rw [hdropped, trim_append_of_blank hblank]

theorem exists_splitAt_takeWhile (s : List Char) :
    ∃ pieces, splitAt '\n' s = s.takeWhile (· ≠ '\n') :: pieces := by
  induction s with
  | nil => exact ⟨[], rfl⟩
  | cons c s ih =>
    obtain ⟨pieces, hpieces⟩ := ih
    by_cases hc : c = '\n'
    · exact ⟨splitAt '\n' s, by simp [splitAt, hc]⟩
    · exact ⟨pieces, by simp [splitAt, hc, hpieces]⟩

/-- Trimmed, the first line is the same however it is cut off. -/
theorem trim_head_lines {s line : List Char} {rest : List (List Char)}
    (h : lines s = line :: rest) : trim line = trim (firstLine s) := by
  obtain ⟨pieces, hpieces⟩ := exists_splitAt_takeWhile s
  rw [trim_firstLine]
  rw [lines, hpieces] at h
  by_cases hne : pieces = []
  · subst hne
    rw [lines.terminated] at h
    split at h
    · cases h
    · obtain ⟨rfl, -⟩ := List.cons.inj h
      rfl
  · rw [terminated_cons hne] at h
    obtain ⟨rfl, -⟩ := List.cons.inj h
    exact trim_dropReturn _

theorem lines_ne_nil {s : List Char} (h : firstLine s ≠ []) : lines s ≠ [] := by
  obtain ⟨pieces, hpieces⟩ := exists_splitAt_takeWhile s
  have hfirst : s.takeWhile (· ≠ '\n') ≠ [] := by
    intro hempty
    rw [firstLine, hempty] at h
    exact h rfl
  rw [lines, hpieces]
  by_cases hne : pieces = []
  · rw [hne, lines.terminated, if_neg (by simpa using hfirst)]
    exact List.cons_ne_nil _ _
  · rw [terminated_cons hne]
    exact List.cons_ne_nil _ _

/-! The first node. -/

theorem parse_of_lines {text : String} {line : List Char} {rest : List (List Char)}
    (h : lines text.toList = line :: rest) :
    ∃ below others, Dump.parse text =
      .node Dump.rootLabel (.node (String.ofList (trim line)) below :: others) := by
  rw [Dump.parse, Dump.ofLines, h, List.map_cons, ofOutline, forestOfOutline_cons, adopt]
  exact ⟨_, _, rfl⟩

theorem parse_of_lines_nil {text : String} (h : lines text.toList = []) :
    Dump.parse text = .node Dump.rootLabel [] := by
  rw [Dump.parse, Dump.ofLines, h]
  rfl

/-! Differences that no rule explains. -/

namespace Rule

/-- The labels of the old nodes of which rules explain something. -/
def oldLabels : List String :=
  ["postfixUnaryExpression", "genericCallLikeComparison", "parameterWithOptionalType",
    "Identifier(\"value\")"]

variable {r : Rule} {old new : Dump}

theorem label_of_explains (h : r.explains old new = true) : old.label ∈ oldLabels := by
  cases r with
  | callableReferenceCallSuffix =>
    simp only [explains, Bool.or_eq_true, Bool.and_eq_true, beq_iff_eq] at h
    rcases h with (⟨hlabel, -⟩ | ⟨hlabel, -⟩) | ⟨hlabel, -⟩ <;> simp [oldLabels, hlabel]
  | identifierToValue =>
    simp only [explains, Bool.and_eq_true, beq_iff_eq] at h
    simp [oldLabels, h.1]

/-- Below another label, all differences are further down. -/
theorem ExplainsAll.below (h : r.ExplainsAll (old.differences new)) (hold : old.label ∉ oldLabels) :
    old.label = new.label ∧ old.children.length = new.children.length ∧
      r.ExplainsAll (forestDifferences old.children new.children) := by
  cases old with
  | node a cs =>
    cases new with
    | node b ds =>
      rw [differences] at h
      split at h
      · next hsame => exact ⟨hsame.1, hsame.2, h⟩
      · exact absurd (label_of_explains (explainsAll_singleton.mp h)) hold

end Rule

theorem rootLabel_not_mem_oldLabels : Dump.rootLabel ∉ Rule.oldLabels := by decide

/-- No rule explains a difference at a header. -/
theorem header_not_mem_oldLabels {line : List Char} {header : Header}
    (hparse : parse? line = some header) : String.ofList line ∉ Rule.oldLabels := by
  obtain ⟨start, rfl, -, hopens⟩ := parse?_eq_some_iff.mp hparse
  obtain ⟨name, rfl, -⟩ := opensHeader_iff.mp hopens
  intro hmem
  have hhead : ∀ label ∈ Rule.oldLabels, label.toList.head? ≠ some 'F' := by decide
  refine hhead _ hmem ?_
  rw [String.toList_ofList]
  rfl

/-- The first line of a dump whose differences a rule explains is the header line, but for blank
characters around it. -/
theorem firstLine_of_explainsAll {r : Rule} {golden dump : String} {header : Header}
    (hheader : Header.ofText? golden = some header)
    (h : r.ExplainsAll ((Dump.parse golden).differences (Dump.parse dump))) :
    trim (firstLine dump.toList) = firstLine golden.toList := by
  obtain ⟨hstart, hend⟩ := solid_of_parse? hheader
  have htrim : trim (firstLine golden.toList) = firstLine golden.toList := hstart.trim hend
  have hne : lines golden.toList ≠ [] := by
    obtain ⟨c, rest, hfirst, -⟩ := hstart
    exact lines_ne_nil (by rw [hfirst]; exact List.cons_ne_nil _ _)
  obtain ⟨line, rest, hlines⟩ := List.exists_cons_of_ne_nil hne
  obtain ⟨below, others, hgolden⟩ := parse_of_lines hlines
  rw [trim_head_lines hlines, htrim] at hgolden
  rw [hgolden] at h
  obtain ⟨-, hlength, hbelow⟩ := h.below rootLabel_not_mem_oldLabels
  -- The dump has a first line as well, or there were fewer nodes below its root.
  cases hdump : lines dump.toList with
  | nil =>
    rw [parse_of_lines_nil hdump] at hlength
    cases hlength
  | cons line' rest' =>
    obtain ⟨below', others', hparse⟩ := parse_of_lines hdump
    rw [trim_head_lines hdump] at hparse
    rw [hparse] at hbelow
    obtain ⟨hfirst, -⟩ := Rule.explainsAll_append.mp hbelow
    obtain ⟨hlabel, -, -⟩ := hfirst.below (header_not_mem_oldLabels hheader)
    exact (String.ofList_inj.mp hlabel).symm

/-! Audits of files with a header. -/

/-- Whatever the rule and the dump, an audit that applies the dump has found the header line of the
golden file in its first line, up to blank characters around it. It read the dump leniently; the
first line of the dump is that line if it can be read as the golden file is, and only then. -/
theorem audit_keeps_firstLine (a : Audit) (fs fs' : FileSystem) (actual : Path) (golden : String)
    (header : Header) (bytes : ByteArray) (d : Decision)
    (hgolden : fs.readText (goldenOf actual) = .ok golden)
    (hheader : Header.ofText? golden = some header) (hdump : fs.read actual = .ok bytes)
    (haudit : a.auditFile fs actual = .ok (d, fs')) (happlied : d.applied = true) :
    trim (firstLine (ofUtf8Lossy bytes).toList) = trim (firstLine golden.toList) ∧
      (∀ dump, ofUtf8? bytes = some dump →
        trim (firstLine dump.toList) = trim (firstLine golden.toList)) ∧
      ((∃ line, ofUtf8? (firstBytes bytes) = some line ∧
        trim line.toList = trim (firstLine golden.toList)) ↔
          (ofUtf8? (firstBytes bytes)).isSome = true) := by
  have hlossy : trim (firstLine (ofUtf8Lossy bytes).toList) = trim (firstLine golden.toList) := by
    have hexplained := Audit.explainsAll_of_applied haudit happlied hgolden hdump
    rw [← firstLine_of_explainsAll hheader hexplained, trim_trim]
  refine ⟨hlossy, ?_, ?_⟩
  · intro dump hread
    rwa [ofUtf8Lossy, hread] at hlossy
  constructor
  · rintro ⟨line, hread, -⟩
    rw [hread]
    rfl
  · intro hread
    obtain ⟨line, hline⟩ := Option.isSome_iff_exists.mp hread
    refine ⟨line, hline, ?_⟩
    rw [← hlossy, trim_firstLine, takeWhile_ofUtf8Lossy hline]

def indentedGolden : String :=
  "File: a.kt - d41d8cd98f00b204e9800998ecf8427e\n  Identifier(\"value\")\n"

/-- A dump with an indented header, in which a terminal has another name. -/
def indentedDump : String :=
  " File: a.kt - d41d8cd98f00b204e9800998ecf8427e\n  VALUE(\"value\")\n"

def indentedDisk : FileSystem :=
  ⟨[(["x"], .file indentedGolden.toUTF8), (["x.actual"], .file indentedDump.toUTF8)]⟩

theorem audit_keeps_firstLine_indentedDisk :
    ∃ fs' d, (⟨.identifierToValue, false⟩ : Audit).auditFile indentedDisk ⟨"x.actual"⟩ =
        .ok (d, fs') ∧ d.applied = true ∧ d.differences = 1 ∧
      indentedDisk.readText ⟨"x"⟩ = .ok indentedGolden ∧
      Header.ofText? indentedGolden = some ⟨"d41d8cd98f00b204e9800998ecf8427e", none⟩ ∧
      indentedDisk.read ⟨"x.actual"⟩ = .ok indentedDump.toUTF8 ∧
      trim (firstLine indentedDump.toList) = trim (firstLine indentedGolden.toList) := by
  have hfind : indentedDisk.find (goldenOf ⟨"x.actual"⟩) =
      .ok (["x"], .file indentedGolden.toUTF8) := rfl
  have hdump : indentedDisk.read ⟨"x.actual"⟩ = .ok indentedDump.toUTF8 := rfl
  have haudit := Audit.auditFile_of_texts ⟨.identifierToValue, false⟩ hfind hdump
  have hgolden := readText_eq_ok_iff.mpr
    ⟨_, read_eq_ok_iff.mpr ⟨_, hfind⟩, ofUtf8?_toUTF8 indentedGolden⟩
  have hheader : Header.ofText? indentedGolden =
      some ⟨"d41d8cd98f00b204e9800998ecf8427e", none⟩ := by decide +kernel
  have happlied : ((⟨.identifierToValue, false⟩ : Audit).decide ⟨"x.actual"⟩
      (Dump.parse indentedGolden) (Dump.parse indentedDump)).applied = true := by decide +kernel
  obtain ⟨-, hkept, -⟩ :=
    audit_keeps_firstLine _ _ _ _ _ _ _ _ hgolden hheader hdump haudit happlied
  exact ⟨_, _, haudit, happlied, by decide +kernel, hgolden, hheader, hdump,
    hkept _ (ofUtf8?_toUTF8 _)⟩

/-- A golden file with a replacement character in its header. -/
def foreignGolden : String := "File: \uFFFD.kt - d41d8cd98f00b204e9800998ecf8427e\n"

/-- A dump with a byte in the place of that character which is not UTF-8. -/
def foreignDump : ByteArray :=
  "File: ".toUTF8 ++ ⟨#[0xFF]⟩ ++ ".kt - d41d8cd98f00b204e9800998ecf8427e\n".toUTF8

def foreignDisk : FileSystem :=
  ⟨[(["x"], .file foreignGolden.toUTF8), (["x.actual"], .file foreignDump)]⟩

theorem ofUtf8Lossy_foreignDump : ofUtf8Lossy foreignDump = foreignGolden := by
  have hnone : ofUtf8? foreignDump = none :=
    ofUtf8?_eq_none (b := 0xFF) (by decide +kernel) (by decide)
  rw [ofUtf8Lossy, hnone]
  decide +kernel

/-- The bytes of the first line need not be kept: a header may get lost in which there is a
replacement character. No reader of golden files can read the dump that is put in its place. -/
theorem audit_replaces_firstLine : ¬ ∀ (a : Audit) (fs fs' : FileSystem) (actual : Path)
    (golden : String) (header : Header) (bytes : ByteArray) (d : Decision),
    fs.readText (goldenOf actual) = .ok golden → Header.ofText? golden = some header →
    fs.read actual = .ok bytes → a.auditFile fs actual = .ok (d, fs') → d.applied = true →
    ∃ line, ofUtf8? (firstBytes bytes) = some line ∧
      trim line.toList = trim (firstLine golden.toList) := by
  intro hkept
  have hgolden : foreignDisk.read (goldenOf ⟨"x.actual"⟩) = .ok foreignGolden.toUTF8 := rfl
  have htext := readText_eq_ok_iff.mpr ⟨_, hgolden, ofUtf8?_toUTF8 _⟩
  have hdump : foreignDisk.read ⟨"x.actual"⟩ = .ok foreignDump := rfl
  have hreview := Audit.review_eq_ok_iff (a := ⟨.identifierToValue, false⟩).mpr
    ⟨_, htext, hdump, rfl⟩
  obtain ⟨place, old, -, haudit⟩ := Audit.auditFile_of_review hreview
  rw [ofUtf8Lossy_foreignDump] at haudit
  have hheader : Header.ofText? foreignGolden =
      some ⟨"d41d8cd98f00b204e9800998ecf8427e", none⟩ := by decide +kernel
  obtain ⟨line, hline, -⟩ := hkept _ _ _ _ _ _ _ _ htext hheader hdump haudit (by decide +kernel)
  rw [ofUtf8?_eq_none (b := 0xFF) (by decide +kernel) (by decide)] at hline
  cases hline

end GoldenTree.Migration
