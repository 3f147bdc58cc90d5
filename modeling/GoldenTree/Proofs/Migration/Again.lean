import GoldenTree.Proofs.Migration.Audit
import GoldenTree.Proofs.Text.Utf8
import GoldenTree.Proofs.Tree.Differences

/-! Audits after an audit that applied its dump. The golden file then holds the bytes of the dump,
which the next audit reads twice: strictly as the golden file and leniently as the dump. It finds no
difference between the two, if it can read the golden file at all. -/
namespace GoldenTree.Migration

open Disk FileSystem

namespace Audit

variable {a : Audit} {fs fs' : FileSystem} {actual : Path} {d : Decision} {bytes : ByteArray}
  {text : String}

/-- On two equal trees there is nothing to explain. -/
theorem decide_self (a : Audit) (actual : Path) (dump : Dump) : a.decide actual dump dump =
    { actual, golden := goldenOf actual, differences := 0, incompatible := []
      applied := !a.dryRun } := by
  simp [decide, Tree.differences_self]

/-- The decision that follows one that was applied. -/
theorem decide_self_of_applied (hreview : a.review fs actual = .ok (d, bytes))
    (happlied : d.applied = true) (dump : Dump) :
    a.decide actual dump dump = { d with differences := 0 } := by
  obtain ⟨rfl, hgolden, -, hdone⟩ := of_review hreview
  rw [happlied, eq_comm, Bool.and_eq_true, Decision.isCompatible, List.isEmpty_iff] at hdone
  obtain ⟨hcompatible, hwet⟩ := hdone
  simp only [decide_self, hwet, ← hgolden, ← hcompatible, ← happlied]

/-- A golden file that is no text ends its audit. -/
theorem auditFile_of_notUtf8 (hgolden : fs.read (goldenOf actual) = .ok bytes)
    (hutf8 : Text.ofUtf8? bytes = none) :
    a.auditFile fs actual = .error (.io (goldenOf actual) .notUtf8) := by
  obtain ⟨place, hfind⟩ := read_eq_ok_iff.mp hgolden
  have hfile : fs.isFile (goldenOf actual) = true := isFile_iff.mpr ⟨place, bytes, hfind⟩
  have hdump : readDump fs (goldenOf actual) = .error .notUtf8 := by
    rw [readDump, readText, hgolden]
    simp only [bind, Except.bind, hutf8]
    rfl
  rw [auditFile_eq_error_iff, review, reading]
  simp only [hfile, hdump]
  rfl

/-- A golden file that holds the bytes of its dump is written again as it is. -/
theorem auditFile_of_same {place : Place} (hdump : fs.read actual = .ok bytes)
    (hgolden : fs.find (goldenOf actual) = .ok (place, .file bytes))
    (hsame : fs.put place (.file bytes) = fs) (hutf8 : Text.ofUtf8? bytes = some text) :
    a.auditFile fs actual =
      .ok (a.decide actual (Dump.parse text) (Dump.parse text), fs) := by
  have htext := readText_eq_ok_iff.mpr ⟨bytes, read_eq_ok_iff.mpr ⟨place, hgolden⟩, hutf8⟩
  have hlossy : Text.ofUtf8Lossy bytes = text := by rw [Text.ofUtf8Lossy, hutf8]
  refine auditFile_eq_ok_iff.mpr ⟨bytes, place, bytes,
    review_eq_ok_iff.mpr ⟨text, htext, hdump, by rw [hlossy]⟩, hgolden, ?_⟩
  rw [hsame, ite_self]

/-- What there is after a dump was applied: its bytes, in both files. -/
theorem reads_of_applied (haudit : a.auditFile fs actual = .ok (d, fs'))
    (happlied : d.applied = true) : ∃ bytes place, a.review fs actual = .ok (d, bytes) ∧
      fs'.read actual = .ok bytes ∧ fs'.find (goldenOf actual) = .ok (place, .file bytes) ∧
      fs'.put place (.file bytes) = fs' := by
  obtain ⟨bytes, place, old, hreview, hfind, rfl⟩ := auditFile_eq_ok_iff.mp haudit
  obtain ⟨-, -, hdump, -⟩ := of_review hreview
  obtain ⟨hplace, hfile⟩ := find_eq_ok_iff.mp hfind
  have hne : place ≠ [] := ne_nil_of_file hfile
  rw [if_pos happlied]
  refine ⟨bytes, place, hreview, ?_, find_eq_ok_iff.mpr ⟨?_, get?_put_self fs _ hne⟩,
    put_put fs place _⟩
  · obtain ⟨other, hother, hbytes⟩ := read_eq_ok_iff_file?.mp hdump
    refine read_eq_ok_iff_file?.mpr ⟨other, by rw [locate_put_file hfile, hother], ?_⟩
    rw [file?_put hne, hbytes, ite_self]
  · rw [locate_put_file hfile, hplace]

/-- An audit that applied a dump left its bytes in the golden file. If they are UTF-8, the next
audit finds no difference, applies the dump again and leaves everything as it is; if they are not,
it fails at the golden file. -/
theorem auditFile_again (haudit : a.auditFile fs actual = .ok (d, fs'))
    (happlied : d.applied = true) : ∃ bytes, fs.read actual = .ok bytes ∧
      fs'.read actual = .ok bytes ∧ fs'.read (goldenOf actual) = .ok bytes ∧
      a.auditFile fs' actual =
        if (Text.ofUtf8? bytes).isSome then .ok ({ d with differences := 0 }, fs')
        else .error (.io (goldenOf actual) .notUtf8) := by
  obtain ⟨bytes, place, hreview, hdump, hfind, hsame⟩ := reads_of_applied haudit happlied
  have hgolden : fs'.read (goldenOf actual) = .ok bytes := read_eq_ok_iff.mpr ⟨place, hfind⟩
  obtain ⟨-, -, hread, -⟩ := of_review hreview
  refine ⟨bytes, hread, hdump, hgolden, ?_⟩
  cases hutf8 : Text.ofUtf8? bytes with
  | none => exact auditFile_of_notUtf8 hgolden hutf8
  | some text =>
    rw [auditFile_of_same hdump hfind hsame hutf8, decide_self_of_applied hreview happlied]
    rfl

/-- A golden file whose difference from any other line one of the rules explains. -/
def looseGolden : String := "postfixUnaryExpression\n  primaryExpression\n    callableReference\n"

def looseDisk (dump : ByteArray) : FileSystem :=
  ⟨[(["x"], .file looseGolden.toUTF8), (["x.actual"], .file dump)]⟩

def looseAudit : Audit := ⟨.callableReferenceCallSuffix, false⟩

theorem auditFile_looseDisk (dump : ByteArray) :
    looseAudit.auditFile (looseDisk dump) ⟨"x.actual"⟩ =
      let d := looseAudit.decide ⟨"x.actual"⟩ (Dump.parse looseGolden)
        (Dump.parse (Text.ofUtf8Lossy dump))
      .ok (d, if d.applied then (looseDisk dump).put ["x"] (.file dump) else looseDisk dump) := by
  have hfind : (looseDisk dump).find (goldenOf ⟨"x.actual"⟩) =
      .ok (["x"], .file looseGolden.toUTF8) := rfl
  have htext := readText_of_read (read_eq_ok_iff.mpr ⟨_, hfind⟩)
  exact auditFile_eq_ok_iff.mpr ⟨dump, ["x"], looseGolden.toUTF8,
    review_eq_ok_iff.mpr ⟨looseGolden, htext, rfl, rfl⟩, hfind, rfl⟩

theorem auditFile_again_looseDisk : ∃ d fs',
    looseAudit.auditFile (looseDisk "other\n".toUTF8) ⟨"x.actual"⟩ = .ok (d, fs') ∧
      d.applied = true ∧ d.differences = 1 ∧
      looseAudit.auditFile fs' ⟨"x.actual"⟩ = .ok ({ d with differences := 0 }, fs') := by
  have haudit := auditFile_looseDisk "other\n".toUTF8
  rw [Text.ofUtf8Lossy_toUTF8] at haudit
  have happlied : (looseAudit.decide ⟨"x.actual"⟩ (Dump.parse looseGolden)
      (Dump.parse "other\n")).applied = true := by decide +kernel
  obtain ⟨bytes, hdump, -, -, hagain⟩ := auditFile_again haudit happlied
  obtain rfl : "other\n".toUTF8 = bytes := Except.ok.inj hdump
  rw [Text.ofUtf8?_toUTF8] at hagain
  exact ⟨_, _, haudit, happlied, by decide +kernel, hagain⟩

/-- A dump of one line that is not UTF-8. -/
def strayDump : ByteArray := ⟨#[0xFF, 0x0A]⟩

theorem ofUtf8?_strayDump : Text.ofUtf8? strayDump = none :=
  Text.ofUtf8?_eq_none (b := 0xFF) (by decide +kernel) (by decide)

/-- A dump that is not UTF-8 can be applied, but not twice. -/
theorem auditFile_not_again : ¬ ∀ (a : Audit) (fs fs' : FileSystem) (actual : Path) (d : Decision),
    a.auditFile fs actual = .ok (d, fs') → d.applied = true →
      ∃ d' fs'', a.auditFile fs' actual = .ok (d', fs'') ∧ d'.differences = 0 ∧
        d'.applied = true ∧ fs''.read actual = fs'.read actual ∧
        fs''.read (goldenOf actual) = fs'.read (goldenOf actual) := by
  intro hstable
  have haudit := auditFile_looseDisk strayDump
  rw [Text.ofUtf8Lossy, ofUtf8?_strayDump] at haudit
  have happlied : (looseAudit.decide ⟨"x.actual"⟩ (Dump.parse looseGolden)
      (Dump.parse (String.ofList (Text.decodeLossy strayDump.toList)))).applied = true := by
    decide +kernel
  obtain ⟨bytes, place, hreview, -, hfind, -⟩ := reads_of_applied haudit happlied
  obtain ⟨-, -, hdump, -⟩ := of_review hreview
  obtain rfl : strayDump = bytes := Except.ok.inj hdump
  have hfails := auditFile_of_notUtf8 (a := looseAudit) (read_eq_ok_iff.mpr ⟨place, hfind⟩)
    ofUtf8?_strayDump
  obtain ⟨d', fs'', hagain, -⟩ := hstable _ _ _ _ _ haudit happlied
  cases hfails.symm.trans hagain

end Audit

end GoldenTree.Migration
