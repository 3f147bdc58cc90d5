import GoldenTree.Migration.Audit
import GoldenTree.Proofs.Disk.Frame
import GoldenTree.Proofs.Disk.Overwrite

/-! Audits in two parts: what is read and decided, and what is then written. A golden file that was
read can be written, so that an audit fails in its first part or not at all. -/
namespace GoldenTree.Migration

open Disk FileSystem

variable {a : Audit} {fs fs' : FileSystem} {actual : Path} {d : Decision} {bytes : ByteArray}
  {e : AuditError} {actuals : List Path} {ds : List Decision}

theorem goldenOf_eq {golden : List Char}
    (h : actual.chars = golden ++ CaseFiles.actualSuffix.toList) :
    goldenOf actual = ⟨String.ofList golden⟩ := by
  rw [goldenOf, Text.before?_eq_some_iff.mpr h]

theorem goldenOf_actualDump (golden : Path) :
    goldenOf (CaseFiles.actualDump golden) = golden := by
  have hchars : (CaseFiles.actualDump golden).chars =
      golden.chars ++ CaseFiles.actualSuffix.toList := String.toList_append
  rw [goldenOf_eq hchars, Path.chars, String.ofList_toList]

/-- The rule explains all pairs. -/
def Rule.ExplainsAll (r : Rule) (pairs : List (Dump × Dump)) : Prop :=
  ∀ pair ∈ pairs, r.explains pair.1 pair.2 = true

theorem Rule.explainsAll_append {r : Rule} {pairs pairs' : List (Dump × Dump)} :
    r.ExplainsAll (pairs ++ pairs') ↔ r.ExplainsAll pairs ∧ r.ExplainsAll pairs' :=
  List.forall_mem_append

theorem Rule.explainsAll_singleton {r : Rule} {old new : Dump} :
    r.ExplainsAll [(old, new)] ↔ r.explains old new = true := by
  simp [Rule.ExplainsAll]

namespace Audit

/-! What is decided. -/

theorem isCompatible_decide_iff {old new : Dump} :
    (a.decide actual old new).isCompatible = true ↔
      a.rule.ExplainsAll (old.differences new) := by
  simp [decide, Decision.isCompatible, List.filter_eq_nil_iff, Rule.ExplainsAll]

theorem applied_decide (a : Audit) (actual : Path) (old new : Dump) :
    (a.decide actual old new).applied =
      ((a.decide actual old new).isCompatible && !a.dryRun) := by
  simp [decide, Decision.isCompatible]

/-! Reviews. -/

/-- What is read for an audit: the tree of the golden file and the bytes of the dump. -/
def reading (fs : FileSystem) (actual : Path) : Except AuditError (Dump × ByteArray) := do
  let golden := goldenOf actual
  if !fs.isFile golden then throw (.missingGolden actual golden)
  let old ← (readDump fs golden).mapError (.io golden)
  let bytes ← (fs.read actual).mapError (.io actual)
  return (old, bytes)

/-- The decision on a dump and the bytes of it. -/
def review (a : Audit) (fs : FileSystem) (actual : Path) :
    Except AuditError (Decision × ByteArray) :=
  (reading fs actual).map fun (old, bytes) =>
    (a.decide actual old (Dump.parse (Text.ofUtf8Lossy bytes)), bytes)

theorem review_congr (hdump : fs'.find actual = fs.find actual)
    (hgolden : fs'.find (goldenOf actual) = fs.find (goldenOf actual)) :
    a.review fs' actual = a.review fs actual := by
  simp only [review, reading, readDump, isFile_congr hgolden, readText_congr hgolden,
    read_congr hdump]

theorem reading_eq_ok_iff {old : Dump} : reading fs actual = .ok (old, bytes) ↔
    ∃ golden, fs.readText (goldenOf actual) = .ok golden ∧ Dump.parse golden = old ∧
      fs.read actual = .ok bytes := by
  constructor
  · intro h
    cases hfile : fs.isFile (goldenOf actual) with
    | false =>
      simp only [reading, hfile] at h
      cases h
    | true =>
      cases hgolden : fs.readText (goldenOf actual) with
      | error cause =>
        simp only [reading, readDump, hfile, hgolden] at h
        cases h
      | ok golden =>
        cases hread : fs.read actual with
        | error cause =>
          simp only [reading, readDump, hfile, hgolden, hread] at h
          cases h
        | ok found =>
          simp only [reading, readDump, hfile, hgolden, hread] at h
          obtain ⟨rfl, rfl⟩ := Prod.mk.inj (Except.ok.inj h)
          exact ⟨golden, rfl, rfl, rfl⟩
  · rintro ⟨golden, hgolden, rfl, hread⟩
    simp only [reading, readDump, isFile_of_readText hgolden, hgolden, hread]
    rfl

theorem review_eq_ok_iff : a.review fs actual = .ok (d, bytes) ↔
    ∃ golden, fs.readText (goldenOf actual) = .ok golden ∧ fs.read actual = .ok bytes ∧
      d = a.decide actual (Dump.parse golden) (Dump.parse (Text.ofUtf8Lossy bytes)) := by
  constructor
  · intro h
    obtain ⟨⟨old, found⟩, hreading, hreviewed⟩ := map_eq_ok.mp h
    obtain ⟨rfl, rfl⟩ := Prod.mk.inj hreviewed
    obtain ⟨golden, hgolden, rfl, hread⟩ := reading_eq_ok_iff.mp hreading
    exact ⟨golden, hgolden, hread, rfl⟩
  · rintro ⟨golden, hgolden, hread, rfl⟩
    exact map_eq_ok.mpr ⟨_, reading_eq_ok_iff.mpr ⟨golden, hgolden, rfl, hread⟩, rfl⟩

/-- What a decision says of its dump, and when it is to be applied. -/
theorem of_review (h : a.review fs actual = .ok (d, bytes)) :
    d.actual = actual ∧ d.golden = goldenOf actual ∧ fs.read actual = .ok bytes ∧
      d.applied = (d.isCompatible && !a.dryRun) := by
  obtain ⟨golden, -, hread, rfl⟩ := review_eq_ok_iff.mp h
  exact ⟨rfl, rfl, hread, applied_decide ..⟩

/-! Audits of one dump. -/

theorem auditFile_eq (a : Audit) (fs : FileSystem) (actual : Path) : a.auditFile fs actual =
    a.review fs actual >>= fun (d, bytes) =>
      if d.applied then
        ((fs.write (goldenOf actual) bytes).mapError (.io (goldenOf actual))).map (d, ·)
      else .ok (d, fs) := by
  cases hfile : fs.isFile (goldenOf actual) with
  | false =>
    simp only [auditFile, review, reading, hfile]
    rfl
  | true =>
    cases hgolden : readDump fs (goldenOf actual) with
    | error cause =>
      simp only [auditFile, review, reading, hfile, hgolden]
      rfl
    | ok golden =>
      cases hread : fs.read actual with
      | error cause =>
        simp only [auditFile, review, reading, hfile, hgolden, hread]
        rfl
      | ok bytes =>
        simp only [auditFile, review, reading, hfile, hgolden, hread]
        rfl

/-- What was reviewed can be written. -/
theorem auditFile_of_review (h : a.review fs actual = .ok (d, bytes)) :
    ∃ place old, fs.find (goldenOf actual) = .ok (place, .file old) ∧
      a.auditFile fs actual = .ok (d, if d.applied then fs.put place (.file bytes) else fs) := by
  obtain ⟨golden, hgolden, -, -⟩ := review_eq_ok_iff.mp h
  obtain ⟨place, old, hfind, hwrite⟩ := write_of_isFile (isFile_of_readText hgolden) bytes
  refine ⟨place, old, hfind, ?_⟩
  rw [auditFile_eq, h]
  simp only [bind, Except.bind, hwrite]
  split <;> rfl

theorem auditFile_eq_error_iff :
    a.auditFile fs actual = .error e ↔ a.review fs actual = .error e := by
  cases h : a.review fs actual with
  | error cause => rw [auditFile_eq, h, Except.error.injEq]; simp [bind, Except.bind]
  | ok reviewed =>
    obtain ⟨place, old, -, haudit⟩ := auditFile_of_review h
    simp [haudit]

theorem auditFile_eq_ok_iff : a.auditFile fs actual = .ok (d, fs') ↔
    ∃ bytes place old, a.review fs actual = .ok (d, bytes) ∧
      fs.find (goldenOf actual) = .ok (place, .file old) ∧
      fs' = if d.applied then fs.put place (.file bytes) else fs := by
  constructor
  · intro h
    cases hreview : a.review fs actual with
    | error cause => cases (auditFile_eq_error_iff.mpr hreview).symm.trans h
    | ok reviewed =>
      obtain ⟨place, old, hfind, haudit⟩ := auditFile_of_review hreview
      obtain ⟨rfl, rfl⟩ := Prod.mk.inj (Except.ok.inj (haudit.symm.trans h))
      exact ⟨reviewed.2, place, old, rfl, hfind, rfl⟩
  · rintro ⟨bytes, place, old, hreview, hfind, rfl⟩
    obtain ⟨place', old', hfind', haudit⟩ := auditFile_of_review hreview
    obtain ⟨rfl, -⟩ := Prod.mk.inj (Except.ok.inj (hfind.symm.trans hfind'))
    exact haudit

section Applied

variable {golden : String} (haudit : a.auditFile fs actual = .ok (d, fs'))
  (happlied : d.applied = true)
include haudit happlied

/-- What is applied is explained. -/
theorem explainsAll_of_applied (hgolden : fs.readText (goldenOf actual) = .ok golden)
    (hdump : fs.read actual = .ok bytes) : a.rule.ExplainsAll
      ((Dump.parse golden).differences (Dump.parse (Text.ofUtf8Lossy bytes))) := by
  obtain ⟨found, place, old, hreview, -, -⟩ := auditFile_eq_ok_iff.mp haudit
  obtain ⟨text, htext, hread, rfl⟩ := review_eq_ok_iff.mp hreview
  obtain rfl := Except.ok.inj (htext.symm.trans hgolden)
  obtain rfl := Except.ok.inj (hread.symm.trans hdump)
  rw [applied_decide, Bool.and_eq_true] at happlied
  exact isCompatible_decide_iff.mp happlied.1

/-- What is applied takes the place of the golden file. -/
theorem read_of_applied (hdump : fs.read actual = .ok bytes) :
    fs'.read (goldenOf actual) = .ok bytes := by
  obtain ⟨found, place, old, hreview, hfind, rfl⟩ := auditFile_eq_ok_iff.mp haudit
  obtain ⟨-, -, hread, -⟩ := of_review hreview
  obtain rfl := Except.ok.inj (hread.symm.trans hdump)
  obtain ⟨hplace, hfile⟩ := find_eq_ok_iff.mp hfind
  rw [if_pos happlied]
  exact read_put_self (by simp [hfile]) hplace

end Applied

theorem auditFile_of_texts (a : Audit) {place : Place} {golden dump : String}
    (hgolden : fs.find (goldenOf actual) = .ok (place, .file golden.toUTF8))
    (hdump : fs.read actual = .ok dump.toUTF8) : a.auditFile fs actual =
      .ok (a.decide actual (Dump.parse golden) (Dump.parse dump),
        if (a.decide actual (Dump.parse golden) (Dump.parse dump)).applied then
          fs.put place (.file dump.toUTF8)
        else fs) := by
  have hread : fs.read (goldenOf actual) = .ok golden.toUTF8 :=
    read_eq_ok_iff.mpr ⟨place, hgolden⟩
  have htext := readText_of_read hread
  exact auditFile_eq_ok_iff.mpr ⟨dump.toUTF8, place, golden.toUTF8,
    review_eq_ok_iff.mpr ⟨golden, htext, hdump, by rw [Text.ofUtf8Lossy_toUTF8]⟩, hgolden, rfl⟩

/-! Audits of many dumps. -/

theorem auditAll_cons_of_error {rest : List Path} (h : a.auditFile fs actual = .error e) :
    a.auditAll (actual :: rest) fs = (.error e, fs) := by
  simp only [auditAll, h, followedBy]

theorem auditAll_cons_of_ok {rest : List Path} (h : a.auditFile fs actual = .ok (d, fs')) :
    a.auditAll (actual :: rest) fs =
      ((a.auditAll rest fs').1.map (d :: ·), (a.auditAll rest fs').2) := by
  simp only [auditAll, h, followedBy]

/-- The decisions that are made up to the end or the first error. -/
def decided (a : Audit) : List Path → FileSystem → List Decision
  | [], _ => []
  | actual :: rest, fs =>
    (a.auditFile fs actual).toOption.elim [] fun (d, fs) => d :: a.decided rest fs

theorem decided_cons_of_error {rest : List Path} (h : a.auditFile fs actual = .error e) :
    a.decided (actual :: rest) fs = [] := by
  simp only [decided, h, Except.toOption, Option.elim]

theorem decided_cons_of_ok {rest : List Path} (h : a.auditFile fs actual = .ok (d, fs')) :
    a.decided (actual :: rest) fs = d :: a.decided rest fs' := by
  simp only [decided, h, Except.toOption, Option.elim]

theorem decided_of_auditAll (h : (a.auditAll actuals fs).1 = .ok ds) :
    a.decided actuals fs = ds := by
  induction actuals generalizing fs ds with
  | nil => exact Except.ok.inj h
  | cons actual rest ih =>
    cases haudit : a.auditFile fs actual with
    | error e =>
      rw [auditAll_cons_of_error haudit] at h
      cases h
    | ok audited =>
      obtain ⟨d, mid⟩ := audited
      rw [auditAll_cons_of_ok haudit] at h
      obtain ⟨others, hothers, rfl⟩ := map_eq_ok.mp h
      rw [decided_cons_of_ok haudit, ih hothers]

/-- The dumps of a walk. -/
def dumps (walked : List Walked) : List Path :=
  (walked.filter (hasSuffix CaseFiles.actualSuffix)).map Walked.path

/-- The decisions on the dumps below a directory up to the end or the first error. -/
def decisions (a : Audit) (fs : FileSystem) (dir : Path) : List Decision :=
  match fs.walk dir with
  | .error _ => []
  | .ok walked => a.decided (dumps walked) fs

theorem run_of_walk {dir : Path} {walked : List Walked} (h : fs.walk dir = .ok walked) :
    a.run fs dir = a.auditAll (dumps walked) fs := by
  rw [run, h, dumps]

theorem run_of_walk_error {dir : Path} {cause : WalkError} (h : fs.walk dir = .error cause) :
    a.run fs dir = (.error (.walk cause), fs) := by
  rw [run, h]

theorem decisions_of_run {dir : Path} (h : (a.run fs dir).1 = .ok ds) :
    a.decisions fs dir = ds := by
  rw [decisions]
  cases hwalk : fs.walk dir with
  | error cause =>
    rw [run_of_walk_error hwalk] at h
    cases h
  | ok walked =>
    rw [run_of_walk hwalk] at h
    exact decided_of_auditAll h

end Audit

end GoldenTree.Migration
