import GoldenTree.Proofs.Case.Rerun
import GoldenTree.Proofs.Migration.Header

/-! Promoted dumps. A case that ends in a mismatch leaves its rendering as a dump. Once an audit has
put the dump in the place of the golden file, the case finds there the marker that it had, and the
rendering that it writes under this marker. -/
namespace GoldenTree.CaseRun

open Disk FileSystem Golden Recognition Reconciler GoldenTree.Tree

variable {config : Config} {c : Case} {parsed : Except BuildError BuiltTree} {fs fs' : FileSystem}
  {header : Option Header} {built : BuiltTree} {folder g d f : List Char} {golden : String}
  {m : Mismatch}

/-- What a case leaves that ended in a mismatch: the golden file that it was compared with, and its
rendering in the dump. -/
structure Dumped (config : Config) (c : Case) (parsed : Except BuildError BuiltTree)
    (fs : FileSystem) (header : Option Header) (built : BuiltTree) (golden : String) : Prop where
  prepared : Prepared config c parsed fs header built
  golden : fs.readText c.files.golden = .ok golden
  dump : fs.read (CaseFiles.actualDump c.files.golden) =
    .ok (normalize (rendering c (header.bind Header.marker) built.tree)).toUTF8

theorem dumped_of_mismatched (hb : c.files.Beside folder g d f) (hdumps : config.dumpsActual = true)
    (h : Exits config c parsed fs (.ok (.fail (.goldenMismatch m))) fs') :
    m.dump? = some (CaseFiles.actualDump c.files.golden) ∧
      ∃ header built golden, Dumped config c parsed fs' header built golden := by
  cases h with
  | mismatched hprepared hreconciled =>
    cases hreconciled with
    | refused _ _ _ hquiet => cases hdumps.symm.trans hquiet
    | dumped hread _ _ _ hinstall =>
      obtain ⟨place, hplace⟩ := locate_of_readText hread
      rcases installs_of_names hb.dump hb.golden hplace hinstall with ⟨_, -, hdone, -⟩ | ⟨hwrite, -⟩
      · cases hdone
      · have hkeeps := keeps_write_of_names hb.golden hb.dump hb.golden_ne_dump hwrite
        exact ⟨rfl, _, _, _, hprepared.again hkeeps hread, hkeeps.readText hread,
          read_write_self hb.dump hwrite⟩
    | uncreated _ hinstall => cases hinstall
    | unregenerated _ _ _ hinstall => cases hinstall
    | undumped _ _ _ _ hinstall => cases hinstall

section Promoted

variable (hhash : Header.isHash c.hash.toList = true) (hnewline : '\n' ∉ c.fileName.toList)
  (hreturn : '\r' ∉ c.fileName.toList) (h : Dumped config c parsed fs header built golden)
include hhash hnewline hreturn h

/-- A dump that is explained lets the case go on as it did. A header of the old golden file stands
in the dump as well. Without one the dump has no marker, and no hash but that of the case. -/
theorem prepared_of_dumped {r : Migration.Rule}
    (hexplained : r.ExplainsAll ((Dump.parse golden).differences
      (Dump.parse (normalize (rendering c (header.bind Header.marker) built.tree)))))
    (hread : fs'.read c.files.golden =
      .ok (normalize (rendering c (header.bind Header.marker) built.tree)).toUTF8) :
    ∃ header', Prepared config c parsed fs' header' built ∧
      header'.bind Header.marker = header.bind Header.marker := by
  have hold : header = Header.ofText? golden :=
    Except.ok.inj (h.prepared.read.symm.trans (readHeader_of_readText h.golden))
  have hnew := (readHeader_of_read hread).trans (Header.ofBytes_toUTF8 _)
  cases header with
  | some old =>
    have hfirst := Migration.firstLine_of_explainsAll hold.symm hexplained
    rw [firstLine_rendering hhash hnewline hreturn,
      startsSolid_headerLine.trim (endsSolid_headerLine hhash)] at hfirst
    have hsame : Header.ofText? (normalize (rendering c old.marker built.tree)) = some old := by
      rw [hold, Header.ofText?, Header.ofText?, ← hfirst,
        firstLine_rendering hhash hnewline hreturn]
      rfl
    exact ⟨some old, ⟨hnew.trans (congrArg _ hsame), h.prepared.goesOn, h.prepared.parsed⟩, rfl⟩
  | none =>
    have hown : ∀ own ∈ Header.ofText? (normalize (rendering c none built.tree)),
        own = ⟨c.hash, none⟩ :=
      fun own hmem => eq_of_ofText?_rendering hhash hnewline hreturn hmem
    refine ⟨_, ⟨hnew, endedBy_eq_none_iff.mpr fun own hmem => ?_, h.prepared.parsed⟩,
      Option.bind_eq_none_iff.mpr fun own hmem => ?_⟩
    · rw [hown own hmem]
      simp [Header.isStale]
    · rw [hown own hmem]

/-- Once its dump is promoted, a case goes on to the verdict. -/
theorem exits_of_promoted (hb : c.files.Beside folder g d f) {a : Migration.Audit}
    {decision : Migration.Decision}
    (haudit : a.auditFile fs (CaseFiles.actualDump c.files.golden) = .ok (decision, fs'))
    (happlied : decision.applied = true) :
    ∃ result fs'', Exits config c parsed fs' result fs'' ∧ ReachesVerdict c result := by
  have hread := Migration.Audit.read_of_applied haudit happlied h.dump
  have hgolden := h.golden
  rw [← Migration.goldenOf_actualDump c.files.golden] at hgolden
  have hexplained := Migration.Audit.explainsAll_of_applied haudit happlied hgolden h.dump
  rw [Migration.goldenOf_actualDump] at hread
  rw [Text.ofUtf8Lossy_toUTF8] at hexplained
  obtain ⟨header', hprepared, hmarker⟩ :=
    prepared_of_dumped hhash hnewline hreturn h hexplained hread
  -- What was promoted is what the next run renders, under the same marker.
  have hreconciled : Reconciled config c header' built fs' (.ok .matched) fs' :=
    .matched (readText_of_read hread) (by rw [hmarker])
  obtain ⟨result, fs'', hexits, hreaches, -⟩ := exits_of_matched hb hprepared hreconciled
  exact ⟨result, fs'', hexits, hreaches⟩

end Promoted

/-- A promoted dump settles its case. A run that ends in a mismatch has written a dump if dumps are
on; and if any audit applies that dump, then the next run, in the same session or in another one of
its kind, ends in the verdict or in an error at its sentinel. -/
theorem promotion_settles (config : Config) (session : Session) (fs : FileSystem) (c : Case)
    (hc : c.IsLoaded) (hnewline : '\n' ∉ c.fileName.toList) (hreturn : '\r' ∉ c.fileName.toList)
    (hdumps : config.dumpsActual = true) (m : Mismatch)
    (hmismatch : (perform config (new c) session fs).result = .ok (.fail (.goldenMismatch m))) :
    let ran := perform config (new c) session fs
    let actual := CaseFiles.actualDump c.files.golden
    m.dump? = some actual ∧ ∀ (a : Migration.Audit) (d : Migration.Decision)
      (promoted : FileSystem) (later : Session),
      a.auditFile ran.fs actual = .ok (d, promoted) → d.applied = true → session.Alike later →
      ReachesVerdict c (perform config (new c) later promoted).result := by
  intro ran actual
  obtain ⟨folder, g, d, f, hb⟩ := CaseFiles.beside_of_ofSource? hc.files
  have hexits : Exits config c (session.parse c.source).1 fs ran.result ran.fs :=
    exits_of_run config c session fs
  rw [hmismatch] at hexits
  obtain ⟨hdump, header, built, golden, hdumped⟩ := dumped_of_mismatched hb hdumps hexits
  refine ⟨hdump, fun a decision promoted later haudit happlied hlater => ?_⟩
  obtain ⟨result, fs', hnext, hreaches⟩ := exits_of_promoted (hc.hash ▸ isHash_sourceHash _)
    hnewline hreturn hdumped hb haudit happlied
  rw [← hlater.parse_fst] at hnext
  exact (run_of_exits hnext).1 ▸ hreaches

/-- The tree of the empty source, in a golden file that indents it further. -/
def deepGolden : String := "File: a.kt - d41d8cd98f00b204e9800998ecf8427e\n    EOF(\"<EOF>\")\n"

/-- Its dump, which differs in the indentation alone. -/
def deepDump : String := sampleGolden "d41d8cd98f00b204e9800998ecf8427e"

def deepDisk : FileSystem :=
  ⟨[(["t"], .directory), (["t", "a.antlrtree.txt"], .file deepGolden.toUTF8)]⟩

def deepDiskDumped : FileSystem :=
  deepDisk.put ["t", "a.antlrtree.txt.actual"] (.file deepDump.toUTF8)

/-- The mismatch in which a case ended. -/
def mismatch? : Except RunError Outcome → Option Mismatch
  | .ok (.fail (.goldenMismatch m)) => some m
  | _ => none

theorem eq_of_mismatch? {result : Except RunError Outcome} (h : mismatch? result = some m) :
    result = .ok (.fail (.goldenMismatch m)) := by
  unfold mismatch? at h
  split at h
  · rw [Option.some.inj h]
  · cases h

theorem promotion_settles_deepDisk :
    let audit : Migration.Audit := ⟨.identifierToValue, false⟩
    let session := Session.new Grammar.recognizer .standard
    let ran := perform (.new .skip) (new sampleCase) session deepDisk
    ∃ m d promoted, sampleCase.IsLoaded ∧ '\n' ∉ sampleCase.fileName.toList ∧
      '\r' ∉ sampleCase.fileName.toList ∧ (Config.new .skip).dumpsActual = true ∧
      ran.result = .ok (.fail (.goldenMismatch m)) ∧
      audit.auditFile ran.fs (CaseFiles.actualDump sampleCase.files.golden) = .ok (d, promoted) ∧
      d.applied = true ∧ d.differences = 0 ∧ session.Alike ran.session ∧
      ReachesVerdict sampleCase
        (perform (.new .skip) (new sampleCase) ran.session promoted).result := by
  intro audit session ran
  have hran : (mismatch? ran.result).isSome = true ∧ ran.fs = deepDiskDumped := by decide +kernel
  obtain ⟨hfails, hfs⟩ := hran
  obtain ⟨m, hm⟩ := Option.isSome_iff_exists.mp hfails
  have hmismatch := eq_of_mismatch? hm
  have hfind : deepDiskDumped.find
      (Migration.goldenOf (CaseFiles.actualDump sampleCase.files.golden)) =
        .ok (["t", "a.antlrtree.txt"], .file deepGolden.toUTF8) := rfl
  have hread : deepDiskDumped.read (CaseFiles.actualDump sampleCase.files.golden) =
      .ok deepDump.toUTF8 := rfl
  have haudit := audit.auditFile_of_texts hfind hread
  rw [← hfs] at haudit
  have happlied : (audit.decide (CaseFiles.actualDump sampleCase.files.golden)
      (Dump.parse deepGolden) (Dump.parse deepDump)).applied = true := by decide +kernel
  have halike : session.Alike ran.session := alike_run _ _ _ _
  obtain ⟨-, hsettles⟩ := promotion_settles (.new .skip) session deepDisk sampleCase
    sampleCase_isLoaded (by decide) (by decide) rfl m hmismatch
  exact ⟨m, _, _, sampleCase_isLoaded, by decide, by decide, rfl, hmismatch, haudit, happlied,
    by decide +kernel, halike, hsettles _ _ _ _ haudit happlied halike⟩

end GoldenTree.CaseRun
