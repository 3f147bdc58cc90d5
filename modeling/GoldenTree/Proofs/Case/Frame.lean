import GoldenTree.Proofs.Case.Exits
import GoldenTree.Proofs.Disk.Frame

/-! A case is confined to its own files: what it comes to depends on them alone, and no other file
is changed. -/
namespace GoldenTree

open Disk FileSystem Golden Recognition Reconciler

variable {base fs : FileSystem} {places : Set Place} {p golden : Path}

namespace Golden.Reconciler

/-- Room is there already, so that nothing but the file is made. -/
theorem confined_install (h : Owned base places p) (text : String) :
    Confined base places fun fs => install fs p text := by
  obtain ⟨folder, name, directory, hp, hfolder⟩ := h.names
  refine ((h.confined_write text.toUTF8).map fun done =>
    done.mapError (ReconcileError.io p)).congr fun fs hbase => ?_
  rw [install, makeRoom_of_isFolder (hfolder.mono hbase.keepsDirectories) hp]
  simp only [attempt, writeText]
  cases fs.write p text.toUTF8 <;> rfl

theorem confined_refuse (r : Reconciler) (h : Owned base places (CaseFiles.actualDump golden))
    (expected actual : String) (difference : Difference) :
    Confined base places fun fs => r.refuse fs golden expected actual difference := by
  by_cases hdumps : r.dumpsActual = true
  · refine ((confined_install h (normalize actual)).map fun done => match done with
      | .error e => e
      | .ok () => .mismatch (r.mismatch golden expected actual difference
          (some (CaseFiles.actualDump golden)))).congr fun fs _ => ?_
    simp only [refuse, hdumps, if_true]
    cases install fs (CaseFiles.actualDump golden) (normalize actual) with
    | mk done fs' => cases done <;> rfl
  · simp only [refuse, hdumps]
    exact confined_pure _

theorem confined_reconcile (r : Reconciler) (hgolden : Owned base places golden)
    (hdump : Owned base places (CaseFiles.actualDump golden)) (actual : String)
    (regenerate : Bool) :
    Confined base places fun fs => r.reconcile fs golden actual regenerate := by
  intro fs fs' hbase hagree
  have hfind : fs'.find golden = fs.find golden := hgolden.sees_find fs fs' hbase hagree
  have hinstall := confined_install hgolden (normalize actual)
  simp only [reconcile, pathExists_congr hfind, readText_congr hfind]
  by_cases hexists : fs.pathExists golden = true
  · simp only [hexists, if_true]
    cases fs.readText golden with
    | error cause => exact confined_pure _ fs fs' hbase hagree
    | ok expected =>
      dsimp only
      cases compare? expected (normalize actual) with
      | none => exact confined_pure _ fs fs' hbase hagree
      | some difference =>
        dsimp only
        cases regenerate with
        | true => exact hinstall.map (fun done => done.map fun _ => _) fs fs' hbase hagree
        | false =>
          exact (confined_refuse r hdump expected actual difference).map _ fs fs' hbase hagree
  · simp only [hexists]
    exact hinstall.map _ fs fs' hbase hagree

end Golden.Reconciler

namespace CaseFiles

/-- All files of a case. -/
def paths (files : CaseFiles) : List Path :=
  [files.source, files.golden, actualDump files.golden, files.reference, files.failed]

/-- The files beside a source are at the places. -/
structure Own (base : FileSystem) (places : Set Place) (files : CaseFiles) : Prop where
  golden : Owned base places files.golden
  dump : Owned base places (actualDump files.golden)
  reference : Owned base places files.reference
  failed : Owned base places files.failed

theorem own_of_locate {source : Path} {files : CaseFiles} {place : Place}
    (h : ofSource? source = some files) (hlocate : base.locate source = .ok place)
    (hmem : ∀ p ∈ files.paths, ∀ place, base.locate p = .ok place → place ∈ places) :
    files.Own base places := by
  obtain ⟨stem, hstem, -⟩ := Option.map_eq_some_iff.mp h
  obtain ⟨n, hname, -⟩ := Option.map_eq_some_iff.mp hstem
  obtain ⟨parent, hparent⟩ := Path.exists_parent?_of_fileName? hname
  obtain ⟨directory, hfolder⟩ := isFolder_of_locate hparent hlocate
  have hnamed := named_of_ofSource? h hname hparent
  exact ⟨⟨⟨_, _, _, hnamed.golden, hfolder⟩, hmem _ (by simp [paths])⟩,
    ⟨⟨_, _, _, hnamed.dump, hfolder⟩, hmem _ (by simp [paths])⟩,
    ⟨⟨_, _, _, hnamed.reference, hfolder⟩, hmem _ (by simp [paths])⟩,
    ⟨⟨_, _, _, hnamed.failed, hfolder⟩, hmem _ (by simp [paths])⟩⟩

end CaseFiles

namespace CaseRun

variable {c : Case}

theorem confined_judge (h : Owned base places c.files.failed) (marker : Option Marker)
    (built : BuiltTree) : Confined base places fun fs => judge c marker built fs := by
  by_cases hholds : verdict built.hasErrors marker (referenceErrors c.kind) = true
  · simp only [judge, hholds, if_true]
    exact confined_pure _
  · refine (h.confined_touch.map fun done => match done with
      | .error cause => .error (.io c.files.failed cause)
      | .ok () => .ok (.fail (.verdict ⟨marker, built.lexerErrors.length,
          built.parserErrors.length, (referenceErrors c.kind).map List.length⟩))).congr
      fun fs _ => ?_
    simp only [judge, hholds, attempt]
    cases fs.touch c.files.failed <;> rfl

/-- What reconciling the tree of a case comes to. -/
def reconciled (config : Config) (c : Case) (header : Option Header) (built : BuiltTree)
    (fs : FileSystem) : Except ReconcileError Agreement × FileSystem :=
  reconcile { Reconciler.standard with dumpsActual := config.dumpsActual } fs c.files.golden
    (rendering c (header.bind Header.marker) built.tree)
    (config.force || header.any (·.isStale c.hash))

theorem confined_reconciled (h : c.files.Own base places) (config : Config)
    (header : Option Header) (built : BuiltTree) :
    Confined base places fun fs => reconciled config c header built fs :=
  confined_reconcile _ h.golden h.dump _ _

theorem settle_eq_conclude (config : Config) (c : Case) (header : Option Header)
    (built : BuiltTree) (fs : FileSystem) :
    settle config c header built fs = conclude config c header built
      (reconciled config c header built fs).2 (reconciled config c header built fs).1 :=
  settle_eq (reconcile_iff.mp (Prod.mk.eta (p := reconciled config c header built fs)).symm)

theorem confined_settle (h : c.files.Own base places) (config : Config) (header : Option Header)
    (built : BuiltTree) :
    Confined base places fun fs =>
      ((settle config c header built fs).1, (settle config c header built fs).2.2) := by
  have hconclude : ∀ agreement, Confined base places fun fs =>
      ((conclude config c header built fs agreement).1,
        (conclude config c header built fs agreement).2.2) := by
    intro agreement
    cases agreement with
    | error e => cases e <;> exact confined_pure _
    | ok agreement =>
      cases agreement with
      | matched => exact confined_judge h.failed _ built
      | created => exact confined_pure _
      | regenerated => exact confined_pure _
  exact ((confined_reconciled h config header built).bind hconclude).congr
    fun fs _ => by rw [settle_eq_conclude]

theorem readHeader_congr {fs' : FileSystem} (h : fs'.find golden = fs.find golden) :
    readHeader fs' golden = readHeader fs golden := by
  rw [readHeader, readHeader, pathExists_congr h, Header.read, Header.read, read_congr h]

theorem confined_run (h : c.files.Own base places) (config : Config) (session : Session) :
    Confined base places fun fs =>
      ((run config c session fs).result, (run config c session fs).fs) := by
  intro fs fs' hbase hagree
  have hheader : readHeader fs' c.files.golden = readHeader fs c.files.golden :=
    readHeader_congr (h.golden.sees_find fs fs' hbase hagree)
  simp only [run, perform, new, execute, hheader]
  cases readHeader fs c.files.golden with
  | error cause => exact confined_pure _ fs fs' hbase hagree
  | ok header =>
    dsimp only
    cases endedBy config.policy c.hash header with
    | some reason => exact confined_pure _ fs fs' hbase hagree
    | none =>
      dsimp only
      cases session.parse c.source with
      | mk parsed session' =>
        cases parsed with
        | error e => exact confined_pure _ fs fs' hbase hagree
        | ok built => exact confined_settle h config header built fs fs' hbase hagree

end CaseRun

namespace Fixtures

variable {f : Fixtures} {relative : Path} {files : CaseFiles}

theorem readBytes_congr {fs' : FileSystem} (h : fs'.find p = fs.find p) :
    readBytes fs' p = readBytes fs p := by
  rw [readBytes, readBytes, pathExists_congr h, read_congr h]

theorem loadKind_congr {fs' : FileSystem}
    (h : fs'.find files.reference = fs.find files.reference) :
    loadKind fs' files = loadKind fs files := by
  rw [loadKind, loadKind, isFile_congr h, readBytes_congr h]

theorem files_eq_ok_iff : f.files relative = .ok files ↔
    CaseFiles.ofSource? (f.base.join relative) = some files := filesOf_eq_ok_iff

theorem source_of_files (h : f.files relative = .ok files) :
    files.source = f.base.join relative := by
  obtain ⟨stem, -, rfl⟩ := Option.map_eq_some_iff.mp (files_eq_ok_iff.mp h)
  rfl

/-- The places where the files of a case are, or would be. -/
def placesOf (f : Fixtures) (fs : FileSystem) (relative : Path) : List Place :=
  match f.files relative with
  | .error _ => []
  | .ok files => files.paths.filterMap fun p => (fs.locate p).toOption

theorem mem_placesOf (h : f.files relative = .ok files) {place : Place} :
    place ∈ f.placesOf fs relative ↔ ∃ p ∈ files.paths, fs.locate p = .ok place := by
  have hplaces : f.placesOf fs relative =
      files.paths.filterMap fun p => (fs.locate p).toOption := by
    unfold placesOf
    rw [h]
  rw [hplaces, List.mem_filterMap]
  refine exists_congr fun p => and_congr_right fun _ => ?_
  cases fs.locate p <;> simp [Except.toOption]

theorem own_of_files (h : f.files relative = .ok files) {place : Place}
    (hlocate : base.locate files.source = .ok place) :
    files.Own base {place | place ∈ f.placesOf base relative} := by
  rw [source_of_files h] at hlocate
  exact CaseFiles.own_of_locate (files_eq_ok_iff.mp h) hlocate
    fun p hp _ hplace => (mem_placesOf h).mpr ⟨p, hp, hplace⟩

/-- Without a source, nothing beside it is looked at. -/
theorem sees_load (f : Fixtures) (base : FileSystem) (relative : Path) :
    Sees base {place | place ∈ f.placesOf base relative} fun fs => f.load fs relative := by
  intro fs fs' hbase hagree
  dsimp only
  cases hfiles : f.files relative with
  | error e => simp only [load, hfiles, bind, Except.bind]
  | ok files =>
    cases hlocate : base.locate files.source with
    | error cause =>
      have hmissing := pathExists_of_unlocated hbase hlocate
      have hmissing' := pathExists_of_unlocated (hbase.along hagree) hlocate
      simp only [load, hfiles, bind, Except.bind, readBytes, hmissing, hmissing', if_false,
        Bool.false_eq_true]
    | ok place =>
      have hown := own_of_files hfiles hlocate
      have hsource : fs'.find files.source = fs.find files.source :=
        sees_find_of_locate hlocate
          ((mem_placesOf hfiles).mpr ⟨_, by simp [CaseFiles.paths], hlocate⟩) fs fs' hbase hagree
      have hreference : fs'.find files.reference = fs.find files.reference :=
        hown.reference.sees_find fs fs' hbase hagree
      simp only [load, hfiles, bind, Except.bind, readBytes_congr hsource,
        loadKind_congr hreference]

theorem own_of_load {c : Case} (hbase : Agree ∅ base fs) (h : f.load fs relative = .ok c) :
    c.files.Own base {place | place ∈ f.placesOf base relative} := by
  simp only [load, bind_eq_ok, pure_eq_ok] at h
  obtain ⟨files, hfiles, bytes, hbytes, source, -, kind, -, rfl⟩ := h
  unfold readBytes at hbytes
  split at hbytes
  · next hexists =>
    obtain ⟨place, entry, hfind⟩ := pathExists_iff.mp hexists
    exact own_of_files hfiles (hbase.locate_iff.mp (find_eq_ok_iff.mp hfind).1)
  · cases hbytes

end Fixtures

end GoldenTree
