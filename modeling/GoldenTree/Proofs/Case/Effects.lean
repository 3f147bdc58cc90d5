import GoldenTree.Proofs.Case.Rerun

/-! What a run leaves behind. Its outcome tells which of the three files of the case it wrote, and
no other file is ever touched. -/
namespace GoldenTree

open Disk FileSystem Golden Recognition Reconciler

namespace Disk.FileSystem

variable {fs fs' room : FileSystem} {p : Path} {folder name : List Char} {bytes : ByteArray}

/-- No file was made, changed or lost. -/
def SameFiles (fs fs' : FileSystem) : Prop := ∀ place, fs'.file? place = fs.file? place

/-- The path has this content now, and no other file was touched. -/
def Writes (fs fs' : FileSystem) (p : Path) (bytes : ByteArray) : Prop :=
  ∃ place, fs'.locate p = .ok place ∧
    ∀ other, fs'.file? other = if other = place then some bytes else fs.file? other

theorem SameFiles.refl (fs : FileSystem) : SameFiles fs fs := fun _ => rfl

theorem Grows.sameFiles (h : Grows fs fs') : SameFiles fs fs' := h.file?

theorem writes_of_write (hp : p.Names folder name) (hroom : SameFiles fs room)
    (h : room.write p bytes = .ok fs') : Writes fs fs' p bytes := by
  obtain ⟨place, hplace, hfree, rfl⟩ := (write_names_iff hp).mp h
  refine ⟨place, (locate_put_iff hfree).mpr hplace, fun other => ?_⟩
  rw [file?_put (ne_nil_of_get? hfree), hroom other]

theorem Writes.place_of_change (h : Writes fs fs' p bytes) {place : Place}
    (hchange : fs'.file? place ≠ fs.file? place) : fs'.locate p = .ok place := by
  obtain ⟨written, hplace, hfiles⟩ := h
  by_cases hsame : place = written
  · rwa [hsame]
  · exact absurd (by rw [hfiles place, if_neg hsame]) hchange

/-- Touching a file keeps the content that it has. -/
theorem writes_of_touch (hp : p.Names folder name) (h : fs.touch p = .ok fs') :
    ∃ bytes, Writes fs fs' p bytes ∧
      (fs.read p = .ok bytes ∨ (bytes = .empty ∧ ∀ old, fs.read p ≠ .ok old)) := by
  rcases touch_cases hp h with ⟨rfl, bytes, hread⟩ | ⟨hwrite, hmissing⟩
  · obtain ⟨place, hplace, hfile⟩ := read_eq_ok_iff_file?.mp hread
    refine ⟨bytes, ⟨place, hplace, fun other => ?_⟩, .inl hread⟩
    by_cases hother : other = place
    · rw [if_pos hother, hother, hfile]
    · rw [if_neg hother]
  · exact ⟨.empty, writes_of_write hp (.refl fs) hwrite, .inr ⟨rfl, hmissing⟩⟩

end Disk.FileSystem

namespace CaseRun

variable {config : Config} {c : Case} {session : Session} {fs fs' : FileSystem}
  {parsed : Except BuildError BuiltTree} {result : Except RunError Outcome}
  {folder g d f : List Char} {text : String}

/-- The text that a run would write: its tree in normal form, with the marker of the header. -/
def IsRendering (c : Case) (parsed : Except BuildError BuiltTree) (fs : FileSystem)
    (text : String) : Prop :=
  ∃ header built, readHeader fs c.files.golden = .ok header ∧ parsed = .ok built ∧
    text = normalize (rendering c (header.bind Header.marker) built.tree)

/-- What a run leaves behind, by how it ended. -/
def Effect (config : Config) (c : Case) (parsed : Except BuildError BuiltTree)
    (fs fs' : FileSystem) : Except RunError Outcome → Prop
  | .error _ => SameFiles fs fs'
  | .ok .pass => SameFiles fs fs'
  | .ok (.skipped .muted) => SameFiles fs fs'
  | .ok (.skipped (.staleHash _ _)) => SameFiles fs fs'
  | .ok (.skipped .goldenCreated) => fs.pathExists c.files.golden = false ∧
    ∃ text, IsRendering c parsed fs text ∧ Writes fs fs' c.files.golden text.toUTF8
  | .ok (.skipped (.goldenRegenerated _)) => fs.pathExists c.files.golden = true ∧
    ∃ text, IsRendering c parsed fs text ∧ Writes fs fs' c.files.golden text.toUTF8
  | .ok (.fail (.goldenMismatch _)) =>
    Keeps fs fs' c.files.golden ∧ Keeps fs fs' c.files.failed ∧
    if config.dumpsActual then ∃ text, IsRendering c parsed fs text ∧
      Writes fs fs' (CaseFiles.actualDump c.files.golden) text.toUTF8
    else SameFiles fs fs'
  | .ok (.fail (.verdict _)) =>
    Keeps fs fs' c.files.golden ∧
    (∃ expected text, fs.readText c.files.golden = .ok expected ∧ IsRendering c parsed fs text ∧
      normalize expected = text) ∧
    ∃ bytes, Writes fs fs' c.files.failed bytes ∧ (fs.read c.files.failed = .ok bytes ∨
      (bytes = .empty ∧ ∀ old, fs.read c.files.failed ≠ .ok old))

theorem effect_of_exits (hb : c.files.Beside folder g d f)
    (hhash : Header.isHash c.hash.toList = true)
    (hnodes : ∀ built, parsed = .ok built →
      ∀ u ∈ ParseTree.forestSubtrees built.tree.children, ParseTree.IsNode Grammar.recognizer u)
    (h : Exits config c parsed fs result fs') : Effect config c parsed fs fs' result := by
  cases h with
  | unread _ => exact .refl fs
  | unbuilt _ _ _ => exact .refl fs
  | passed _ _ _ => exact .refl fs
  | unmarked _ _ _ _ => exact .refl fs
  | @skipped header reason hread hended =>
    have hkeeps := not_writesGolden_of_endedBy hended
    cases reason with
    | muted => exact .refl fs
    | staleHash _ _ => exact .refl fs
    | goldenCreated => exact absurd trivial hkeeps
    | goldenRegenerated _ => exact absurd trivial hkeeps
  | created hprepared hreconciled =>
    cases hreconciled with
    | created hmissing hinstall =>
      cases hinstall with
      | written hroom hwrite =>
        exact ⟨hmissing, _, ⟨_, _, hprepared.read, hprepared.parsed, rfl⟩,
          writes_of_write hb.golden (grows_makeRoom hroom).sameFiles hwrite⟩
  | regenerated hprepared hreconciled =>
    cases changes_of_reconciles hb.golden hb.dump hreconciled with
    | regenerated hread _ hwrite =>
      exact ⟨pathExists_of_readText hread, _, ⟨_, _, hprepared.read, hprepared.parsed, rfl⟩,
        writes_of_write hb.golden (.refl fs) hwrite⟩
  | mismatched hprepared hreconciled =>
    cases changes_of_reconciles hb.golden hb.dump hreconciled with
    | refused _ _ hquiet =>
      refine ⟨.refl _ _, .refl _ _, ?_⟩
      rw [if_neg (by simpa using hquiet)]
      exact .refl fs
    | dumped _ _ hdumps hwrite =>
      refine ⟨keeps_write_of_names hb.golden hb.dump hb.golden_ne_dump hwrite,
        keeps_write_of_names hb.failed hb.dump hb.failed_ne_dump hwrite, ?_⟩
      rw [if_pos hdumps]
      exact ⟨_, ⟨_, _, hprepared.read, hprepared.parsed, rfl⟩,
        writes_of_write hb.dump (.refl fs) hwrite⟩
  | unreconciled _ hreconciled =>
    cases changes_of_reconciles hb.golden hb.dump hreconciled with
    | failed hgrows _ => exact hgrows.sameFiles
  | refuted hprepared hreconciled _ htouch =>
    cases hreconciled with
    | matched hread hequal =>
      rw [normalize_normalize_rendering (hnodes _ hprepared.parsed) hhash] at hequal
      exact ⟨keeps_touch_of_names hb.golden hb.failed hb.golden_ne_failed htouch,
        ⟨_, _, hread, ⟨_, _, hprepared.read, hprepared.parsed, rfl⟩, hequal⟩,
        writes_of_touch hb.failed htouch⟩

/-- The files that a case may touch. -/
def ownFiles (c : Case) : List Path :=
  [c.files.golden, CaseFiles.actualDump c.files.golden, c.files.failed]

/-- A file that changed is one of the case. -/
theorem ownFiles_of_change (h : Effect config c parsed fs fs' result) {place : Place}
    (hchange : fs'.file? place ≠ fs.file? place) : ∃ p ∈ ownFiles c, fs'.locate p = .ok place := by
  have hsame : ∀ {P : Prop}, SameFiles fs fs' → P := fun hsame => absurd (hsame place) hchange
  match result, h with
  | .error _, h => exact hsame h
  | .ok .pass, h => exact hsame h
  | .ok (.skipped .muted), h => exact hsame h
  | .ok (.skipped (.staleHash _ _)), h => exact hsame h
  | .ok (.skipped .goldenCreated), ⟨_, _, _, hwrites⟩ =>
    exact ⟨_, by simp [ownFiles], hwrites.place_of_change hchange⟩
  | .ok (.skipped (.goldenRegenerated _)), ⟨_, _, _, hwrites⟩ =>
    exact ⟨_, by simp [ownFiles], hwrites.place_of_change hchange⟩
  | .ok (.fail (.goldenMismatch _)), ⟨_, _, hdump⟩ =>
    split at hdump
    · obtain ⟨_, -, hwrites⟩ := hdump
      exact ⟨_, by simp [ownFiles], hwrites.place_of_change hchange⟩
    · exact hsame hdump
  | .ok (.fail (.verdict _)), ⟨_, _, _, hwrites, _⟩ =>
    exact ⟨_, by simp [ownFiles], hwrites.place_of_change hchange⟩

/-- A muted case is skipped before its source is parsed. -/
theorem run_of_mute {h : Header} (hread : Header.read fs c.files.golden = .ok (some h))
    (hmute : h.marker = some .mute) :
    (∃ reason, (run config c session fs).result = .ok (.skipped reason)) ∧
      (run config c session fs).session = session := by
  have hheader : readHeader fs c.files.golden = .ok (some h) := by
    cases hbytes : fs.read c.files.golden with
    | error cause => simp [Header.read, hbytes, bind, Except.bind] at hread
    | ok bytes =>
      rw [Header.read, hbytes] at hread
      rw [readHeader_of_read hbytes]
      exact hread
  have hended : ∃ reason, endedBy config.policy c.hash (some h) = some reason := by
    simp only [endedBy, Option.bind_some, hmute, if_true]
    split <;> exact ⟨_, rfl⟩
  obtain ⟨reason, hreason⟩ := hended
  refine ⟨⟨reason, (run_of_exits (.skipped hheader hreason)).1⟩, ?_⟩
  simp [run, perform, new, execute, hheader, hreason]

/-- A run touches no file but those of its case, and its outcome tells what it did to them. -/
theorem run_effects (config : Config) (session : Session)
    (hsession : session.recognizer = Grammar.recognizer) (fs : FileSystem) (c : Case)
    (hc : c.IsLoaded) :
    let ran := perform config (new c) session fs
    (∀ place, ran.fs.file? place ≠ fs.file? place →
      ∃ p ∈ ownFiles c, ran.fs.locate p = .ok place) ∧
    Effect config c (session.parse c.source).1 fs ran.fs ran.result ∧
    ∀ h, Header.read fs c.files.golden = .ok (some h) → h.marker = some .mute →
      (∃ reason, ran.result = .ok (.skipped reason)) ∧ ran.session = session := by
  intro ran
  obtain ⟨folder, g, d, f, hb⟩ := CaseFiles.beside_of_ofSource? hc.files
  have hhash : Header.isHash c.hash.toList = true := hc.hash ▸ isHash_sourceHash _
  have heffect : Effect config c (session.parse c.source).1 fs ran.fs ran.result := by
    refine effect_of_exits hb hhash (fun built hbuilt => ?_) (exits_of_run config c session fs)
    rw [← hsession]
    exact Session.isNode_of_parse hbuilt
  exact ⟨fun place hchange => ownFiles_of_change heffect hchange, heffect,
    fun h hread hmute => run_of_mute hread hmute⟩

/-- Errors are expected in the empty source, which has none: the verdict fails and leaves its
sentinel. Muted, the case is skipped. -/
theorem run_effects_sampleCase :
    let disk := sampleDisk "d41d8cd98f00b204e9800998ecf8427e (WITH_ERRORS)"
    let muted := sampleDisk "d41d8cd98f00b204e9800998ecf8427e (MUTE)"
    let session := .new Grammar.recognizer .standard
    let ran := perform (.new .skip) (new sampleCase) session disk
    sampleCase.IsLoaded ∧ session.recognizer = Grammar.recognizer ∧
      ran.result = .ok (.fail (.verdict ⟨some .withErrors, 0, 0, none⟩)) ∧
      Keeps disk ran.fs sampleCase.files.golden ∧
      (∃ bytes, Writes disk ran.fs sampleCase.files.failed bytes) ∧
      (∀ place, ran.fs.file? place ≠ disk.file? place →
        ∃ p ∈ ownFiles sampleCase, ran.fs.locate p = .ok place) ∧
      Header.read muted sampleCase.files.golden =
        .ok (some ⟨"d41d8cd98f00b204e9800998ecf8427e", some .mute⟩) ∧
      (∃ reason, (perform (.new .skip) (new sampleCase) session muted).result =
        .ok (.skipped reason)) ∧
      (perform (.new .skip) (new sampleCase) session muted).session = session := by
  intro disk muted session ran
  have hresult : ran.result = .ok (.fail (.verdict ⟨some .withErrors, 0, 0, none⟩)) := by
    decide +kernel
  have hmuted : Header.read muted sampleCase.files.golden =
      .ok (some ⟨"d41d8cd98f00b204e9800998ecf8427e", some .mute⟩) := by
    decide +kernel
  obtain ⟨hfiles, heffect, -⟩ := run_effects (.new .skip) session rfl disk sampleCase
    sampleCase_isLoaded
  obtain ⟨-, -, hskips⟩ := run_effects (.new .skip) session rfl muted sampleCase
    sampleCase_isLoaded
  rw [hresult] at heffect
  obtain ⟨hkeeps, -, bytes, hwrites, -⟩ := heffect
  exact ⟨sampleCase_isLoaded, rfl, hresult, hkeeps, ⟨bytes, hwrites⟩, hfiles, hmuted,
    hskips _ hmuted rfl⟩

end CaseRun

end GoldenTree
