import GoldenTree.Proofs.Case.Rerun

/-! When the golden file may be changed, and what it vouches for. Only a run that forces changes or
finds another hash in the header overwrites it. A case that was judged had its own hash there. -/
namespace GoldenTree.CaseRun

open Disk FileSystem Golden Recognition Reconciler

variable {config : Config} {c : Case} {parsed : Except BuildError BuiltTree} {session : Session}
  {fs fs' : FileSystem} {result : Except RunError Outcome} {header : Option Header}
  {built : BuiltTree} {folder g d f : List Char} {bytes : ByteArray} {text : String}

theorem isStale_iff {h : Header} {hash : String} : h.isStale hash = true ↔ h.hash ≠ hash := by
  simp [Header.isStale]

/-- A golden file that was there changes only where it is regenerated. -/
theorem prepared_of_change (hb : c.files.Beside folder g d f)
    (h : Exits config c parsed fs result fs') (hread : fs.read c.files.golden = .ok bytes)
    (hchange : fs'.read c.files.golden ≠ .ok bytes) :
    ∃ header built, Prepared config c parsed fs header built ∧
      (config.force || header.any (·.isStale c.hash)) = true := by
  have hexists : fs.pathExists c.files.golden = true := by
    obtain ⟨place, hfind⟩ := read_eq_ok_iff.mp hread
    exact pathExists_iff.mpr ⟨place, _, hfind⟩
  have hreconciled : ∀ {header : Option Header} {built : BuiltTree} {agreement},
      Prepared config c parsed fs header built →
      Reconciled config c header built fs agreement fs' →
      ∃ header built, Prepared config c parsed fs header built ∧
        (config.force || header.any (·.isStale c.hash)) = true := by
    intro header built agreement hprepared hreconciled
    cases changes_of_reconciles hb.golden hb.dump hreconciled with
    | created hmissing _ => simp [hexists] at hmissing
    | matched _ _ => exact absurd hread hchange
    | regenerated _ hforce _ => exact ⟨header, built, hprepared, hforce⟩
    | refused _ _ _ => exact absurd hread hchange
    | dumped _ _ _ hwrite =>
      have hkeeps := keeps_write_of_names hb.golden hb.dump hb.golden_ne_dump hwrite
      exact absurd ((hkeeps bytes).mpr hread) hchange
    | failed _ hsame => exact absurd (hsame hexists ▸ hread) hchange
  cases h with
  | created hprepared h => exact hreconciled hprepared h
  | regenerated hprepared h => exact hreconciled hprepared h
  | mismatched hprepared h => exact hreconciled hprepared h
  | unreconciled hprepared h => exact hreconciled hprepared h
  | refuted _ _ _ htouch =>
    have hkeeps := keeps_touch_of_names hb.golden hb.failed hb.golden_ne_failed htouch
    exact absurd ((hkeeps bytes).mpr hread) hchange
  | _ => exact absurd hread hchange

/-- The outcomes of a case whose tree was compared with its golden file and that ended there. -/
def Judged : Except RunError Outcome → Prop
  | .ok .pass => True
  | .ok (.fail _) => True
  | _ => False

/-- A case that was judged found its own hash in the header, if there was one. -/
theorem hash_of_judged (hb : c.files.Beside folder g d f)
    (hhash : Header.isHash c.hash.toList = true) (hnewline : '\n' ∉ c.fileName.toList)
    (hreturn : '\r' ∉ c.fileName.toList)
    (hnodes : ∀ built, parsed = .ok built →
      ∀ u ∈ ParseTree.forestSubtrees built.tree.children, ParseTree.IsNode Grammar.recognizer u)
    (h : Exits config c parsed fs result fs') (hjudged : Judged result) :
    ∃ text, fs.readText c.files.golden = .ok text ∧
      ∀ header ∈ Header.ofText? text, header.hash = c.hash := by
  have hmatched : ∀ {header : Option Header} {built : BuiltTree},
      Prepared config c parsed fs header built →
      Reconciled config c header built fs (.ok .matched) fs →
      ∃ text, fs.readText c.files.golden = .ok text ∧
        ∀ header ∈ Header.ofText? text, header.hash = c.hash := by
    intro header built hprepared hreconciled
    have hbuilt := hnodes built hprepared.parsed
    cases hreconciled with
    | matched hread hequal =>
      rw [normalize_normalize_rendering hbuilt hhash] at hequal
      exact ⟨_, hread, fun h hh => hash_of_normalize_eq hbuilt hhash hnewline hreturn hequal hh⟩
  have hkept : ∀ {header : Option Header} {built : BuiltTree} {text : String},
      Prepared config c parsed fs header built → fs.readText c.files.golden = .ok text →
      (config.force || header.any (·.isStale c.hash)) = false →
      ∃ text, fs.readText c.files.golden = .ok text ∧
        ∀ header ∈ Header.ofText? text, header.hash = c.hash := by
    intro header built text hprepared hread hkeep
    obtain ⟨-, hfresh⟩ := Bool.or_eq_false_iff.mp hkeep
    have hheader := hprepared.read
    rw [readHeader_of_readText hread] at hheader
    obtain rfl := Except.ok.inj hheader
    refine ⟨text, hread, fun h hh => ?_⟩
    rw [Option.mem_def.mp hh, Option.any_some] at hfresh
    simpa [Header.isStale] using hfresh
  cases h with
  | passed hprepared hreconciled _ => exact hmatched hprepared hreconciled
  | refuted hprepared hreconciled _ _ => exact hmatched hprepared hreconciled
  | mismatched hprepared hreconciled =>
    cases changes_of_reconciles hb.golden hb.dump hreconciled with
    | refused hread hkeep _ => exact hkept hprepared hread hkeep
    | dumped hread hkeep _ _ => exact hkept hprepared hread hkeep
  | _ => cases hjudged

/-- The golden file is changed only by a run that may do so: its header has no mute marker, it is
not kept for being stale, and the run forces changes or finds another hash there. A case that was
judged found no hash but its own. -/
theorem golden_authority (config : Config) (session : Session)
    (hsession : session.recognizer = Grammar.recognizer) (fs : FileSystem) (c : Case)
    (hc : c.IsLoaded) (hnewline : '\n' ∉ c.fileName.toList) (hreturn : '\r' ∉ c.fileName.toList) :
    let ran := perform config (new c) session fs
    (∀ bytes, fs.read c.files.golden = .ok bytes → ran.fs.read c.files.golden ≠ .ok bytes →
      ∃ header, Header.ofBytes bytes = .ok header ∧
        (∀ h ∈ header, h.marker ≠ some .mute ∧ ¬(config.policy = .skip ∧ h.hash ≠ c.hash)) ∧
        (config.force = true ∨ ∃ h ∈ header, h.hash ≠ c.hash)) ∧
    ((ran.result = .ok .pass ∨ (∃ v, ran.result = .ok (.fail (.verdict v))) ∨
        ∃ m, ran.result = .ok (.fail (.goldenMismatch m))) →
      ∃ text, fs.readText c.files.golden = .ok text ∧
        ∀ h ∈ Header.ofText? text, h.hash = c.hash) := by
  intro ran
  obtain ⟨folder, g, d, f, hb⟩ := CaseFiles.beside_of_ofSource? hc.files
  have hhash : Header.isHash c.hash.toList = true := hc.hash ▸ isHash_sourceHash _
  have hexits : Exits config c (session.parse c.source).1 fs ran.result ran.fs :=
    exits_of_run config c session fs
  constructor
  · intro bytes hread hchange
    obtain ⟨header, built, hprepared, hallowed⟩ := prepared_of_change hb hexits hread hchange
    refine ⟨header, (readHeader_of_read hread).symm.trans hprepared.read, fun h hh => ?_, ?_⟩
    · obtain ⟨hpolicy, hmute⟩ := endedBy_eq_none_iff.mp hprepared.goesOn h hh
      exact ⟨hmute, by rwa [← isStale_iff]⟩
    · rcases Bool.or_eq_true_iff.mp hallowed with hforce | hstale
      · exact .inl hforce
      · obtain ⟨h, hh, hstale⟩ := (Option.any_eq_true ..).mp hstale
        exact .inr ⟨h, hh, isStale_iff.mp hstale⟩
  · intro hjudged
    refine hash_of_judged hb hhash hnewline hreturn (fun built hbuilt => ?_) hexits ?_
    · rw [← hsession]
      exact Session.isNode_of_parse hbuilt
    · rcases hjudged with hpass | ⟨v, hverdict⟩ | ⟨m, hmismatch⟩
      · rw [hpass]
        trivial
      · rw [hverdict]
        trivial
      · rw [hmismatch]
        trivial

/-- Under another hash the golden file is overwritten; under that of the source it is left alone and
the case passes. -/
theorem golden_authority_sampleCase :
    let stale := "00000000000000000000000000000000"
    let hash := "d41d8cd98f00b204e9800998ecf8427e"
    let run := fun hash => perform (.new .regenerate) (new sampleCase)
      (.new Grammar.recognizer .standard) (sampleDisk hash)
    sampleCase.IsLoaded ∧ '\n' ∉ sampleCase.fileName.toList ∧ '\r' ∉ sampleCase.fileName.toList ∧
      (run stale).fs.read sampleCase.files.golden ≠ .ok (sampleGolden stale).toUTF8 ∧
      (∃ header, Header.ofBytes (sampleGolden stale).toUTF8 = .ok header ∧
        ∃ h ∈ header, h.hash ≠ sampleCase.hash) ∧
      (run hash).result = .ok .pass ∧
      ∃ text, (sampleDisk hash).readText sampleCase.files.golden = .ok text ∧
        ∀ h ∈ Header.ofText? text, h.hash = sampleCase.hash := by
  intro stale hash run
  have hread :
      (sampleDisk stale).read sampleCase.files.golden = .ok (sampleGolden stale).toUTF8 := by
    decide +kernel
  have hchange : (run stale).fs.read sampleCase.files.golden ≠ .ok (sampleGolden stale).toUTF8 := by
    decide +kernel
  have hpass : (run hash).result = .ok .pass := by decide +kernel
  obtain ⟨hchanged, -⟩ := golden_authority (.new .regenerate)
    (.new Grammar.recognizer .standard) rfl (sampleDisk stale) sampleCase sampleCase_isLoaded
    (by decide) (by decide)
  obtain ⟨-, hjudged⟩ := golden_authority (.new .regenerate)
    (.new Grammar.recognizer .standard) rfl (sampleDisk hash) sampleCase sampleCase_isLoaded
    (by decide) (by decide)
  obtain ⟨header, hheader, -, hallowed⟩ := hchanged _ hread hchange
  exact ⟨sampleCase_isLoaded, by decide, by decide, hchange,
    ⟨header, hheader, hallowed.resolve_left (by decide)⟩, hpass, hjudged (.inl hpass)⟩

end GoldenTree.CaseRun
