import GoldenTree.Proofs.Case.Exits
import GoldenTree.Proofs.Golden.Again

/-! Running a case again. A run that does not write the golden file ends where another run starts
and ends too; one that writes it is followed by a run that finds it as it should be. -/
namespace GoldenTree.CaseRun

open Disk FileSystem Golden Recognition Reconciler

variable {config : Config} {c : Case} {parsed : Except BuildError BuiltTree} {session : Session}
  {fs fs' : FileSystem} {result : Except RunError Outcome} {header : Option Header}
  {built : BuiltTree} {folder g d f : List Char} {p : Path} {bytes : ByteArray} {text : String}

/-- Whether a case ended by writing its golden file. -/
def WritesGolden : Except RunError Outcome → Prop
  | .ok (.skipped .goldenCreated) => True
  | .ok (.skipped (.goldenRegenerated _)) => True
  | _ => False

/-! Reading the golden file. -/

theorem readHeader_of_read (h : fs.read p = .ok bytes) :
    readHeader fs p = Header.ofBytes bytes := by
  obtain ⟨place, hfind⟩ := read_eq_ok_iff.mp h
  rw [readHeader, if_pos (pathExists_iff.mpr ⟨place, _, hfind⟩), Header.read, h]
  rfl

theorem readHeader_of_missing (h : fs.pathExists p = false) : readHeader fs p = .ok none := by
  rw [readHeader, h]
  rfl

theorem readHeader_of_readText (h : fs.readText p = .ok text) :
    readHeader fs p = .ok (Header.ofText? text) := by
  obtain ⟨bytes, hread, hutf8⟩ := readText_eq_ok_iff.mp h
  rw [readHeader_of_read hread, Header.ofBytes, hutf8]

/-- A golden file that reads the same leads to the same reconciliation. -/
theorem Prepared.again (h : Prepared config c parsed fs header built)
    (hkeeps : Keeps fs fs' c.files.golden) (hread : fs.readText c.files.golden = .ok text) :
    Prepared config c parsed fs' header built := by
  obtain ⟨bytes, hbytes, -⟩ := readText_eq_ok_iff.mp hread
  refine ⟨?_, h.goesOn, h.parsed⟩
  rw [readHeader_of_read ((hkeeps bytes).mpr hbytes), ← readHeader_of_read hbytes, h.read]

theorem endedBy_eq_none_iff {policy : StalePolicy} {hash : String} :
    endedBy policy hash header = none ↔
      ∀ h ∈ header, ¬(policy = .skip ∧ h.isStale hash = true) ∧ h.marker ≠ some .mute := by
  cases header with
  | none => simp [endedBy]
  | some h =>
    simp only [endedBy, Option.bind_some, Option.mem_def, Option.some.injEq, forall_eq']
    by_cases hstale : policy = .skip ∧ h.isStale hash = true
    · simp [hstale]
    · rw [if_neg hstale]
      by_cases hmute : h.marker = some .mute
      · simp [hmute]
      · rw [if_neg hmute]
        exact ⟨fun _ => ⟨hstale, hmute⟩, fun _ => rfl⟩

theorem not_writesGolden_of_endedBy {policy : StalePolicy} {hash : String} {reason : SkipReason}
    (h : endedBy policy hash header = some reason) : ¬WritesGolden (.ok (.skipped reason)) := by
  cases header with
  | none => cases h
  | some header =>
    simp only [endedBy, Option.bind_some] at h
    split at h
    · obtain rfl := Option.some.inj h
      exact id
    · split at h
      · obtain rfl := Option.some.inj h
        exact id
      · cases h

/-- The sentinel of a failed verdict changes nothing for the next run. -/
theorem exits_refuted_again (hb : c.files.Beside folder g d f)
    (hprepared : Prepared config c parsed fs header built)
    (hreconciled : Reconciled config c header built fs (.ok .matched) fs)
    (hfails : holds c header built = false) (htouch : fs.touch c.files.failed = .ok fs') :
    Exits config c parsed fs' (.ok (.fail (.verdict (contradiction c header built)))) fs' := by
  have hkeeps : Keeps fs fs' c.files.golden :=
    keeps_touch_of_names hb.golden hb.failed hb.golden_ne_failed htouch
  cases hreconciled with
  | matched hread hequal =>
    exact .refuted (hprepared.again hkeeps hread) (.matched (hkeeps.readText hread) hequal)
      hfails (touch_again hb.failed htouch)

/-- Where room for the golden file cannot be made or the file not be written, the next run fails
too: it tries the same again, or finds a directory in place of the golden file. -/
theorem exits_uncreated_again (hb : c.files.Beside folder g d f) {e : ReconcileError}
    (hprepared : Prepared config c parsed fs header built)
    (hmissing : fs.pathExists c.files.golden = false)
    (hinstall : Installs fs c.files.golden
      (normalize (rendering c (header.bind Header.marker) built.tree)) (.error e) fs') :
    ∃ path cause, Exits config c parsed fs' (.error (.io path cause)) fs' := by
  obtain ⟨hread, hgoes, hparsed⟩ := hprepared
  obtain rfl : header = none :=
    Except.ok.inj (hread.symm.trans (readHeader_of_missing hmissing))
  cases hinstall with
  | noRoom hroom =>
    obtain ⟨made, hagain, hfails⟩ := makeRoom_again hroom
    have hlost : fs'.pathExists c.files.golden = false := by
      refine Bool.eq_false_iff.mpr fun hexists => ?_
      obtain ⟨place, entry, hfind⟩ := pathExists_iff.mp hexists
      rw [makeRoom_of_names hb.golden hb.golden (find_eq_ok_iff.mp hfind).1] at hagain
      obtain rfl := (Prod.mk.inj hagain).1
      cases hfails
    cases made with
    | ok _ => cases hfails
    | error cause =>
      exact ⟨_, cause, .unreconciled ⟨readHeader_of_missing hlost, hgoes, hparsed⟩
        (.uncreated hlost (.noRoom hagain))⟩
  | unwritten hroom hwrite =>
    cases hexists : fs'.pathExists c.files.golden with
    | false =>
      obtain ⟨made, hagain, hworks⟩ := makeRoom_again hroom
      cases made with
      | error cause => cases hworks
      | ok _ =>
        exact ⟨_, _, .unreconciled ⟨readHeader_of_missing hexists, hgoes, hparsed⟩
          (.uncreated hexists (.unwritten hagain hwrite))⟩
    | true =>
      obtain ⟨place, entry, hfind⟩ := pathExists_iff.mp hexists
      cases entry with
      | directory =>
        refine ⟨_, .isDirectory, .unread ?_⟩
        rw [readHeader, if_pos hexists, Header.read, FileSystem.read, hfind]
        rfl
      | file bytes =>
        obtain ⟨hplace, hentry⟩ := find_eq_ok_iff.mp hfind
        have hfree : fs'.get? place ≠ some .directory := by simp [hentry]
        rw [FileSystem.writeText, (write_names_iff hb.golden).mpr ⟨place, hplace, hfree, rfl⟩]
          at hwrite
        cases hwrite

/-- A mismatch is found again. -/
theorem exits_mismatched_again (hb : c.files.Beside folder g d f) {m : Mismatch}
    (hprepared : Prepared config c parsed fs header built)
    (hreconciled : Reconciled config c header built fs (.error (.mismatch m)) fs') :
    Exits config c parsed fs' (.ok (.fail (.goldenMismatch m))) fs' := by
  obtain ⟨text, hread⟩ := hreconciled.exists_text_of_mismatch
  obtain ⟨hkeeps, hagain⟩ := hreconciled.mismatch_again hb.golden hb.dump hb.golden_ne_dump
  exact .mismatched (hprepared.again hkeeps hread) hagain

/-- Reconciling that fails halfway fails again. -/
theorem exits_unreconciled_again (hb : c.files.Beside folder g d f) {path : Path} {cause : IoError}
    (hprepared : Prepared config c parsed fs header built)
    (hreconciled : Reconciled config c header built fs (.error (.io path cause)) fs') :
    ∃ path cause, Exits config c parsed fs' (.error (.io path cause)) fs' := by
  cases hreconciled with
  | unread hexists hread => exact ⟨_, _, .unreconciled hprepared (.unread hexists hread)⟩
  | uncreated hmissing hinstall => exact exits_uncreated_again hb hprepared hmissing hinstall
  | unregenerated hread hdiffers hforce hinstall =>
    obtain ⟨place, hplace⟩ := locate_of_readText hread
    rcases installs_of_names hb.golden hb.golden hplace hinstall with ⟨_, -, -, rfl⟩ | ⟨-, hdone⟩
    · exact ⟨_, _, .unreconciled hprepared (.unregenerated hread hdiffers hforce hinstall)⟩
    · cases hdone
  | undumped hread hdiffers hkeep hdumps hinstall =>
    obtain ⟨place, hplace⟩ := locate_of_readText hread
    rcases installs_of_names hb.dump hb.golden hplace hinstall with ⟨_, -, -, rfl⟩ | ⟨-, hdone⟩
    · exact ⟨_, _, .unreconciled hprepared (.undumped hread hdiffers hkeep hdumps hinstall)⟩
    · cases hdone

/-- A run that does not write the golden file can be had again where it ended. -/
theorem exits_again (hb : c.files.Beside folder g d f) (h : Exits config c parsed fs result fs')
    (hkeeps : ¬WritesGolden result) :
    ∃ result', Exits config c parsed fs' result' fs' ∧ ¬WritesGolden result' := by
  cases h with
  | unread hread => exact ⟨_, .unread hread, hkeeps⟩
  | skipped hread hended => exact ⟨_, .skipped hread hended, hkeeps⟩
  | unbuilt hread hgoes hparsed => exact ⟨_, .unbuilt hread hgoes hparsed, hkeeps⟩
  | created _ _ => exact absurd trivial hkeeps
  | regenerated _ _ => exact absurd trivial hkeeps
  | passed hprepared hreconciled hholds => exact ⟨_, .passed hprepared hreconciled hholds, hkeeps⟩
  | unmarked hprepared hreconciled hfails htouch =>
    exact ⟨_, .unmarked hprepared hreconciled hfails htouch, hkeeps⟩
  | refuted hprepared hreconciled hfails htouch =>
    exact ⟨_, exits_refuted_again hb hprepared hreconciled hfails htouch, hkeeps⟩
  | mismatched hprepared hreconciled =>
    exact ⟨_, exits_mismatched_again hb hprepared hreconciled, id⟩
  | unreconciled hprepared hreconciled =>
    obtain ⟨path, cause, hagain⟩ := exits_unreconciled_again hb hprepared hreconciled
    exact ⟨_, hagain, id⟩

/-- The outcomes that are left once the tree agrees with the golden file. -/
inductive ReachesVerdict (c : Case) : Except RunError Outcome → Prop
  | passed : ReachesVerdict c (.ok .pass)
  | refuted (v : VerdictMismatch) : ReachesVerdict c (.ok (.fail (.verdict v)))
  | unmarked (cause : IoError) : ReachesVerdict c (.error (.io c.files.failed cause))

theorem ReachesVerdict.not_writesGolden (h : ReachesVerdict c result) : ¬WritesGolden result := by
  cases h <;> exact id

/-- Where the tree agrees with the golden file, there is a verdict, and the same each time. -/
theorem exits_of_matched (hb : c.files.Beside folder g d f)
    (hprepared : Prepared config c parsed fs header built)
    (hreconciled : Reconciled config c header built fs (.ok .matched) fs) :
    ∃ result fs', Exits config c parsed fs result fs' ∧ ReachesVerdict c result ∧
      Exits config c parsed fs' result fs' := by
  cases hholds : holds c header built with
  | true =>
    exact ⟨_, fs, .passed hprepared hreconciled hholds, .passed,
      .passed hprepared hreconciled hholds⟩
  | false =>
    cases htouch : fs.touch c.files.failed with
    | error cause =>
      exact ⟨_, fs, .unmarked hprepared hreconciled hholds htouch, .unmarked cause,
        .unmarked hprepared hreconciled hholds htouch⟩
    | ok fs' =>
      exact ⟨_, fs', .refuted hprepared hreconciled hholds htouch, .refuted _,
        exits_refuted_again hb hprepared hreconciled hholds htouch⟩

/-- The golden file holds the rendering of the case, with a marker under which it is written. -/
structure Current (c : Case) (marker : Option Marker) (built : BuiltTree) (fs : FileSystem) :
    Prop where
  read : fs.read c.files.golden = .ok (normalize (rendering c marker built.tree)).toUTF8
  goesOn : marker ≠ some .mute

/-- Where the golden file was written, it is written by a run that then finds it current. -/
theorem current_of_writesGolden (h : Exits config c parsed fs result fs')
    (hwrites : WritesGolden result) :
    ∃ marker built, parsed = .ok built ∧ Current c marker built fs' := by
  have hgoes : ∀ {header : Option Header},
      endedBy config.policy c.hash header = none → header.bind Header.marker ≠ some .mute := by
    intro header hended hmute
    obtain ⟨h, hheader, hmarker⟩ := Option.bind_eq_some_iff.mp hmute
    exact (endedBy_eq_none_iff.mp hended h hheader).2 hmarker
  cases h with
  | created hprepared hreconciled =>
    cases hreconciled with
    | created _ hinstall =>
      exact ⟨_, _, hprepared.parsed, hinstall.read rfl, hgoes hprepared.goesOn⟩
  | regenerated hprepared hreconciled =>
    cases hreconciled with
    | regenerated _ _ _ hinstall =>
      exact ⟨_, _, hprepared.parsed, hinstall.read rfl, hgoes hprepared.goesOn⟩
  | skipped hread hended => exact absurd hwrites (not_writesGolden_of_endedBy hended)
  | _ => cases hwrites

/-- What holds of the case that is run again. -/
structure Renders (c : Case) : Prop where
  hash : Header.isHash c.hash.toList = true
  name : Header.namesSource c.fileName.toList = true
  newline : '\n' ∉ c.fileName.toList
  noReturn : '\r' ∉ c.fileName.toList

/-- A current golden file is compared and found equal, and the verdict is the same each time. -/
theorem exits_of_current (hb : c.files.Beside folder g d f) (hc : Renders c)
    {marker : Option Marker} (h : Current c marker built fs) :
    ∃ result fs', Exits config c (.ok built) fs result fs' ∧ ¬WritesGolden result ∧
      Exits config c (.ok built) fs' result fs' := by
  have hwritten : Header.written marker = marker := by
    rcases marker with _ | _ | _ | _
    · rfl
    · exact absurd rfl h.goesOn
    · rfl
    · rfl
  have hheader : readHeader fs c.files.golden = .ok (some ⟨c.hash, marker⟩) := by
    rw [readHeader_of_read h.read, Header.ofBytes_toUTF8,
      ofText?_rendering hc.hash hc.newline hc.noReturn hc.name, hwritten]
  have hprepared : Prepared config c (.ok built) fs (some ⟨c.hash, marker⟩) built := by
    refine ⟨hheader, endedBy_eq_none_iff.mpr fun header hmem => ?_, rfl⟩
    obtain rfl := Option.some.inj hmem
    exact ⟨by simp [Header.isStale], h.goesOn⟩
  have hreconciled : Reconciled config c (some ⟨c.hash, marker⟩) built fs (.ok .matched) fs :=
    .matched_of_read h.read
  obtain ⟨result, fs', hexits, hreaches, hagain⟩ := exits_of_matched hb hprepared hreconciled
  exact ⟨result, fs', hexits, hreaches.not_writesGolden, hagain⟩

/-- Run three times, a case settles after the first run: the golden file is not written again, and
the third run ends as the second did. -/
theorem run_settles (config : Config) (session : Session) (fs : FileSystem) (c : Case)
    (hc : c.IsLoaded) (stem : String)
    (hname : c.fileName = stem ++ ".kt" ∨ c.fileName = stem ++ ".kts")
    (hnewline : '\n' ∉ c.fileName.toList) (hreturn : '\r' ∉ c.fileName.toList) :
    let first := perform config (new c) session fs
    let second := perform config (new c) first.session first.fs
    let third := perform config (new c) second.session second.fs
    second.result ≠ .ok (.skipped .goldenCreated) ∧
      (∀ forced, second.result ≠ .ok (.skipped (.goldenRegenerated forced))) ∧
      third.result = second.result ∧ third.fs = second.fs := by
  intro first second third
  obtain ⟨folder, g, d, f, hb⟩ := CaseFiles.beside_of_ofSource? hc.files
  have hrenders : Renders c :=
    ⟨hc.hash ▸ isHash_sourceHash _, Header.namesSource_of_extension hname hnewline, hnewline,
      hreturn⟩
  have hfirst : Exits config c (session.parse c.source).1 fs first.result first.fs :=
    exits_of_run config c session fs
  have hsettled : ∃ result fs', Exits config c (session.parse c.source).1 first.fs result fs' ∧
      ¬WritesGolden result ∧ Exits config c (session.parse c.source).1 fs' result fs' := by
    by_cases hwrites : WritesGolden first.result
    · obtain ⟨marker, built, hparsed, hcurrent⟩ := current_of_writesGolden hfirst hwrites
      rw [hparsed]
      exact exits_of_current hb hrenders hcurrent
    · obtain ⟨result, hagain, hkeeps⟩ := exits_again hb hfirst hwrites
      exact ⟨result, first.fs, hagain, hkeeps, hagain⟩
  obtain ⟨result, fs', hsecond, hkeeps, hthird⟩ := hsettled
  have hparsed : (first.session.parse c.source).1 = (session.parse c.source).1 :=
    parse_session_run config c session fs c.source
  have hparsed' : (second.session.parse c.source).1 = (session.parse c.source).1 :=
    (parse_session_run config c first.session first.fs c.source).trans hparsed
  obtain ⟨hresult, hfs⟩ : second.result = result ∧ second.fs = fs' :=
    run_of_exits (hparsed ▸ hsecond)
  obtain ⟨hresult', hfs'⟩ : third.result = result ∧ third.fs = second.fs := by
    have hexits : Exits config c (second.session.parse c.source).1 second.fs result fs' := by
      rw [hparsed', hfs]
      exact hthird
    rw [hfs]
    exact run_of_exits hexits
  refine ⟨?_, ?_, hresult'.trans hresult.symm, hfs'⟩
  · rintro hcreated
    rw [← hresult, hcreated] at hkeeps
    exact hkeeps trivial
  · rintro forced hregenerated
    rw [← hresult, hregenerated] at hkeeps
    exact hkeeps trivial

/-- With nothing beside the source, the first run creates the golden file. -/
theorem run_settles_sampleCase :
    let first := perform (.new .skip) (new sampleCase) (.new Grammar.recognizer .standard) .empty
    let second := perform (.new .skip) (new sampleCase) first.session first.fs
    let third := perform (.new .skip) (new sampleCase) second.session second.fs
    sampleCase.IsLoaded ∧ sampleCase.fileName = "a" ++ ".kt" ∧ '\n' ∉ sampleCase.fileName.toList ∧
      '\r' ∉ sampleCase.fileName.toList ∧ first.result = .ok (.skipped .goldenCreated) ∧
      second.result ≠ .ok (.skipped .goldenCreated) ∧ third.result = second.result ∧
      third.fs = second.fs := by
  intro first second third
  obtain ⟨hcreated, -, hresult, hfs⟩ := run_settles (.new .skip) (.new Grammar.recognizer .standard)
    .empty sampleCase sampleCase_isLoaded "a" (.inl rfl) (by decide) (by decide)
  exact ⟨sampleCase_isLoaded, rfl, by decide, by decide, by decide +kernel, hcreated, hresult, hfs⟩

end GoldenTree.CaseRun
