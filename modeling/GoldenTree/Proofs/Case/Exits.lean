import GoldenTree.Proofs.Case.Loaded
import GoldenTree.Proofs.Case.Rendering
import GoldenTree.Proofs.Golden.Reconcile
import GoldenTree.Proofs.Recognition.Contents

/-! All exits of a case, as one relation between the file system before and after a run. What was
parsed is the only thing that a run takes from its session. -/
namespace GoldenTree

open Disk FileSystem Golden Recognition Reconciler

namespace Recognition.Session

/-- Every node below the root of a parsed tree is one of the recognizer. -/
theorem isNode_of_parse {s : Session} {source : String} {built : BuiltTree}
    (h : (s.parse source).1 = .ok built) :
    ∀ u ∈ ParseTree.forestSubtrees built.tree.children, ParseTree.IsNode s.recognizer u := by
  rw [parse_fst] at h
  obtain ⟨tree, htree⟩ := ParseTree.exists_ofRoot_of_build h
  exact ParseTree.isNode_of_ofRoot htree

end Recognition.Session

namespace CaseRun

variable {config : Config} {c : Case} {parsed : Except BuildError BuiltTree} {session : Session}
  {fs fs' : FileSystem} {result : Except RunError Outcome} {header : Option Header}
  {built : BuiltTree}

/-- A case that is neither skipped nor stuck before its tree is reconciled. -/
structure Prepared (config : Config) (c : Case) (parsed : Except BuildError BuiltTree)
    (fs : FileSystem) (header : Option Header) (built : BuiltTree) : Prop where
  read : readHeader fs c.files.golden = .ok header
  goesOn : endedBy config.policy c.hash header = none
  parsed : parsed = .ok built

/-- How a case reconciles its tree. -/
abbrev Reconciled (config : Config) (c : Case) (header : Option Header) (built : BuiltTree)
    (fs : FileSystem) : Except ReconcileError Agreement → FileSystem → Prop :=
  Reconciles { Reconciler.standard with dumpsActual := config.dumpsActual } fs c.files.golden
    (rendering c (header.bind Header.marker) built.tree)
    (config.force || header.any (·.isStale c.hash))

/-- Whether the errors of a case are as they should be. -/
def holds (c : Case) (header : Option Header) (built : BuiltTree) : Bool :=
  verdict built.hasErrors (header.bind Header.marker) (referenceErrors c.kind)

/-- What is said about errors that are not. -/
def contradiction (c : Case) (header : Option Header) (built : BuiltTree) : VerdictMismatch :=
  ⟨header.bind Header.marker, built.lexerErrors.length, built.parserErrors.length,
    (referenceErrors c.kind).map List.length⟩

/-- The exits of a case that was not finished before. -/
inductive Exits (config : Config) (c : Case) (parsed : Except BuildError BuiltTree)
    (fs : FileSystem) : Except RunError Outcome → FileSystem → Prop
  | unread {cause : IoError} : readHeader fs c.files.golden = .error cause →
      Exits config c parsed fs (.error (.io c.files.golden cause)) fs
  | skipped {header : Option Header} {reason : SkipReason} :
      readHeader fs c.files.golden = .ok header →
      endedBy config.policy c.hash header = some reason →
      Exits config c parsed fs (.ok (.skipped reason)) fs
  | unbuilt {header : Option Header} {e : BuildError} :
      readHeader fs c.files.golden = .ok header →
      endedBy config.policy c.hash header = none → parsed = .error e →
      Exits config c parsed fs (.error (.build e)) fs
  | created {header : Option Header} {built : BuiltTree} {fs' : FileSystem} :
      Prepared config c parsed fs header built →
      Reconciled config c header built fs (.ok .created) fs' →
      Exits config c parsed fs (.ok (.skipped .goldenCreated)) fs'
  | regenerated {header : Option Header} {built : BuiltTree} {fs' : FileSystem} :
      Prepared config c parsed fs header built →
      Reconciled config c header built fs (.ok .regenerated) fs' →
      Exits config c parsed fs (.ok (.skipped (.goldenRegenerated config.force))) fs'
  | mismatched {header : Option Header} {built : BuiltTree} {m : Mismatch} {fs' : FileSystem} :
      Prepared config c parsed fs header built →
      Reconciled config c header built fs (.error (.mismatch m)) fs' →
      Exits config c parsed fs (.ok (.fail (.goldenMismatch m))) fs'
  | unreconciled {header : Option Header} {built : BuiltTree} {path : Path} {cause : IoError}
      {fs' : FileSystem} : Prepared config c parsed fs header built →
      Reconciled config c header built fs (.error (.io path cause)) fs' →
      Exits config c parsed fs (.error (.io path cause)) fs'
  | passed {header : Option Header} {built : BuiltTree} :
      Prepared config c parsed fs header built →
      Reconciled config c header built fs (.ok .matched) fs → holds c header built = true →
      Exits config c parsed fs (.ok .pass) fs
  | refuted {header : Option Header} {built : BuiltTree} {fs' : FileSystem} :
      Prepared config c parsed fs header built →
      Reconciled config c header built fs (.ok .matched) fs → holds c header built = false →
      fs.touch c.files.failed = .ok fs' →
      Exits config c parsed fs (.ok (.fail (.verdict (contradiction c header built)))) fs'
  | unmarked {header : Option Header} {built : BuiltTree} {cause : IoError} :
      Prepared config c parsed fs header built →
      Reconciled config c header built fs (.ok .matched) fs → holds c header built = false →
      fs.touch c.files.failed = .error cause →
      Exits config c parsed fs (.error (.io c.files.failed cause)) fs

theorem judge_eq (c : Case) (header : Option Header) (built : BuiltTree) (fs : FileSystem) :
    judge c (header.bind Header.marker) built fs =
      if holds c header built then (.ok .pass, fs)
      else match fs.touch c.files.failed with
        | .error cause => (.error (.io c.files.failed cause), fs)
        | .ok fs => (.ok (.fail (.verdict (contradiction c header built))), fs) := rfl

/-- A matching tree leaves the file system as it was. -/
theorem eq_of_matched {r : Reconciler} {golden : Path} {actual : String} {regenerate : Bool}
    (h : Reconciles r fs golden actual regenerate (.ok .matched) fs') : fs' = fs := by
  cases h
  rfl

theorem exits_of_settle {judged : Bool} (hprepared : Prepared config c parsed fs header built)
    (h : settle config c header built fs = (result, judged, fs')) :
    Exits config c parsed fs result fs' := by
  unfold settle at h
  dsimp only at h
  generalize hreconcile : Reconciler.reconcile _ fs c.files.golden _ _ = reconciled at h
  obtain ⟨agreement, mid⟩ := reconciled
  have hreconciled : Reconciled config c header built fs agreement mid :=
    reconcile_iff.mp hreconcile
  dsimp only at h
  split at h
  · obtain rfl := eq_of_matched hreconciled
    rw [judge_eq] at h
    by_cases hholds : holds c header built = true
    · rw [if_pos hholds] at h
      obtain ⟨rfl, -, rfl⟩ := by simpa using h
      exact .passed hprepared hreconciled hholds
    · rw [if_neg hholds] at h
      have hfails := Bool.eq_false_iff.mpr hholds
      cases htouch : mid.touch c.files.failed with
      | error cause =>
        simp only [htouch, Prod.mk.injEq] at h
        obtain ⟨rfl, -, rfl⟩ := h
        exact .unmarked hprepared hreconciled hfails htouch
      | ok fs'' =>
        simp only [htouch, Prod.mk.injEq] at h
        obtain ⟨rfl, -, rfl⟩ := h
        exact .refuted hprepared hreconciled hfails htouch
  · obtain ⟨rfl, -, rfl⟩ := by simpa using h
    exact .created hprepared hreconciled
  · obtain ⟨rfl, -, rfl⟩ := by simpa using h
    exact .regenerated hprepared hreconciled
  · obtain ⟨rfl, -, rfl⟩ := by simpa using h
    exact .mismatched hprepared hreconciled
  · obtain ⟨rfl, -, rfl⟩ := by simpa using h
    exact .unreconciled hprepared hreconciled

/-- How a case ends once its tree was reconciled. -/
def conclude (config : Config) (c : Case) (header : Option Header) (built : BuiltTree)
    (fs : FileSystem) :
    Except ReconcileError Agreement → Except RunError Outcome × Bool × FileSystem
  | .ok .matched =>
    ((judge c (header.bind Header.marker) built fs).1, true,
      (judge c (header.bind Header.marker) built fs).2)
  | .ok .created => (.ok (.skipped .goldenCreated), false, fs)
  | .ok .regenerated => (.ok (.skipped (.goldenRegenerated config.force)), false, fs)
  | .error (.mismatch m) => (.ok (.fail (.goldenMismatch m)), false, fs)
  | .error (.io path cause) => (.error (.io path cause), false, fs)

theorem settle_eq {agreement : Except ReconcileError Agreement}
    (h : Reconciled config c header built fs agreement fs') :
    settle config c header built fs = conclude config c header built fs' agreement := by
  unfold settle
  dsimp only
  rw [reconcile_iff.mpr h]
  rfl

/-- A run of a case that was not finished before. -/
def run (config : Config) (c : Case) (session : Session) (fs : FileSystem) : Ran :=
  perform config (new c) session fs

theorem exits_of_run (config : Config) (c : Case) (session : Session) (fs : FileSystem) :
    Exits config c (session.parse c.source).1 fs (run config c session fs).result
      (run config c session fs).fs := by
  simp only [run, perform, new, execute]
  cases hread : readHeader fs c.files.golden with
  | error cause => exact .unread hread
  | ok header =>
    dsimp only
    cases hended : endedBy config.policy c.hash header with
    | some reason => exact .skipped hread hended
    | none =>
      dsimp only
      cases hparse : session.parse c.source with
      | mk parsed session' =>
        cases parsed with
        | error e => exact .unbuilt hread hended rfl
        | ok built => exact exits_of_settle ⟨hread, hended, rfl⟩ rfl

theorem run_of_reconciled {agreement : Except ReconcileError Agreement}
    (hprepared : Prepared config c (session.parse c.source).1 fs header built)
    (hreconciled : Reconciled config c header built fs agreement fs') :
    (run config c session fs).result = (conclude config c header built fs' agreement).1 ∧
      (run config c session fs).fs = (conclude config c header built fs' agreement).2.2 := by
  obtain ⟨hread, hgoes, hparsed⟩ := hprepared
  simp only [run, perform, new, execute, hread, hgoes]
  cases hparse : session.parse c.source with
  | mk parsed session' =>
    rw [hparse] at hparsed
    dsimp only at hparsed
    subst hparsed
    rw [← settle_eq hreconciled]
    exact ⟨rfl, rfl⟩

theorem run_of_exits (h : Exits config c (session.parse c.source).1 fs result fs') :
    (run config c session fs).result = result ∧ (run config c session fs).fs = fs' := by
  cases h with
  | unread hread => simp [run, perform, new, execute, hread]
  | skipped hread hended => simp [run, perform, new, execute, hread, hended]
  | unbuilt hread hended hparsed =>
    simp only [run, perform, new, execute, hread, hended]
    cases hparse : session.parse c.source with
    | mk parsed session' =>
      rw [hparse] at hparsed
      dsimp only at hparsed
      subst hparsed
      exact ⟨rfl, rfl⟩
  | created hprepared hreconciled => exact run_of_reconciled hprepared hreconciled
  | regenerated hprepared hreconciled => exact run_of_reconciled hprepared hreconciled
  | mismatched hprepared hreconciled => exact run_of_reconciled hprepared hreconciled
  | unreconciled hprepared hreconciled => exact run_of_reconciled hprepared hreconciled
  | passed hprepared hreconciled hholds =>
    have hrun := run_of_reconciled hprepared hreconciled
    simpa [conclude, judge_eq, hholds] using hrun
  | refuted hprepared hreconciled hfails htouch =>
    have hrun := run_of_reconciled hprepared hreconciled
    simpa [conclude, judge_eq, hfails, htouch] using hrun
  | unmarked hprepared hreconciled hfails htouch =>
    have hrun := run_of_reconciled hprepared hreconciled
    simpa [conclude, judge_eq, hfails, htouch] using hrun

theorem exits_iff : Exits config c (session.parse c.source).1 fs result fs' ↔
    (run config c session fs).result = result ∧ (run config c session fs).fs = fs' := by
  constructor
  · exact run_of_exits
  · rintro ⟨rfl, rfl⟩
    exact exits_of_run config c session fs

/-- The session is used for one parse at most. -/
theorem session_run (config : Config) (c : Case) (session : Session) (fs : FileSystem) :
    (run config c session fs).session = session ∨
      (run config c session fs).session = (session.parse c.source).2 := by
  simp only [run, perform, new, execute]
  cases readHeader fs c.files.golden with
  | error cause => exact .inl rfl
  | ok header =>
    dsimp only
    cases endedBy config.policy c.hash header with
    | some reason => exact .inl rfl
    | none =>
      right
      dsimp only
      cases hparse : session.parse c.source with
      | mk parsed session' => cases parsed <;> rfl

theorem alike_run (config : Config) (c : Case) (session : Session) (fs : FileSystem) :
    session.Alike (run config c session fs).session := by
  rcases session_run config c session fs with hsame | hparsed
  · rw [hsame]
    exact .refl session
  · rw [hparsed]
    exact session.alike_parse c.source

/-- A run leaves the session such that it parses as before. -/
theorem parse_session_run (config : Config) (c : Case) (session : Session) (fs : FileSystem)
    (source : String) :
    ((run config c session fs).session.parse source).1 = (session.parse source).1 :=
  (alike_run config c session fs).parse_fst source

/-- Of its session, a run takes what it parses with. -/
theorem run_alike {session' : Session} (h : session.Alike session') (config : Config) (c : Case)
    (fs : FileSystem) :
    (run config c session' fs).result = (run config c session fs).result ∧
      (run config c session' fs).fs = (run config c session fs).fs := by
  have hexits := exits_of_run config c session fs
  rw [← h.parse_fst] at hexits
  exact run_of_exits hexits

end CaseRun

end GoldenTree
