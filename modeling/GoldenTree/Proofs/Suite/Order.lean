import GoldenTree.Proofs.Case.Frame
import GoldenTree.Suite
import Mathlib.Data.List.Basic

/-! The order of cases. Cases that have no file in common see each other neither on the disk nor
through the session that they share, so each comes to what it comes to alone, in whatever order
they run. -/
namespace GoldenTree

open Disk FileSystem Recognition

namespace Suite

variable {s : Suite} {session session' : Session} {base : FileSystem} {relative : Path}

/-- What a case comes to once it was loaded, and what it makes of the files. -/
def settledFrom (s : Suite) (session : Session) (loaded : Except FixtureError Case)
    (fs : FileSystem) : Except RunError Outcome × FileSystem :=
  match loaded with
  | .error e => (.error (.fixture e), fs)
  | .ok c => ((CaseRun.run s.config c session fs).result, (CaseRun.run s.config c session fs).fs)

/-- What a case comes to, and what it makes of the files. -/
def settled (s : Suite) (session : Session) (relative : Path) (fs : FileSystem) :
    Except RunError Outcome × FileSystem :=
  s.settledFrom session (s.fixtures.load fs relative) fs

theorem settled_alike (h : session.Alike session') (fs : FileSystem) :
    s.settled session' relative fs = s.settled session relative fs := by
  unfold settled
  cases s.fixtures.load fs relative with
  | error e => rfl
  | ok c =>
    obtain ⟨hresult, hfs⟩ := CaseRun.run_alike h s.config c fs
    simp only [settledFrom, hresult, hfs]

theorem confined_settled (s : Suite) (session : Session) (base : FileSystem) (relative : Path) :
    Confined base {place | place ∈ s.fixtures.placesOf base relative}
      (s.settled session relative) := by
  have hloaded : ∀ fs, Agree ∅ base fs →
      Confined base {place | place ∈ s.fixtures.placesOf base relative}
        (s.settledFrom session (s.fixtures.load fs relative)) := by
    intro fs hbase
    cases hload : s.fixtures.load fs relative with
    | error e => exact confined_pure _
    | ok c => exact CaseRun.confined_run (Fixtures.own_of_load hbase hload) s.config session
  have hsettled := Confined.after (s.fixtures.sees_load base relative) hloaded
  exact hsettled

/-- How a case is listed in a summary. -/
def listed (relative : Path) : Except RunError Outcome → String × SuiteOutcome
  | .ok outcome => (caseId relative, .finished outcome)
  | .error e => (caseId relative, .errored e)

theorem runLoaded_eq (s : Suite) (c : Case) (state : SuiteState) :
    (s.runLoaded c state).1 = (CaseRun.run s.config c state.session state.fs).result ∧
      (s.runLoaded c state).2.fs = (CaseRun.run s.config c state.session state.fs).fs ∧
      state.session.Alike (s.runLoaded c state).2.session := by
  have halike := CaseRun.alike_run s.config c state.session state.fs
  unfold CaseRun.run at halike ⊢
  unfold runLoaded
  generalize (CaseRun.new c).perform s.config state.session state.fs = ran at halike ⊢
  obtain ⟨result, run, session, fs⟩ := ran
  cases result with
  | error e => exact ⟨rfl, rfl, halike⟩
  | ok outcome => exact ⟨rfl, rfl, halike⟩

/-- Beside the report, an entry is its case settled. -/
theorem runEntry_eq (s : Suite) (relative : Path) (state : SuiteState) :
    (s.runEntry relative state).1 =
        listed relative (s.settled state.session relative state.fs).1 ∧
      (s.runEntry relative state).2.fs = (s.settled state.session relative state.fs).2 ∧
      state.session.Alike (s.runEntry relative state).2.session := by
  unfold runEntry runCase settled
  cases s.fixtures.load state.fs relative with
  | error e => exact ⟨rfl, rfl, rfl, rfl⟩
  | ok c =>
    obtain ⟨hresult, hfs, halike⟩ := s.runLoaded_eq c state
    dsimp only [runFixture, settledFrom]
    rw [← hresult, ← hfs]
    generalize s.runLoaded c state = loaded at halike ⊢
    obtain ⟨result, state'⟩ := loaded
    cases result with
    | error e => exact ⟨rfl, rfl, halike⟩
    | ok outcome => exact ⟨rfl, rfl, halike⟩

/-! Groups. -/

/-- The cases have no file in common. -/
def Independent (s : Suite) (base : FileSystem) (order : List Path) : Prop :=
  order.Pairwise fun p q =>
    ∀ place ∈ s.fixtures.placesOf base p, place ∉ s.fixtures.placesOf base q

instance (s : Suite) (base : FileSystem) (order : List Path) :
    Decidable (s.Independent base order) := inferInstanceAs (Decidable (List.Pairwise _ order))

/-- Each case of a group comes to what it comes to alone, as long as the files of the cases are
those of the base when the group begins. -/
theorem runGroup_eq {order : List Path} {state : SuiteState} (hdisjoint : s.Independent base order)
    (hsession : session.Alike state.session) (hbase : Agree ∅ base state.fs)
    (hagree : ∀ p ∈ order, Agree {place | place ∈ s.fixtures.placesOf base p} base state.fs) :
    (s.runGroup order state).1 = order.map (fun p => listed p (s.settled session p base).1) ∧
      (∀ p ∈ order, Agree {place | place ∈ s.fixtures.placesOf base p}
        (s.settled session p base).2 (s.runGroup order state).2.fs) ∧
      Agree {place | ∀ p ∈ order, place ∉ s.fixtures.placesOf base p} state.fs
        (s.runGroup order state).2.fs := by
  induction order generalizing state with
  | nil => exact ⟨rfl, by simp, .refl _ _⟩
  | cons p rest ih =>
    obtain ⟨hfirst, hrest⟩ := List.pairwise_cons.mp hdisjoint
    obtain ⟨hagreefirst, hagreerest⟩ := List.forall_mem_cons.mp hagree
    obtain ⟨hlisted, hfs, halike⟩ := s.runEntry_eq p state
    rw [settled_alike hsession] at hlisted hfs
    have hconfined := s.confined_settled session base p
    obtain ⟨hvalue, hown, -⟩ := hconfined base state.fs (.refl _ _) hagreefirst
    obtain ⟨-, -, hframe⟩ := hconfined state.fs state.fs hbase (.refl _ _)
    rw [← hfs] at hown hframe
    rw [hvalue] at hlisted
    obtain ⟨hresults, hplaces, hothers⟩ := ih hrest (hsession.trans halike)
      (hbase.along hframe) fun q hq => (hagreerest q hq).trans
        (hframe.mono fun place hplace hmem => hfirst q hq place hmem hplace)
    have hgroup : s.runGroup (p :: rest) state =
        ((s.runEntry p state).1 :: (s.runGroup rest (s.runEntry p state).2).1,
          (s.runGroup rest (s.runEntry p state).2).2) := rfl
    have hnone : {place | ∀ q ∈ p :: rest, place ∉ s.fixtures.placesOf base q} ⊆
        {place | place ∈ s.fixtures.placesOf base p}ᶜ :=
      fun place hplace => hplace p (List.mem_cons_self ..)
    rw [hgroup]
    refine ⟨?_, List.forall_mem_cons.mpr ⟨?_, hplaces⟩, ?_⟩
    · rw [hresults, hlisted, List.map_cons]
    · exact hown.trans (hothers.mono fun place hplace q hq hmem => hfirst q hq place hplace hmem)
    · exact (hframe.mono hnone).trans
        (hothers.mono fun place hplace q hq => hplace q (List.mem_cons_of_mem _ hq))

/-- Cases that have no file in common come to the same outcomes in any two orders, each to the
one that it comes to alone, and leave the same file system. -/
theorem runGroup_perm (s : Suite) (state : SuiteState) {order order' : List Path}
    (hperm : order.Perm order') (hdisjoint : s.Independent state.fs order) :
    (s.runGroup order state).1 = order.map (fun p => (s.runEntry p state).1) ∧
      (s.runGroup order' state).1 = order'.map (fun p => (s.runEntry p state).1) ∧
      ∀ place, (s.runGroup order' state).2.fs.get? place =
        (s.runGroup order state).2.fs.get? place := by
  have hdisjoint' : s.Independent state.fs order' :=
    (hperm.pairwise_iff fun h place hq hp => h place hp hq).mp hdisjoint
  obtain ⟨hresults, hplaces, hothers⟩ :=
    s.runGroup_eq hdisjoint (.refl _) (.refl _ _) fun _ _ => .refl _ _
  obtain ⟨hresults', hplaces', hothers'⟩ :=
    s.runGroup_eq hdisjoint' (.refl _) (.refl _ _) fun _ _ => .refl _ _
  have halone : (fun p => (s.runEntry p state).1) =
      fun p => listed p (s.settled state.session p state.fs).1 :=
    funext fun p => (s.runEntry_eq p state).1
  rw [halone]
  refine ⟨hresults, hresults', fun place => ?_⟩
  by_cases howner : ∃ p ∈ order, place ∈ s.fixtures.placesOf state.fs p
  · obtain ⟨p, hp, hplace⟩ := howner
    rw [(hplaces p hp).entries place hplace,
      (hplaces' p (hperm.mem_iff.mp hp)).entries place hplace]
  · have hnone : ∀ p ∈ order, place ∉ s.fixtures.placesOf state.fs p :=
      fun p hp hplace => howner ⟨p, hp, hplace⟩
    rw [hothers.entries place hnone,
      hothers'.entries place fun p hp => hnone p (hperm.mem_iff.mpr hp)]

/-- Neither of two sources in one directory has a golden file yet. -/
theorem runGroup_perm_twoSources :
    let s := Suite.empty ⟨⟨"t"⟩⟩ (.new .skip)
    let disk : FileSystem :=
      ⟨[(["t"], .directory), (["t", "a.kt"], .file .empty), (["t", "b.kt"], .file .empty)]⟩
    let state : SuiteState :=
      ⟨.new Grammar.recognizer .standard, disk, .new .info ⟨.human, false, false⟩⟩
    let order : List Path := [⟨"a.kt"⟩, ⟨"b.kt"⟩]
    order.Perm order.reverse ∧ s.Independent disk order ∧
      (s.runGroup order state).1 = [("a.kt", .finished (.skipped .goldenCreated)),
        ("b.kt", .finished (.skipped .goldenCreated))] ∧
      (s.runGroup order.reverse state).1 = [("b.kt", .finished (.skipped .goldenCreated)),
        ("a.kt", .finished (.skipped .goldenCreated))] ∧
      ∀ place, (s.runGroup order.reverse state).2.fs.get? place =
        (s.runGroup order state).2.fs.get? place := by
  intro s disk state order
  have hperm : order.Perm order.reverse := (List.reverse_perm order).symm
  have hindependent : s.Independent disk order := by decide +kernel
  obtain ⟨horder, hreverse, hplaces⟩ := runGroup_perm s state hperm hindependent
  have hfirst : (s.runEntry ⟨"a.kt"⟩ state).1 = ("a.kt", .finished (.skipped .goldenCreated)) := by
    decide +kernel
  have hsecond : (s.runEntry ⟨"b.kt"⟩ state).1 =
      ("b.kt", .finished (.skipped .goldenCreated)) := by
    decide +kernel
  refine ⟨hperm, hindependent, ?_, ?_, hplaces⟩
  · rw [horder, ← hfirst, ← hsecond]
    rfl
  · rw [hreverse, ← hfirst, ← hsecond]
    rfl

end Suite

end GoldenTree
