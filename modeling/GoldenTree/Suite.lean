import GoldenTree.Report.Case

/-! Suites of cases that run one after the other. -/
namespace GoldenTree

open Disk Recognition Report

/-- How one case of a suite ended. -/
inductive SuiteOutcome where
  | finished (outcome : Outcome)
  | errored (e : RunError)
  deriving Repr, DecidableEq

namespace SuiteOutcome

def label : SuiteOutcome → String
  | finished outcome => outcome.label
  | errored _ => "ERRORED"

def render : SuiteOutcome → String
  | finished outcome => outcome.render
  | errored e => e.message

/-- Whether the case failed or came to no outcome. -/
def isProblem : SuiteOutcome → Bool
  | finished outcome => outcome.isFail
  | errored _ => true

end SuiteOutcome

/-- The outcomes of a suite by case id, in the order of the cases. -/
structure Summary where
  results : List (String × SuiteOutcome)
  deriving Repr, DecidableEq

namespace Summary

def total (s : Summary) : Nat := s.results.length

/-- How many outcomes have the property. -/
def countFinished (s : Summary) (p : Outcome → Bool) : Nat :=
  s.results.countP fun r => match r.2 with
    | .finished outcome => p outcome
    | .errored _ => false

def passed (s : Summary) : Nat := s.countFinished Outcome.isPass

def failed (s : Summary) : Nat := s.countFinished Outcome.isFail

def skipped (s : Summary) : Nat := s.countFinished Outcome.isSkipped

def errored (s : Summary) : Nat := s.total - s.countFinished fun _ => true

def isSuccess (s : Summary) : Bool := s.failed == 0 && s.errored == 0

/-- The cases that failed or came to no outcome. -/
def problems (s : Summary) : List String :=
  (s.results.filter (·.2.isProblem)).map (·.1)

end Summary

/-- Cases by their relative paths, in groups that share one session each. -/
structure Suite where
  fixtures : Fixtures
  config : Config
  groups : List (List Path)
  filter? : Option PathFilter
  deriving Repr, DecidableEq

/-- What the cases of a suite change as they run. -/
structure SuiteState where
  session : Session
  fs : FileSystem
  logger : Logger

namespace Suite

/-- No cases, and nothing that deselects one. -/
def empty (f : Fixtures) (c : Config) : Suite := ⟨f, c, [], none⟩

/-- All cases below a directory, in one group, selected by the filter of the configuration. -/
def ofDirectory (f : Fixtures) (c : Config) (fs : FileSystem) : Except FixtureError Suite := do
  return ⟨f, c, [← f.list fs], c.filter?⟩

-- The sum of naturals is the same one whatever is imported.
attribute [local instance (2000)] Zero.ofOfNat0

/-- The number of cases, selected or not. -/
def size (s : Suite) : Nat := (s.groups.map List.length).sum

/-- Runs a loaded case and reports the outcome it comes to. -/
def runLoaded (s : Suite) (c : Case) (state : SuiteState) :
    Except RunError Outcome × SuiteState :=
  let ran := (CaseRun.new c).perform s.config state.session state.fs
  match ran.result with
  | .error e => (.error e, { state with session := ran.session, fs := ran.fs })
  | .ok outcome =>
    (.ok outcome, ⟨ran.session, ran.fs, state.logger.caseReport ran.fs ran.run outcome .hidden⟩)

/-- Runs a case, if it could be loaded. -/
def runFixture (s : Suite) (state : SuiteState) :
    Except FixtureError Case → Except RunError Outcome × SuiteState
  | .error e => (.error (.fixture e), state)
  | .ok c => s.runLoaded c state

/-- Loads and runs one case. -/
def runCase (s : Suite) (relative : Path) (state : SuiteState) :
    Except RunError Outcome × SuiteState :=
  s.runFixture state (s.fixtures.load state.fs relative)

/-- The result of a case under its id. A case that came to no outcome is reported here. -/
def entry (id : String) :
    Except RunError Outcome × SuiteState → (String × SuiteOutcome) × SuiteState
  | (.ok outcome, state) => ((id, .finished outcome), state)
  | (.error e, state) =>
    ((id, .errored e), { state with logger := state.logger.error (id ++ ": " ++ e.message) })

def runEntry (s : Suite) (relative : Path) (state : SuiteState) :
    (String × SuiteOutcome) × SuiteState :=
  entry (caseId relative) (s.runCase relative state)

/-- Runs the cases of one group one after the other. -/
def runGroup (s : Suite) : List Path → SuiteState → List (String × SuiteOutcome) × SuiteState
  | [], state => ([], state)
  | relative :: rest, state =>
    let (result, state) := s.runEntry relative state
    let (results, state) := s.runGroup rest state
    (result :: results, state)

/-- The filter sees a path with slashes only. -/
def selects (s : Suite) (relative : Path) : Bool :=
  s.filter?.all (·.selects (relative.text.map fun c => if c = '\\' then '/' else c))

def runGroups (s : Suite) (r : Recognizer) (fs : FileSystem) (logger : Logger) :
    List (List Path) → List (String × SuiteOutcome) × FileSystem × Logger
  | [] => ([], fs, logger)
  | group :: groups =>
    let (results, state) :=
      s.runGroup (group.filter s.selects) ⟨.new r s.config.builder, fs, logger⟩
    let (others, fs, logger) := s.runGroups r state.fs state.logger groups
    (results ++ others, fs, logger)

/-- Runs the selected cases, each group with a session of its own. -/
def run (s : Suite) (r : Recognizer) (fs : FileSystem) (logger : Logger) :
    Summary × FileSystem × Logger :=
  let (results, fs, logger) := s.runGroups r fs logger s.groups
  (⟨results⟩, fs, logger)

end Suite

end GoldenTree
