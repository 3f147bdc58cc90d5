import GoldenTree.Proofs.Recognition.Contents
import GoldenTree.Proofs.Recognition.Simulation

/-! What has been done with a session before shows in its memo alone: a parse yields what a fresh
engine with a memo of its own yields, and the shared memo then holds what that engine enters, beside
what was held before. -/
namespace GoldenTree.Recognition

open Grammar (Visit recognizer)

/-- One use of a session. Engines are counted from zero in the order they were made. -/
inductive Action where
  | parse (source : String)
  | engine
  | buildWith (engine : Nat) (source : String)
  | parseConcrete (engine : Nat) (source : String)
  | rebound (engine ceiling : Nat)
  | intern (visit : Visit)
  | clear
  deriving Repr, DecidableEq

/-- A session and the engines that were made by it and are still in use. -/
structure Usage where
  session : Session
  engines : List BoundedEngine

namespace Usage

variable (u : Usage)

/-- Uses the engine of an index, if there is one. -/
def onEngine (index : Nat) (use : BoundedEngine → BoundedEngine × Session) : Usage :=
  match u.engines[index]? with
  | some b =>
    let (b, session) := use b
    ⟨session, u.engines.set index b⟩
  | none => u

def perform : Action → Usage
  | .parse source => { u with session := (u.session.parse source).2 }
  | .engine =>
    let (b, session) := u.session.engine
    ⟨session, u.engines ++ [b]⟩
  | .buildWith index source => u.onEngine index fun b => (u.session.buildWith b source).2
  | .parseConcrete index source => u.onEngine index fun b => (u.session.parseConcrete b source).2
  | .rebound index ceiling => u.onEngine index fun b => u.session.bound b.engine ceiling
  | .intern visit =>
    { u with session := { u.session with memo := (u.session.memo.intern visit).2 } }
  | .clear => { u with session := { u.session with memo := u.session.memo.clear } }

def performAll (history : List Action) : Usage := history.foldl perform u

/-- One use with engines that put every rule into the memo as they enter it. -/
def performEntering : Action → Usage
  | .parse source =>
    let (_, _, memo) := Entering.build u.session.builder .fresh u.session.memo source
    { u with session := { u.session with memo } }
  | .buildWith index source => u.onEngine index fun b =>
    (Entering.buildWith u.session.builder b u.session.memo source).2.map id
      ({ u.session with memo := · })
  | .parseConcrete index source => u.onEngine index fun b =>
    (Entering.parseConcrete b u.session.memo source).2.map id ({ u.session with memo := · })
  | a => u.perform a

variable {u} {s : Session}

theorem alike_onEngine (index : Nat) {use : BoundedEngine → BoundedEngine × Session}
    (hu : s.Alike u.session) (huse : ∀ b, s.Alike (use b).2) :
    s.Alike (u.onEngine index use).session := by
  rw [onEngine]
  cases u.engines[index]? with
  | none => exact hu
  | some b => exact huse b

theorem alike_perform (a : Action) (hu : s.Alike u.session) :
    s.Alike (u.perform a).session := by
  cases a with
  | parse source => exact hu
  | engine => exact hu
  | buildWith index source => exact alike_onEngine index hu fun _ => hu
  | parseConcrete index source => exact alike_onEngine index hu fun _ => hu
  | rebound index ceiling => exact alike_onEngine index hu fun _ => hu
  | intern visit => exact hu
  | clear => exact hu

theorem alike_performAll (history : List Action) (hu : s.Alike u.session) :
    s.Alike (u.performAll history).session := by
  induction history generalizing u with
  | nil => exact hu
  | cons a history ih => exact ih (alike_perform a hu)

theorem performEntering_eq (hu : u.session.recognizer = recognizer) (a : Action) :
    u.performEntering a = u.perform a := by
  cases a with
  | parse source =>
    rw [perform, Session.parse_eq_entering hu]
    rfl
  | buildWith index source =>
    rw [perform, performEntering]
    congr
    funext b
    rw [Session.buildWith_eq_entering hu]
    rfl
  | parseConcrete index source =>
    rw [perform, performEntering]
    congr
    funext b
    rw [Session.parseConcrete_eq_entering hu]
    rfl
  | _ => rfl

theorem foldl_performEntering (hu : u.session.recognizer = recognizer) (history : List Action) :
    history.foldl performEntering u = u.performAll history := by
  induction history generalizing u with
  | nil => rfl
  | cons a history ih =>
    rw [List.foldl_cons, performEntering_eq hu]
    apply ih
    rw [(alike_perform a (.refl u.session)).1, hu]

end Usage

/-! What a history makes of the memo can be told from the contexts that the single parses enter. -/

/-- The contexts that a memo holds, and how many engines share it. -/
structure Account where
  held : Finset Visit
  engines : Nat

namespace Account

def trim (a : Account) (ceiling : Nat) : Account :=
  { a with held := if a.held.card ≤ ceiling then a.held else ∅ }

def add (a : Account) (visits : List Visit) : Account :=
  { a with held := a.held ∪ visits.toFinset }

/-- Uses the engine of an index, if there is one. -/
def onEngine (a : Account) (index : Nat) (used : Account) : Account :=
  if index < a.engines then used else a

/-- One use of a session that differs from the given one in its memo at most. -/
def perform (s : Session) (a : Account) : Action → Account
  | .parse source => (a.trim s.builder.ceiling).add (s.visits source)
  | .engine => ⟨(a.trim s.builder.ceiling).held, a.engines + 1⟩
  | .buildWith index source => a.onEngine index (a.add (s.visits source))
  | .parseConcrete index source =>
    a.onEngine index (a.add (s.recognizer.parse (s.recognizer.tokenize source).1 0).visits)
  | .rebound index ceiling => a.onEngine index (a.trim ceiling)
  | .intern visit => a.add [visit]
  | .clear => ⟨∅, a.engines⟩

end Account

namespace Usage

variable {u : Usage} {s : Session}

def account (u : Usage) : Account := ⟨u.session.memo.held, u.engines.length⟩

theorem account_onEngine (index : Nat) (use : BoundedEngine → BoundedEngine × Session)
    {held : Finset Visit} (huse : ∀ b, (use b).2.memo.held = held) :
    (u.onEngine index use).account = u.account.onEngine index ⟨held, u.engines.length⟩ := by
  have hcount : u.account.engines = u.engines.length := rfl
  rw [onEngine, Account.onEngine, hcount]
  by_cases h : index < u.engines.length
  · rw [if_pos h, List.getElem?_eq_getElem h]
    simp [account, huse]
  · rw [if_neg h, List.getElem?_eq_none (Nat.le_of_not_lt h)]

theorem account_perform (hu : s.Alike u.session) (a : Action) :
    (u.perform a).account = u.account.perform s a := by
  have hvisits : ∀ source, s.visits source = u.session.visits source := fun _ => hu.visits _
  cases a with
  | parse source =>
    have hheld : (u.session.parse source).2.memo.held =
        ((u.account.trim u.session.builder.ceiling).add (u.session.visits source)).held := by
      rw [Session.held_parse, ← ContextMemo.card_held]
      rfl
    rw [Account.perform, hvisits, ← hu.2]
    exact congrArg (Account.mk · u.engines.length) hheld
  | engine =>
    have hheld := Session.held_bound u.session .fresh u.session.builder.ceiling
    rw [Account.perform, ← hu.2]
    exact congrArg₂ Account.mk hheld List.length_append
  | buildWith index source =>
    rw [Account.perform, hvisits]
    exact account_onEngine index _ fun _ => ContextMemo.held_internAll ..
  | parseConcrete index source =>
    rw [Account.perform, ← hu.1]
    exact account_onEngine index _ fun _ => ContextMemo.held_internAll ..
  | rebound index ceiling => exact account_onEngine index _ fun _ => Session.held_bound ..
  | intern visit =>
    have hheld := ContextMemo.held_internAll u.session.memo [visit]
    exact congrArg (Account.mk · u.engines.length) hheld
  | clear => exact congrArg (Account.mk · u.engines.length) (ContextMemo.held_clear _)

theorem account_performAll (hu : s.Alike u.session) (history : List Action) :
    (u.performAll history).account = history.foldl (Account.perform s) u.account := by
  induction history generalizing u with
  | nil => rfl
  | cons a history ih =>
    rw [List.foldl_cons, ← account_perform hu]
    exact ih (alike_perform a hu)

/-- The account of a history that begins with a new session. -/
theorem account_new (r : Recognizer) (b : TreeBuilder) (history : List Action) :
    ((⟨.new r b, []⟩ : Usage).performAll history).account =
      history.foldl (Account.perform (.new r b)) ⟨∅, 0⟩ := by
  have hnew : (⟨.new r b, []⟩ : Usage).account = ⟨∅, 0⟩ :=
    congrArg (Account.mk · 0) ContextMemo.held_empty
  have haccount := account_performAll (u := ⟨.new r b, []⟩) (.refl _) history
  rwa [hnew] at haccount

end Usage

/-- A fresh engine with a memo of its own enters what a parse visits and nothing else. -/
theorem Entering.build_alone (b : TreeBuilder) (source : String) :
    let fresh := b.build recognizer source
    let alone := Entering.build b .fresh .empty source
    alone.1 = fresh.built ∧ alone.2.2.held = fresh.visits.toFinset := by
  intro fresh alone
  have hmemo : (Engine.fresh.bound b.ceiling .empty).2.held = ∅ := by
    rw [Engine.bound, ContextMemo.held_trim, ContextMemo.held_empty, ite_self]
  have halone := Entering.build_eq b .fresh .empty source
  constructor
  · exact congrArg Prod.fst halone
  · have hheld := congrArg (·.2.2.held) halone
    simp only [ContextMemo.held_internAll, hmemo, Finset.empty_union] at hheld
    exact hheld

namespace Session

/-- Whatever was done with a session before, and with the engines that it made, a parse yields what
a fresh build yields. The memo keeps what it held unless that was more than the ceiling, and takes in
what the fresh build visits. Engines that put every rule into the memo as they enter it come to the
same: through the history, in the parse that shares its memo, and alone with an empty one. -/
theorem parse_after_history (b : TreeBuilder) (ceiling : Nat) (history : List Action)
    (source : String) :
    let start : Usage := ⟨.new Grammar.recognizer b, []⟩
    let s := (start.performAll history).session
    let fresh := (⟨b.rootRule, ceiling⟩ : TreeBuilder).build Grammar.recognizer source
    let sharing := Entering.build b .fresh s.memo source
    let alone := Entering.build ⟨b.rootRule, ceiling⟩ .fresh .empty source
    (s.parse source).1 = fresh.built ∧
      (s.parse source).2.memo.held =
        (if s.memo.size ≤ b.ceiling then s.memo.held else ∅) ∪ fresh.visits.toFinset ∧
      history.foldl Usage.performEntering start = start.performAll history ∧
      sharing.1 = (s.parse source).1 ∧ sharing.2.2 = (s.parse source).2.memo ∧
      alone.1 = fresh.built ∧ alone.2.2.held = fresh.visits.toFinset := by
  intro start s fresh sharing alone
  obtain ⟨hrecognizer, hbuilder⟩ : (Session.new Grammar.recognizer b).Alike s :=
    Usage.alike_performAll history (.refl _)
  -- the ceiling of a builder is for its engines; building looks at the root rule alone
  have hfresh : s.builder.build s.recognizer source = fresh := by
    rw [hrecognizer, hbuilder]
    rfl
  have hsharing : sharing = Entering.build s.builder .fresh s.memo source := by
    rw [hbuilder]
    rfl
  have hparse : s.parse source = (sharing.1, { s with memo := sharing.2.2 }) := by
    rw [hsharing]
    exact parse_eq_entering hrecognizer source
  refine ⟨?_, ?_, Usage.foldl_performEntering rfl history, ?_, ?_, Entering.build_alone ..⟩
  · rw [parse_fst, hfresh]
  · rw [held_parse, visits, hfresh, hbuilder]
    rfl
  · rw [hparse]
  · rw [hparse]

/-- Two engines, bounded at zero and at five contexts, take turns. -/
def turns : List Action :=
  [.engine, .engine, .buildWith 0 "val x", .rebound 1 5, .buildWith 1 "val y", .rebound 0 0,
    .buildWith 0 "val z", .buildWith 1 "val x"]

def afterTurns : Usage :=
  (⟨.new Grammar.recognizer ⟨"kotlinFile", 10⟩, []⟩ : Usage).performAll turns

theorem parse_after_history_twoEngines :
    let fresh := (⟨"kotlinFile", 0⟩ : TreeBuilder).build Grammar.recognizer "val y"
    afterTurns.account.engines = 2 ∧ afterTurns.session.memo.size = 6 ∧
      (afterTurns.session.parse "val y").1 = fresh.built ∧
      (afterTurns.session.parse "val y").2.memo.held =
        afterTurns.session.memo.held ∪ fresh.visits.toFinset ∧
      (afterTurns.session.parse "val y").2.memo.size = 7 := by
  intro fresh
  have haccount : afterTurns.account =
      turns.foldl (Account.perform (.new Grammar.recognizer ⟨"kotlinFile", 10⟩)) ⟨∅, 0⟩ :=
    Usage.account_new ..
  have hcount : afterTurns.account.engines = 2 := by
    rw [haccount]
    decide +kernel
  have hsize : afterTurns.session.memo.size = 6 := by
    have hcard : afterTurns.account.held.card = 6 := by
      rw [haccount]
      decide +kernel
    rw [← ContextMemo.card_held]
    exact hcard
  have hfinal : (afterTurns.account.held ∪ fresh.visits.toFinset).card = 7 := by
    rw [haccount]
    decide +kernel
  have h := parse_after_history ⟨"kotlinFile", 10⟩ 0 turns "val y"
  have hheld : (afterTurns.session.parse "val y").2.memo.held =
      (if afterTurns.session.memo.size ≤ 10 then afterTurns.session.memo.held else ∅) ∪
        fresh.visits.toFinset := h.2.1
  rw [hsize, if_pos (by decide)] at hheld
  refine ⟨hcount, hsize, h.1, hheld, ?_⟩
  rw [← ContextMemo.card_held, hheld]
  exact hfinal

end Session

end GoldenTree.Recognition
