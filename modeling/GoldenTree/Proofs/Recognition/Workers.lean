import GoldenTree.Proofs.Recognition.Contents
import Mathlib.Algebra.Order.BigOperators.Group.Finset
import Mathlib.Data.Fin.VecNotation
import Mathlib.Data.Finset.Union
import Mathlib.Data.Fintype.Basic
import Mathlib.Logic.Relation

/-! Workers that parse at the same time and share one session. Making an engine, which may empty the
memo, is one step, and so is each rule entry put into the memo; the steps of different workers come
in any order. The memo never holds more than the ceiling allows beside what its workers have entered
since they made their engines. -/
namespace GoldenTree.Recognition

open Grammar (Visit)
open Relation (ReflTransGen)

/-- A worker has sources that it has still to parse, rule entries of the parse at hand that it has
still to put into the memo, and those that it has put there since its engine was made. -/
structure Worker where
  sources : List String
  pending : List Visit
  entered : Finset Visit

/-- A session and its workers. -/
structure Pool (ι : Type) where
  session : Session
  workers : ι → Worker

namespace Pool

variable {ι : Type} [DecidableEq ι] {p q : Pool ι} {i : ι}

/-- Nobody has begun to parse. -/
def start (s : Session) (sources : ι → List String) : Pool ι :=
  ⟨s, fun i => ⟨sources i, [], ∅⟩⟩

/-- The worker makes an engine for its next source. -/
def begin (p : Pool ι) (i : ι) (source : String) (sources : List String) : Pool ι :=
  ⟨p.session.engine.2, Function.update p.workers i ⟨sources, p.session.visits source, ∅⟩⟩

/-- The worker puts a rule entry into the memo. -/
def enter (p : Pool ι) (i : ι) (visit : Visit) (w : Worker) : Pool ι :=
  ⟨{ p.session with memo := (p.session.memo.intern visit).2 },
    Function.update p.workers i { w with entered := insert visit w.entered }⟩

/-- One step of one worker. -/
inductive Step : Pool ι → Pool ι → Prop
  | begin {p : Pool ι} {i : ι} {source : String} {sources : List String} {entered : Finset Visit} :
      p.workers i = ⟨source :: sources, [], entered⟩ → Step p (p.begin i source sources)
  | enter {p : Pool ι} {i : ι} {visit : Visit} {sources : List String} {pending : List Visit}
      {entered : Finset Visit} : p.workers i = ⟨sources, visit :: pending, entered⟩ →
      Step p (p.enter i visit ⟨sources, pending, entered⟩)

/-! A worker that is not interrupted for some steps. -/

/-- The worker puts the next rule entries into the memo, as many of them as it is given time for. -/
def advance (p : Pool ι) (i : ι) (count : Nat) : Pool ι :=
  let w := p.workers i
  let now := w.pending.take count
  ⟨{ p.session with memo := p.session.memo.internAll now },
    Function.update p.workers i
      ⟨w.sources, w.pending.drop count, w.entered ∪ now.toFinset⟩⟩

theorem advance_of_take {count : Nat} (h : (p.workers i).pending.take count = []) :
    p.advance i count = p := by
  have hdrop := List.take_append_drop count (p.workers i).pending
  rw [h, List.nil_append] at hdrop
  simp [advance, h, hdrop, ContextMemo.internAll]

theorem advance_succ {count : Nat} {sources : List String} {visit : Visit} {pending : List Visit}
    {entered : Finset Visit} (h : p.workers i = ⟨sources, visit :: pending, entered⟩) :
    p.advance i (count + 1) = (p.enter i visit ⟨sources, pending, entered⟩).advance i count := by
  simp [advance, enter, h, ContextMemo.internAll]

theorem steps_advance (p : Pool ι) (i : ι) (count : Nat) :
    ReflTransGen Step p (p.advance i count) := by
  induction count generalizing p with
  | zero => rw [advance_of_take List.take_zero]
  | succ count ih =>
    cases hworker : p.workers i with
    | mk sources pending entered =>
      cases pending with
      | nil => rw [advance_of_take (by rw [hworker]; rfl)]
      | cons visit pending =>
        rw [advance_succ hworker]
        exact ReflTransGen.head (.enter hworker) (ih _)

/-- Alone, a worker does what `Session.parse` does. -/
theorem steps_parse {source : String} {sources : List String} {entered : Finset Visit}
    (h : p.workers i = ⟨source :: sources, [], entered⟩) :
    ReflTransGen Step p ⟨(p.session.parse source).2,
      Function.update p.workers i ⟨sources, [], (p.session.visits source).toFinset⟩⟩ := by
  have hrest := steps_advance (p.begin i source sources) i (p.session.visits source).length
  have hfirst : Step p (p.begin i source sources) := .begin h
  rw [Session.parse_snd_eq]
  simpa [begin, advance] using ReflTransGen.head hfirst hrest

theorem builder_steps (h : ReflTransGen Step p q) : q.session.builder = p.session.builder := by
  induction h with
  | refl => rfl
  | tail _ hstep ih => cases hstep <;> exact ih

/-! What the memo holds. -/

variable [Fintype ι]

/-- What the workers have entered since they made their engines. -/
def entered (p : Pool ι) : Finset Visit := Finset.univ.biUnion fun i => (p.workers i).entered

/-- The memo holds some base within the ceiling and what its workers have entered. -/
def Covered (p : Pool ι) : Prop :=
  ∃ base : Finset Visit, base.card ≤ p.session.builder.ceiling ∧
    p.session.memo.held ⊆ base ∪ p.entered

omit [Fintype ι] in
theorem held_begin (p : Pool ι) (i : ι) (source : String) (sources : List String) :
    (p.begin i source sources).session.memo.held =
      if p.session.memo.held.card ≤ p.session.builder.ceiling then p.session.memo.held else ∅ :=
  Session.held_bound p.session .fresh p.session.builder.ceiling

omit [Fintype ι] in
theorem held_advance (p : Pool ι) (i : ι) (count : Nat) :
    (p.advance i count).session.memo.held =
      p.session.memo.held ∪ ((p.workers i).pending.take count).toFinset :=
  ContextMemo.held_internAll ..

/-- What is held when an engine is made is a base of its own. -/
theorem covered_begin (p : Pool ι) (i : ι) (source : String) (sources : List String) :
    (p.begin i source sources).Covered := by
  refine ⟨(p.begin i source sources).session.memo.held, ?_, Finset.subset_union_left⟩
  rw [held_begin]
  by_cases h : p.session.memo.held.card ≤ p.session.builder.ceiling
  · rw [if_pos h]
    exact h
  · rw [if_neg h]
    exact Nat.zero_le _

theorem entered_enter {w : Worker} (hw : w.entered = (p.workers i).entered) (visit : Visit) :
    (p.enter i visit w).entered = insert visit p.entered := by
  ext other
  simp only [entered, enter, Finset.mem_biUnion, Finset.mem_univ, true_and, Finset.mem_insert]
  constructor
  · rintro ⟨j, hj⟩
    by_cases hji : j = i
    · subst hji
      rw [Function.update_self, hw, Finset.mem_insert] at hj
      exact hj.imp_right fun hj => ⟨j, hj⟩
    · rw [Function.update_of_ne hji] at hj
      exact .inr ⟨j, hj⟩
  · rintro (rfl | ⟨j, hj⟩)
    · exact ⟨i, by simp⟩
    · by_cases hji : j = i
      · subst hji
        exact ⟨j, by simp [hw, hj]⟩
      · exact ⟨j, by simpa [Function.update_of_ne hji] using hj⟩

theorem Covered.step (hcovered : p.Covered) (h : Step p q) : q.Covered := by
  cases h with
  | begin _ => exact covered_begin ..
  | @enter i visit sources pending entered hworker =>
    obtain ⟨base, hbase, hheld⟩ := hcovered
    refine ⟨base, hbase, ?_⟩
    rw [entered_enter (by rw [hworker]), Finset.union_insert]
    exact (ContextMemo.held_intern ..).trans_subset (Finset.insert_subset_insert visit hheld)

theorem Covered.steps (hcovered : p.Covered) (h : ReflTransGen Step p q) : q.Covered := by
  induction h with
  | refl => exact hcovered
  | tail _ hstep ih => exact ih.step hstep

omit [DecidableEq ι] in
theorem Covered.size_le (h : p.Covered) : p.session.memo.size ≤
    p.session.builder.ceiling + ∑ i, (p.workers i).entered.card := by
  obtain ⟨base, hbase, hheld⟩ := h
  calc p.session.memo.size = p.session.memo.held.card := (ContextMemo.card_held _).symm
    _ ≤ (base ∪ p.entered).card := Finset.card_le_card hheld
    _ ≤ base.card + p.entered.card := Finset.card_union_le ..
    _ ≤ p.session.builder.ceiling + ∑ i, (p.workers i).entered.card :=
      Nat.add_le_add hbase Finset.card_biUnion_le

/-- The memo of a session stays bounded in whatever order its workers take their steps. -/
theorem memo_bounded (r : Recognizer) (b : TreeBuilder) (sources : ι → List String)
    (h : ReflTransGen Step (start (.new r b) sources) p) :
    p.session.memo.size ≤ b.ceiling + ∑ i, (p.workers i).entered.card := by
  have hstart : (start (.new r b) sources).Covered :=
    ⟨∅, Nat.zero_le _, by simp [start, Session.new]⟩
  have hbuilder : p.session.builder = b := builder_steps h
  have hsize := (hstart.steps h).size_le
  rwa [hbuilder] at hsize

def twoWorkers : Pool (Fin 2) :=
  start (.new Grammar.recognizer ⟨"kotlinFile", 2⟩) ![["val x"], ["val y"]]

/-- The second worker makes its engine when the first has entered three of five contexts, and then
they take turns. -/
def interleaved : Pool (Fin 2) :=
  let interrupted := (twoWorkers.begin 0 "val x" []).advance 0 3
  (((interrupted.begin 1 "val y" []).advance 1 2).advance 0 2).advance 1 3

theorem steps_interleaved : ReflTransGen Step twoWorkers interleaved := by
  have hidle : twoWorkers.workers 0 = ⟨["val x"], [], ∅⟩ := rfl
  have hidle' : ((twoWorkers.begin 0 "val x" []).advance 0 3).workers 1 = ⟨["val y"], [], ∅⟩ := rfl
  calc
    ReflTransGen Step twoWorkers _ := .single (.begin hidle)
    ReflTransGen Step _ _ := steps_advance ..
    ReflTransGen Step _ _ := .single (.begin hidle')
    ReflTransGen Step _ _ := steps_advance ..
    ReflTransGen Step _ _ := steps_advance ..
    ReflTransGen Step _ interleaved := steps_advance ..

/-- The three contexts are dropped while their parse goes on; in the end the memo, with a ceiling of
two, holds the other two of that parse and all five of the other. -/
theorem memo_bounded_twoWorkers :
    ReflTransGen Step twoWorkers interleaved ∧ interleaved.session.memo.size = 6 ∧
      interleaved.session.memo.size ≤ 2 + ∑ i, (interleaved.workers i).entered.card := by
  refine ⟨steps_interleaved, ?_, memo_bounded _ ⟨"kotlinFile", 2⟩ _ steps_interleaved⟩
  rw [← ContextMemo.card_held]
  simp only [interleaved, held_advance, held_begin]
  have hstart : twoWorkers.session.memo.held = ∅ := ContextMemo.held_empty
  rw [hstart]
  decide +kernel

end Pool

end GoldenTree.Recognition
