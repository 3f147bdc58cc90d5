import GoldenTree.Recognition.Session
import Mathlib.Data.Finset.Card
import Mathlib.Data.Finset.Dedup
import Mathlib.Data.Finset.Lattice.Basic

/-! The contexts that a memo holds, as a set, and what a parse makes of it: what was held if that is
within the ceiling, and all that the parse entered. -/
namespace GoldenTree.Recognition

open Grammar (Visit)

namespace ContextMemo

variable {α : Type} [DecidableEq α] [Hashable α] {memo : ContextMemo α} {context : α}

/-- The contexts that are stored. -/
def held (memo : ContextMemo α) : Finset α := memo.serials.keys.toFinset

theorem mem_held_iff_mem : context ∈ memo.held ↔ context ∈ memo.serials := by
  rw [held, List.mem_toFinset, Std.HashMap.mem_keys]

theorem mem_held : context ∈ memo.held ↔ memo.contains context = true := by
  rw [mem_held_iff_mem, contains, serial?, Std.HashMap.isSome_getElem?_iff_mem]

/-- No context is stored twice. -/
theorem card_held (memo : ContextMemo α) : memo.held.card = memo.size := by
  rw [held, List.toFinset_card_of_nodup Std.HashMap.nodup_keys, Std.HashMap.length_keys, size]

@[simp] theorem held_empty : (empty : ContextMemo α).held = ∅ := by
  ext context
  simp [mem_held, contains]

@[simp] theorem held_clear (memo : ContextMemo α) : memo.clear.held = ∅ := by
  ext context
  simp [mem_held, contains]

@[simp] theorem held_intern (memo : ContextMemo α) (context : α) :
    (memo.intern context).2.held = insert context memo.held := by
  ext other
  rw [Finset.mem_insert, mem_held, mem_held, contains, serial?_intern, contains]
  by_cases h : other = context <;> simp [h]

theorem held_internAll (memo : ContextMemo α) (contexts : List α) :
    (memo.internAll contexts).held = memo.held ∪ contexts.toFinset := by
  induction contexts generalizing memo with
  | nil => simp [internAll]
  | cons context contexts ih =>
    have hrest := ih (memo.intern context).2
    rw [internAll] at hrest ⊢
    rw [List.foldl_cons, hrest, held_intern, List.toFinset_cons, Finset.insert_union,
      Finset.union_insert]

theorem card_internAll_sdiff_le (memo : ContextMemo α) (contexts : List α) :
    ((memo.internAll contexts).held \ memo.held).card ≤ contexts.length := by
  rw [held_internAll, Finset.union_sdiff_left]
  exact (Finset.card_le_card Finset.sdiff_subset).trans (List.toFinset_card_le contexts)

/-- A memo within the ceiling is left alone. -/
theorem held_trim (ceiling : Nat) (memo : ContextMemo α) :
    (Memo.trim ceiling memo).2.held = if memo.size ≤ ceiling then memo.held else ∅ := by
  have hsize : Memo.size memo = memo.size := rfl
  rw [Memo.trim, hsize]
  by_cases h : memo.size ≤ ceiling
  · rw [if_pos h, if_neg (Nat.not_lt.mpr h)]
  · rw [if_neg h, if_pos (Nat.lt_of_not_le h)]
    exact held_clear memo

end ContextMemo

namespace Session

variable (s : Session) (source : String)

theorem parse_fst : (s.parse source).1 = (s.builder.build s.recognizer source).built := rfl

/-- The rule entries that a parse makes. -/
def visits : List Visit := (s.builder.build s.recognizer source).visits

/-- What is held when an engine is bounded. -/
theorem held_bound (e : Engine) (ceiling : Nat) : (s.bound e ceiling).2.memo.held =
    if s.memo.held.card ≤ ceiling then s.memo.held else ∅ := by
  rw [ContextMemo.card_held]
  exact ContextMemo.held_trim ceiling s.memo

theorem memo_engine : s.engine.2.memo = (Memo.trim s.builder.ceiling s.memo).2 := rfl

theorem parse_snd_eq : (s.parse source).2 =
    { s.engine.2 with memo := s.engine.2.memo.internAll (s.visits source) } := rfl

theorem held_parse : (s.parse source).2.memo.held =
    (if s.memo.size ≤ s.builder.ceiling then s.memo.held else ∅) ∪ (s.visits source).toFinset := by
  rw [parse_snd_eq, ContextMemo.held_internAll, memo_engine, ContextMemo.held_trim]

/-- The session differs in its memo at most. -/
def Alike (s t : Session) : Prop := t.recognizer = s.recognizer ∧ t.builder = s.builder

variable {s} {t : Session}

theorem Alike.refl (s : Session) : s.Alike s := ⟨rfl, rfl⟩

theorem Alike.trans {u : Session} (h : s.Alike t) (h' : t.Alike u) : s.Alike u :=
  ⟨h'.1.trans h.1, h'.2.trans h.2⟩

theorem alike_parse (s : Session) (source : String) : s.Alike (s.parse source).2 := ⟨rfl, rfl⟩

theorem Alike.visits (h : s.Alike t) (source : String) : s.visits source = t.visits source := by
  obtain ⟨hrecognizer, hbuilder⟩ := h
  rw [Session.visits, Session.visits, hrecognizer, hbuilder]

/-- No parse looks at a memo. -/
theorem Alike.parse_fst (h : s.Alike t) (source : String) :
    (t.parse source).1 = (s.parse source).1 := by
  obtain ⟨hrecognizer, hbuilder⟩ := h
  rw [Session.parse_fst, Session.parse_fst, hrecognizer, hbuilder]

end Session

end GoldenTree.Recognition
