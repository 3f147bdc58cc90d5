import Std.Data.HashMap

/-! Memos that are emptied when they have grown too large, and the memo of contexts, in which
equal contexts are one object. -/
namespace GoldenTree.Recognition

/-- Anything that has a size and can be emptied. -/
class Memo (σ : Type) where
  size : σ → Nat
  clear : σ → σ

/-- Empties a memo of more than `ceiling` entries; the flag tells whether it did. -/
def Memo.trim {σ : Type} [Memo σ] (ceiling : Nat) (memo : σ) : Bool × σ :=
  if Memo.size memo > ceiling then (true, Memo.clear memo) else (false, memo)

/-- A plain record of everything added is a memo too. -/
instance {α : Type} : Memo (List α) where
  size := List.length
  clear _ := []

/-- Contexts, each stored once under a serial number. Serial numbers are never given twice, so two
of them are equal only for one and the same object. -/
structure ContextMemo (α : Type) [DecidableEq α] [Hashable α] where
  serials : Std.HashMap α Nat
  next : Nat

namespace ContextMemo

variable {α : Type} [DecidableEq α] [Hashable α]

def empty : ContextMemo α := ⟨∅, 0⟩

def size (memo : ContextMemo α) : Nat := memo.serials.size

def clear (memo : ContextMemo α) : ContextMemo α := { memo with serials := ∅ }

instance : Memo (ContextMemo α) := ⟨size, clear⟩

/-- The serial number of a stored context. -/
def serial? (memo : ContextMemo α) (context : α) : Option Nat := memo.serials[context]?

def contains (memo : ContextMemo α) (context : α) : Bool := (memo.serial? context).isSome

/-- The object stored for a context, which is stored now if it was not. -/
def intern (memo : ContextMemo α) (context : α) : Nat × ContextMemo α :=
  match memo.serial? context with
  | some serial => (serial, memo)
  | none => (memo.next, ⟨memo.serials.insert context memo.next, memo.next + 1⟩)

@[simp] theorem serial?_empty (context : α) : (empty : ContextMemo α).serial? context = none := by
  simp [serial?, empty]

@[simp] theorem serial?_clear (memo : ContextMemo α) (context : α) :
    memo.clear.serial? context = none := by
  simp [serial?, clear]

theorem intern_of_serial? {memo : ContextMemo α} {context : α} {serial : Nat}
    (h : memo.serial? context = some serial) : memo.intern context = (serial, memo) := by
  simp [intern, h]

/-- Whatever was stored keeps its serial number; the context itself has the one returned. -/
theorem serial?_intern (memo : ContextMemo α) (context other : α) :
    (memo.intern context).2.serial? other =
      if other = context then some (memo.intern context).1 else memo.serial? other := by
  unfold intern
  split
  · next serial h =>
    by_cases he : other = context
    · simp [he, h]
    · simp [he]
  · by_cases he : other = context
    · simp [serial?, he]
    · simp [serial?, Std.HashMap.getElem?_insert, he, Ne.symm he]

/-- A memo grows by one with every context that it did not hold. -/
theorem size_intern (memo : ContextMemo α) (context : α) :
    (memo.intern context).2.size =
      if (memo.serial? context).isSome then memo.size else memo.size + 1 := by
  unfold intern
  split
  · next h => simp [h]
  · next h =>
    have hm : context ∉ memo.serials := by simpa [serial?] using h
    simp [h, size, Std.HashMap.size_insert, hm]

def internAll (memo : ContextMemo α) (contexts : List α) : ContextMemo α :=
  contexts.foldl (fun memo context => (memo.intern context).2) memo

/-- What a memo of contexts shows of itself. -/
def summary (memo : ContextMemo α) : String :=
  String.join ["SharedContextCache \x7b size: ", toString memo.size, " \x7d"]

end ContextMemo

end GoldenTree.Recognition
