/-! Edits that turn one sequence of lines into another. -/
namespace GoldenTree.Diff

inductive Kind where
  | equal
  | delete
  | insert
  deriving Repr, DecidableEq

/-- `length` lines that are kept, deleted or inserted. The old lines begin at `old` and the new
ones at `new`; where an edit has no lines on a side, this is where it stands on that side. -/
structure Edit where
  kind : Kind
  old : Nat
  new : Nat
  length : Nat
  deriving Repr, DecidableEq

namespace Edit

/-- How many old lines the edit covers. -/
def oldLength (e : Edit) : Nat := if e.kind = .insert then 0 else e.length

/-- How many new lines the edit covers. -/
def newLength (e : Edit) : Nat := if e.kind = .delete then 0 else e.length

/-- Moves the edit `n` lines down on both sides. -/
def down (n : Nat) (e : Edit) : Edit := { e with old := e.old + n, new := e.new + n }

/-- Moves the edit `n` lines up on both sides. -/
def up (n : Nat) (e : Edit) : Edit := { e with old := e.old - n, new := e.new - n }

def grow (n : Nat) (e : Edit) : Edit := { e with length := e.length + n }

def shrink (n : Nat) (e : Edit) : Edit := { e with length := e.length - n }

end Edit

/-- The number of leading elements that two lists share. -/
def commonPrefix {α : Type} [DecidableEq α] : List α → List α → Nat
  | a :: as, b :: bs => if a = b then commonPrefix as bs + 1 else 0
  | _, _ => 0

/-- The number of trailing elements that two lists share. -/
def commonSuffix {α : Type} [DecidableEq α] (as bs : List α) : Nat :=
  commonPrefix as.reverse bs.reverse

/-- `n` elements from position `i` on. -/
def slice {α : Type} (xs : List α) (i n : Nat) : List α := (xs.drop i).take n

end GoldenTree.Diff
