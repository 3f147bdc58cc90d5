import GoldenTree.Text.Ranges

/-! Sets of characters. A set is a list of closed ranges of code points, which ascend and neither
overlap nor touch. Surrogates are no characters, so the code point before them and the one behind
them are neighbours where a set is cut, but do not touch. -/
namespace GoldenTree.Text

structure CharSet where
  ranges : List (Nat × Nat)
  deriving Repr, DecidableEq

namespace CharSet

def mem (c : Char) (s : CharSet) : Bool := inRanges s.ranges c.toNat

instance : Inhabited CharSet := ⟨⟨[]⟩⟩

def empty : CharSet := ⟨[]⟩

/-- The last code point. -/
def top : Nat := 0x10FFFF

def span (low high : Nat) : CharSet := ⟨[(low, high)]⟩

def everything : CharSet := span 0 top

def surrogates : CharSet := span 0xD800 0xDFFF

/-- Puts a range before others that begin no earlier, joined with those that it meets. -/
def absorb (r : Nat × Nat) : List (Nat × Nat) → List (Nat × Nat)
  | [] => [r]
  | s :: rs => if s.1 ≤ r.2 + 1 then absorb (r.1, max r.2 s.2) rs else r :: s :: rs

/-- Whether the first range comes before the second or is the same. -/
def precedes (a b : Nat × Nat) : Bool := a.1 < b.1 || a.1 == b.1 && a.2 ≤ b.2

/-- The set of ranges in any order. -/
def ofRanges (rs : List (Nat × Nat)) : CharSet := ⟨(rs.mergeSort precedes).foldr absorb []⟩

def ofChars (cs : List Char) : CharSet := ofRanges (cs.map fun c => (c.toNat, c.toNat))

def single (c : Char) : CharSet := span c.toNat c.toNat

def union (a b : CharSet) : CharSet := ofRanges (a.ranges ++ b.ranges)

def unionAll (sets : List CharSet) : CharSet := ofRanges (sets.flatMap (·.ranges))

/-- What two ranges share. -/
def overlap (r s : Nat × Nat) : List (Nat × Nat) :=
  if max r.1 s.1 ≤ min r.2 s.2 then [(max r.1 s.1, min r.2 s.2)] else []

def intersection (a b : CharSet) : CharSet :=
  ⟨a.ranges.flatMap fun r => b.ranges.flatMap fun s => overlap r s⟩

/-- The next character. -/
def next (n : Nat) : Nat := if n = 0xD7FF then 0xE000 else n + 1

/-- The character before. -/
def previous (n : Nat) : Nat := if n = 0xE000 then 0xD7FF else n - 1

/-- What is left of a range without others, which ascend. -/
def cut (r : Nat × Nat) : List (Nat × Nat) → List (Nat × Nat)
  | [] => [r]
  | s :: rs =>
    if s.2 < r.1 then cut r rs
    else if r.2 < s.1 then [r]
    else
      (if r.1 < s.1 then [(r.1, previous s.1)] else []) ++
        (if s.2 < r.2 then cut (next s.2, r.2) rs else [])

def difference (a b : CharSet) : CharSet := ⟨a.ranges.flatMap fun r => cut r b.ranges⟩

def symmetricDifference (a b : CharSet) : CharSet := (a.union b).difference (a.intersection b)

/-- The range between two others. Nothing lies between the last character before the surrogates and
the first behind them; the range there consists of these two. -/
def between (low high : Nat) : Nat × Nat :=
  (min (next low) (previous high), max (next low) (previous high))

/-- The ranges behind `last` that keep clear of others. -/
def gapsBehind (last : Nat) : List (Nat × Nat) → List (Nat × Nat)
  | [] => if last < top then [(next last, top)] else []
  | r :: rs => between last r.1 :: gapsBehind r.2 rs

def complement (s : CharSet) : CharSet :=
  match s.ranges with
  | [] => everything
  | r :: rs => ⟨(if 0 < r.1 then [(0, previous r.1)] else []) ++ gapsBehind r.2 rs⟩

def isAscii (s : CharSet) : Bool := s.ranges.all (·.2 < 0x80)

/-- The only character of a set that has just one. -/
def only? (s : CharSet) : Option Char :=
  match s.ranges with
  | [(low, high)] => if low = high then some (Char.ofNat low) else none
  | _ => none

/-- The ranges for fast search. -/
def table (s : CharSet) : Array (Nat × Nat) := s.ranges.toArray

@[simp] theorem mem_empty (c : Char) : mem c empty = false := rfl

@[simp] theorem mem_span (c : Char) (low high : Nat) :
    mem c (span low high) = (low ≤ c.toNat && c.toNat ≤ high) := by simp [mem, span]

theorem mem_single {c d : Char} : mem c (single d) = true ↔ c = d := by
  rw [single, mem_span, Bool.and_eq_true, decide_eq_true_eq, decide_eq_true_eq]
  constructor
  · intro h
    exact Char.toNat_inj.1 (Nat.le_antisymm h.2 h.1)
  · rintro rfl
    exact ⟨Nat.le_refl _, Nat.le_refl _⟩

end CharSet

/-- Searches ascending ranges from `low` up to `high` for one that a number lies in; each of at most
`fuel` steps halves them. -/
def searchBetween (ranges : Array (Nat × Nat)) (n : Nat) : (fuel low high : Nat) → Bool
  | 0, _, _ => false
  | fuel + 1, low, high =>
    let middle := (low + high) / 2
    match ranges[middle]? with
    | none => false
    | some r =>
      if high ≤ low then false
      else if n < r.1 then searchBetween ranges n fuel low middle
      else if r.2 < n then searchBetween ranges n fuel (middle + 1) high
      else true

/-- Whether a number lies in one of the ranges, which ascend. -/
def searchRanges (ranges : Array (Nat × Nat)) (n : Nat) : Bool :=
  searchBetween ranges n (ranges.size + 1) 0 ranges.size

end GoldenTree.Text
