import GoldenTree.Diff.Compact
import GoldenTree.Diff.Script

/-! Unified diffs. Changes that are at most six kept lines apart share a hunk, which shows up to
three kept lines around them. -/
namespace GoldenTree.Diff

/-- A stretch of both texts: kept as it is, or old lines replaced by new ones. -/
structure Region where
  kept : Bool
  old : Nat
  oldLength : Nat
  new : Nat
  newLength : Nat
  deriving Repr, DecidableEq

namespace Region

def ofEdit (e : Edit) : Region := ⟨e.kind = .equal, e.old, e.oldLength, e.new, e.newLength⟩

/-- The region with one more edit of its sort. It begins where its first lines on a side do. -/
def absorb (r : Region) (e : Edit) : Region where
  kept := r.kept
  old := if r.oldLength = 0 ∧ e.oldLength ≠ 0 then e.old else r.old
  oldLength := r.oldLength + e.oldLength
  new := if r.newLength = 0 ∧ e.newLength ≠ 0 then e.new else r.new
  newLength := r.newLength + e.newLength

/-- The first `n` lines of a kept region. -/
def first (n : Nat) (r : Region) : Region :=
  { r with oldLength := min n r.oldLength, newLength := min n r.newLength }

/-- The last `n` lines of a kept region. -/
def last (n : Nat) (r : Region) : Region where
  kept := r.kept
  old := r.old + (r.oldLength - n)
  oldLength := min n r.oldLength
  new := r.new + (r.newLength - n)
  newLength := min n r.newLength

end Region

/-- Adds an edit to regions of which the latest comes first. -/
def addEdit (regions : List Region) (e : Edit) : List Region :=
  match regions with
  | r :: rest =>
    if r.kept = decide (e.kind = .equal) then r.absorb e :: rest else .ofEdit e :: regions
  | [] => [.ofEdit e]

/-- The alternating kept and changed regions of a script. -/
def regions (edits : List Edit) : List Region := (edits.foldl addEdit []).reverse

/-- How many kept lines are shown on each side of a change. -/
def context : Nat := 3

def mapHead (f : Region → Region) : List Region → List Region
  | [] => []
  | r :: rs => (if r.kept then f r else r) :: rs

/-- The regions with no more kept lines at either end than are shown. -/
def trimContext (rs : List Region) : List Region :=
  (mapHead (.first context) (mapHead (.last context) rs).reverse).reverse

/-- Cuts regions into hunks at long kept regions; `open` are the regions of the hunk at hand, the
latest first. -/
def hunksFrom («open» : List Region) : List Region → List (List Region)
  | [] =>
    if «open».all Region.kept then [] else [«open».reverse]
  | r :: rs =>
    if r.kept ∧ 2 * context < r.oldLength then
      (r.first context :: «open»).reverse :: hunksFrom [r.last context] rs
    else hunksFrom (r :: «open») rs

def hunks (rs : List Region) : List (List Region) := hunksFrom [] (trimContext rs)

/-- The lines from `start` up to `stop`, counted from one; an empty range is named by the line
before it. -/
def range (start stop : Nat) : String :=
  let length := stop - start
  if length = 1 then toString (start + 1)
  else toString (if length = 0 then start else start + 1) ++ "," ++ toString length

def hunkHeader (hunk : List Region) : String :=
  match hunk.head?, hunk.getLast? with
  | some first, some last =>
    String.join ["@@ -", range first.old (last.old + last.oldLength),
      " +", range first.new (last.new + last.newLength), " @@\n"]
  | _, _ => ""

def marked (mark : String) (lines : List String) : String :=
  String.join (lines.map fun line => mark ++ line ++ "\n")

def renderRegion (old new : List String) (r : Region) : String :=
  if r.kept then marked " " (slice old r.old r.oldLength)
  else marked "-" (slice old r.old r.oldLength) ++ marked "+" (slice new r.new r.newLength)

/-- The unified diff of two lists of lines, below the names of the two sides. -/
def unified (old new : List String) : String :=
  let edits := compact old new (script old new 0 0)
  String.join ("--- expected\n+++ actual\n" :: (hunks (regions edits)).map fun hunk =>
    hunkHeader hunk ++ String.join (hunk.map (renderRegion old new)))

end GoldenTree.Diff
