import GoldenTree.Diff.Edit
import Std.Data.HashMap

/-! A shortest edit script, found by searching from both ends at once. A search advances along
diagonals, on each of which it keeps how far it got; where the two searches meet, the problem is
split in two. -/
namespace GoldenTree.Diff

variable {α : Type} [DecidableEq α]

/-- How far a search got on each diagonal that it has reached. -/
abbrev Reach := Std.HashMap Int Int

def Reach.at (r : Reach) (k : Int) : Int := r.getD k 0

/-- Both searches of one problem. -/
structure Search where
  forward : Reach
  backward : Reach

/-- How many elements two arrays share from places `i` and `j` on. -/
def sharedFrom (as bs : Array α) (i j : Nat) : Nat :=
  if h : i < as.size ∧ j < bs.size then
    if as[i] = bs[j] then sharedFrom as bs (i + 1) (j + 1) + 1 else 0
  else 0
termination_by as.size - i

/-- The elements that are shared from the point `x`, `y` on; none if the point lies outside. -/
def snake (as bs : Array α) (x y : Int) : Int :=
  if 0 ≤ y then sharedFrom as bs x.toNat y.toNat else 0

/-- Where diagonal `k` is entered in round `d`: from the neighbour that got further. -/
def Reach.entry (r : Reach) (d k : Int) : Int :=
  if k = -d ∨ (k ≠ d ∧ r.at (k - 1) < r.at (k + 1)) then r.at (k + 1) else r.at (k - 1) + 1

/-- One diagonal of the forward search; an error is the point at which the searches meet. -/
def stepForward (as bs : Array α) (d k : Int) (s : Search) : Except (Int × Int) Search :=
  let delta : Int := as.size - bs.size
  let x := s.forward.entry d k
  let reached := x + snake as bs x (x - k)
  if delta % 2 ≠ 0 ∧ (k - delta).natAbs ≤ d - 1 ∧
      as.size ≤ reached + s.backward.at (delta - k) then
    .error (x, x - k)
  else .ok { s with forward := s.forward.insert k reached }

/-- One diagonal of the backward search, which sees both arrays reversed. -/
def stepBackward (as bs : Array α) (d k : Int) (s : Search) : Except (Int × Int) Search :=
  let delta : Int := as.size - bs.size
  let x := s.backward.entry d k
  let length := snake as bs x (x - k)
  let reached := x + length
  if delta % 2 = 0 ∧ (k - delta).natAbs ≤ d ∧
      as.size ≤ reached + s.forward.at (delta - k) then
    .error (as.size - reached, bs.size - (x - k + length))
  else .ok { s with backward := s.backward.insert k reached }

/-- The diagonals of round `d`, from the highest down. -/
def diagonals (d : Nat) : List Int := (List.range (d + 1)).map fun (i : Nat) => (d : Int) - 2 * i

/-- The point at which the two searches meet. -/
def meeting? (as bs : List α) : Option (Nat × Nat) :=
  let forward := stepForward as.toArray bs.toArray
  let backward := stepBackward as.reverse.toArray bs.reverse.toArray
  let round (s : Search) (d : Nat) : Except (Int × Int) Search := do
    let s ← (diagonals d).foldlM (fun s k => forward d k s) s
    (diagonals d).foldlM (fun s k => backward d k s) s
  let rounds := (as.length + bs.length + 1) / 2 + 1
  match (List.range rounds).foldlM round ⟨.ofList [(1, 0)], .ofList [(1, 0)]⟩ with
  | .ok _ => none
  | .error (x, y) => some (x.toNat, y.toNat)

/-- The edits of two lists that begin at `old` and `new`. Common ends are kept; what is left is
split where the searches meet. -/
def script (as bs : List α) (old new : Nat) : List Edit :=
  let before := commonPrefix as bs
  let as' := as.drop before
  let bs' := bs.drop before
  let behind := commonSuffix as' bs'
  let cs := as'.take (as'.length - behind)
  let ds := bs'.take (bs'.length - behind)
  let keep (n i j : Nat) : List Edit := if n = 0 then [] else [⟨.equal, i, j, n⟩]
  let i := old + before
  let j := new + before
  let middle :=
    if cs.isEmpty ∧ ds.isEmpty then []
    else if ds.isEmpty then [⟨.delete, i, j, cs.length⟩]
    else if cs.isEmpty then [⟨.insert, i, j, ds.length⟩]
    else
      let all : List Edit := [⟨.delete, i, j, cs.length⟩, ⟨.insert, i, j, ds.length⟩]
      match meeting? cs ds with
      | none => all
      | some (x, y) =>
        if _h : (cs.take x).length + (ds.take y).length < as.length + bs.length ∧
            (cs.drop x).length + (ds.drop y).length < as.length + bs.length then
          script (cs.take x) (ds.take y) i j ++ script (cs.drop x) (ds.drop y) (i + x) (j + y)
        else all
  keep before old new ++ middle ++ keep behind (i + cs.length) (j + ds.length)
termination_by as.length + bs.length
decreasing_by
  · exact _h.1
  · exact _h.2

end GoldenTree.Diff
