import GoldenTree.Tree.Basic

/-! Where two trees differ. Two nodes differ in their labels or in their number of children;
nothing below such a pair is compared. -/
namespace GoldenTree.Tree

variable {α : Type} [DecidableEq α]

mutual

/-- All pairs of nodes that differ, in pre-order. -/
def differences : Tree α → Tree α → List (Tree α × Tree α)
  | node a cs, node b ds =>
    if a = b ∧ cs.length = ds.length then forestDifferences cs ds
    else [(node a cs, node b ds)]

def forestDifferences : List (Tree α) → List (Tree α) → List (Tree α × Tree α)
  | s :: ss, t :: ts => differences s t ++ forestDifferences ss ts
  | _, _ => []

end

mutual

/-- The first pair of nodes that differ. -/
def firstDifference? : Tree α → Tree α → Option (Tree α × Tree α)
  | node a cs, node b ds =>
    if a = b ∧ cs.length = ds.length then firstForestDifference? cs ds
    else some (node a cs, node b ds)

def firstForestDifference? : List (Tree α) → List (Tree α) → Option (Tree α × Tree α)
  | s :: ss, t :: ts =>
    match firstDifference? s t with
    | some pair => some pair
    | none => firstForestDifference? ss ts
  | _, _ => none

end

end GoldenTree.Tree
