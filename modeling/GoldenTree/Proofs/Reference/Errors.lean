import GoldenTree.Proofs.Text.Position
import GoldenTree.Proofs.Tree.Subtrees
import GoldenTree.Reference.Dump

/-! The error elements of a reference dump do not depend on how its lines are nested: a walk over
the tree finds what one pass over the lines finds. -/
namespace GoldenTree.Reference

open Text

/-- The error elements of a row of elements behind the text `before`. -/
def errorsOf (before : List Char) : List Element → List ErrorElement
  | [] => []
  | e :: rest => e.errorAt before ++ errorsOf (before ++ e.source) rest

theorem errorsOf_append (before : List Char) (es fs : List Element) :
    errorsOf before (es ++ fs) =
      errorsOf before es ++ errorsOf (before ++ es.flatMap (·.source)) fs := by
  induction es generalizing before with
  | nil => simp [errorsOf]
  | cons e es ih => simp [errorsOf, ih]

mutual

theorem collect_eq (before : List Char) : ∀ t : Tree Element, collect before t =
    (errorsOf before (t.subtrees.map (·.label)),
      before ++ (t.subtrees.map (·.label)).flatMap (·.source))
  | .node e children => by
    simp [collect, collectForest_eq (before ++ e.source) children, Tree.subtrees, errorsOf]

/-- A walk over a forest meets its nodes in pre-order. -/
theorem collectForest_eq (before : List Char) : ∀ ts : List (Tree Element),
    collectForest before ts =
      (errorsOf before ((Tree.forestSubtrees ts).map (·.label)),
        before ++ ((Tree.forestSubtrees ts).map (·.label)).flatMap (·.source))
  | [] => by simp [collectForest, Tree.forestSubtrees, errorsOf]
  | t :: ts => by
    simp [collectForest, collect_eq before t, collectForest_eq _ ts, Tree.forestSubtrees,
      errorsOf_append]

end

mutual

theorem hasError_iff : ∀ t : Tree Element,
    hasError t = true ↔ ∃ u ∈ Tree.forestSubtrees t.children, u.label.isError = true
  | .node _ children => forestHasError_iff children

theorem forestHasError_iff : ∀ ts : List (Tree Element),
    forestHasError ts = true ↔ ∃ u ∈ Tree.forestSubtrees ts, u.label.isError = true
  | [] => by simp [forestHasError, Tree.forestSubtrees]
  | .node e children :: ts => by
    simp only [forestHasError, Bool.or_eq_true, forestHasError_iff ts,
      hasError_iff (.node e children), Tree.forestSubtrees, Tree.subtrees]
    simp [or_and_right, exists_or, or_assoc]

end

end GoldenTree.Reference
