import GoldenTree.Tree.Basic

/-! Trees read from indentation. A node belongs to the nearest node before it that is less deep;
depths may be in any unit. -/
namespace GoldenTree.Tree

variable {α : Type}

/-- Puts a node in front of a forest whose trees keep the depths of their roots. It takes the
deeper trees that come first as its children. -/
def adopt (entry : Nat × α) (forest : List (Nat × Tree α)) : List (Nat × Tree α) :=
  let deeper := fun (later : Nat × Tree α) => decide (entry.1 < later.1)
  (entry.1, node entry.2 ((forest.takeWhile deeper).map (·.2))) :: forest.dropWhile deeper

/-- The forest of an outline. -/
def forestOfOutline (entries : List (Nat × α)) : List (Nat × Tree α) := entries.foldr adopt []

/-- The tree of an outline below a root of its own. -/
def ofOutline (root : α) (entries : List (Nat × α)) : Tree α :=
  node root ((forestOfOutline entries).map (·.2))

@[simp] theorem forestOfOutline_nil : forestOfOutline ([] : List (Nat × α)) = [] := rfl

@[simp] theorem forestOfOutline_cons (entry : Nat × α) (entries : List (Nat × α)) :
    forestOfOutline (entry :: entries) = adopt entry (forestOfOutline entries) := rfl

end GoldenTree.Tree
