import GoldenTree.Proofs.Tree.Outline

/-! The nodes of a tree in pre-order, each as the subtree below it. The tree of an outline has the
entries as its nodes, in their order. -/
namespace GoldenTree.Tree

variable {α : Type}

mutual

/-- The tree itself, and all that is below it, in pre-order. -/
def subtrees : Tree α → List (Tree α)
  | node a cs => node a cs :: forestSubtrees cs

def forestSubtrees : List (Tree α) → List (Tree α)
  | [] => []
  | t :: ts => t.subtrees ++ forestSubtrees ts

end

mutual

theorem map_label_subtrees (depth : Nat) :
    ∀ t : Tree α, t.subtrees.map label = (t.flat depth).map (·.2)
  | node a cs => by simp [subtrees, flat, map_label_forestSubtrees (depth + 1) cs]

/-- The labels in pre-order, at whatever depth the forest is written. -/
theorem map_label_forestSubtrees (depth : Nat) :
    ∀ ts : List (Tree α), (forestSubtrees ts).map label = (flatForest depth ts).map (·.2)
  | [] => rfl
  | t :: ts => by
    simp [forestSubtrees, flatForest, map_label_subtrees depth t,
      map_label_forestSubtrees depth ts]

end

mutual

theorem subtrees_subset {u : Tree α} :
    ∀ {t : Tree α}, u ∈ t.subtrees → u.subtrees ⊆ t.subtrees
  | node a cs, h => by
    rcases List.mem_cons.mp h with rfl | h
    · exact List.Subset.refl _
    · exact List.Subset.trans (forestSubtrees_subset h) (List.subset_cons_self ..)

/-- What is below a node of a forest is in the forest. -/
theorem forestSubtrees_subset {u : Tree α} :
    ∀ {ts : List (Tree α)}, u ∈ forestSubtrees ts → u.subtrees ⊆ forestSubtrees ts
  | [], h => by cases h
  | t :: ts, h => by
    rcases List.mem_append.mp h with h | h
    · exact List.Subset.trans (subtrees_subset h) (List.subset_append_left ..)
    · exact List.Subset.trans (forestSubtrees_subset h) (List.subset_append_right ..)

end

/-- The nodes of an outline are its entries. -/
theorem map_label_forestOfOutline (entries : List (Nat × α)) :
    (forestSubtrees ((forestOfOutline entries).map (·.2))).map label = entries.map (·.2) := by
  induction entries using outline_induction with
  | nil => rfl
  | cons entry inner outer hinner houter ihinner ihouter =>
    rw [forestOfOutline_cons_append hinner houter]
    simp [forestSubtrees, subtrees, ihinner, ihouter]

end GoldenTree.Tree
