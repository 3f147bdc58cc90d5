/-! Labelled trees in which a node may have any number of children. -/
namespace GoldenTree

inductive Tree (α : Type) where
  | node (label : α) (children : List (Tree α))
  deriving Repr

namespace Tree

variable {α : Type}

def label : Tree α → α
  | node a _ => a

def children : Tree α → List (Tree α)
  | node _ cs => cs

@[simp] theorem label_node (a : α) (cs : List (Tree α)) : (node a cs).label = a := rfl

@[simp] theorem children_node (a : α) (cs : List (Tree α)) : (node a cs).children = cs := rfl

mutual

/-- Every label in pre-order with the depth of its node. -/
def flat (depth : Nat) : Tree α → List (Nat × α)
  | node a cs => (depth, a) :: flatForest (depth + 1) cs

def flatForest (depth : Nat) : List (Tree α) → List (Nat × α)
  | [] => []
  | t :: ts => t.flat depth ++ flatForest depth ts

end

@[simp] theorem flatForest_append (depth : Nat) (ts us : List (Tree α)) :
    flatForest depth (ts ++ us) = flatForest depth ts ++ flatForest depth us := by
  induction ts with
  | nil => rfl
  | cons t ts ih => simp [flatForest, ih]

mutual

/-- The number of nodes. -/
def size : Tree α → Nat
  | node _ cs => forestSize cs + 1

def forestSize : List (Tree α) → Nat
  | [] => 0
  | t :: ts => t.size + forestSize ts

end

section Equality

variable [DecidableEq α]

mutual

def decEq : (s t : Tree α) → Decidable (s = t)
  | node a cs, node b ds =>
    match decEqForest cs ds with
    | isTrue h =>
      if h' : a = b then isTrue (by rw [h, h']) else isFalse (by simp [h'])
    | isFalse h => isFalse (by simp [h])

def decEqForest : (ts us : List (Tree α)) → Decidable (ts = us)
  | [], [] => isTrue rfl
  | [], _ :: _ => isFalse (by simp)
  | _ :: _, [] => isFalse (by simp)
  | t :: ts, u :: us =>
    match decEq t u, decEqForest ts us with
    | isTrue h, isTrue h' => isTrue (by rw [h, h'])
    | isFalse h, _ => isFalse (by simp [h])
    | _, isFalse h => isFalse (by simp [h])

end

instance : DecidableEq (Tree α) := decEq

end Equality

end Tree

end GoldenTree
