import GoldenTree.Token

/-! Trees as a recognizer builds them. -/
namespace GoldenTree

/-- A rule is known by its index in the recognizer's rule table; an optional part of it that is
missing leaves an empty slot. -/
inductive ConcreteTree where
  | rule (index : Nat) (slots : List (Option ConcreteTree))
  | terminal (token : Token)
  deriving Repr

namespace ConcreteTree

/-- One entry of the flat form. -/
inductive Item where
  | rule (index : Nat)
  | terminal (token : Token)
  | empty
  deriving Repr, DecidableEq

mutual

/-- The tokens of the tree from left to right. -/
def tokens : ConcreteTree → List Token
  | rule _ slots => slotTokens slots
  | terminal token => [token]

def slotTokens : List (Option ConcreteTree) → List Token
  | [] => []
  | none :: slots => slotTokens slots
  | some tree :: slots => tree.tokens ++ slotTokens slots

end

mutual

/-- Every node and empty slot in pre-order with its depth. -/
def flat (depth : Nat) : ConcreteTree → List (Nat × Item)
  | rule index slots => (depth, .rule index) :: flatSlots (depth + 1) slots
  | terminal token => [(depth, .terminal token)]

def flatSlots (depth : Nat) : List (Option ConcreteTree) → List (Nat × Item)
  | [] => []
  | none :: slots => (depth, .empty) :: flatSlots depth slots
  | some tree :: slots => tree.flat depth ++ flatSlots depth slots

end

@[simp] theorem slotTokens_append (s t : List (Option ConcreteTree)) :
    slotTokens (s ++ t) = slotTokens s ++ slotTokens t := by
  induction s with
  | nil => rfl
  | cons slot s ih => cases slot <;> simp [slotTokens, ih]

end ConcreteTree

end GoldenTree
