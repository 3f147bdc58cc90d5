import GoldenTree.Pattern.Look

/-! Patterns that select texts, and the search for a match anywhere in a text. A pattern is a set
of states, each of which says how to go on. The search follows all ways at once, so its time grows
with the length of the text and with the number of states, but no faster. -/
namespace GoldenTree

open Text

namespace Pattern

/-- How to go on from a state. -/
inductive State where
  /-- Over a character in one of the ranges. -/
  | char (ranges : Array (Nat × Nat)) (next : Nat)
  /-- Over no character if the condition holds. -/
  | look (l : Look) (next : Nat)
  /-- Either way. -/
  | split (next other : Nat)
  /-- A match ends here. -/
  | success
  deriving Repr, DecidableEq

end Pattern

structure Pattern where
  states : Array Pattern.State
  /-- The state in which a match begins. -/
  start : Nat
  deriving Repr, DecidableEq

namespace Pattern

/-- The states reached at a place. -/
structure Reached where
  /-- The last round in which each state was reached. -/
  rounds : Array Nat
  /-- The states that go on over a character. -/
  waiting : List Nat
  /-- A match ends at this place. -/
  success : Bool

/-- Follows the states in `todo` and all that they lead to over no character. A state that was
reached in this round is not followed again; at most `fuel` steps are taken. -/
def spread (p : Pattern) (place : Place) (round : Nat) :
    (fuel : Nat) → (todo : List Nat) → Reached → Reached
  | 0, _, reached => reached
  | _ + 1, [], reached => reached
  | fuel + 1, i :: todo, ⟨rounds, waiting, success⟩ =>
    if rounds[i]? = some round then spread p place round fuel todo ⟨rounds, waiting, success⟩
    else
      let rounds := rounds.setIfInBounds i round
      match p.states[i]? with
      | some (.char _ _) => spread p place round fuel todo ⟨rounds, i :: waiting, success⟩
      | some (.look l next) =>
        let todo := if l.holds place then next :: todo else todo
        spread p place round fuel todo ⟨rounds, waiting, success⟩
      | some (.split next other) =>
        spread p place round fuel (next :: other :: todo) ⟨rounds, waiting, success⟩
      | some .success => spread p place round fuel todo ⟨rounds, waiting, true⟩
      | none => spread p place round fuel todo ⟨rounds, waiting, success⟩

/-- Where a state goes on over a character. -/
def next? (p : Pattern) (c : Char) (i : Nat) : Option Nat :=
  match p.states[i]? with
  | some (.char ranges next) => if searchRanges ranges c.toNat then some next else none
  | _ => none

/-- Searches on in the rest of a text. A match may begin at every place. -/
def search (p : Pattern) (rounds : Array Nat) (round : Nat) (before? : Option Char)
    (todo : List Nat) (rest : List Char) : Bool :=
  let todo := todo ++ [p.start]
  let fuel := todo.length + 2 * p.states.size + 1
  let reached := p.spread ⟨before?, rest.head?⟩ round fuel todo ⟨rounds, [], false⟩
  if reached.success then true
  else
    match rest with
    | [] => false
    | c :: rest =>
      p.search reached.rounds (round + 1) (some c) (reached.waiting.filterMap (p.next? c)) rest

/-- Whether the pattern matches some part of the text. -/
def isMatch (p : Pattern) (s : String) : Bool :=
  p.search (Array.replicate p.states.size 0) 1 none [] s.toList

end Pattern

end GoldenTree
