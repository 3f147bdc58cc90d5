import GoldenTree.Pattern.Basic
import GoldenTree.Pattern.Layout
import GoldenTree.Pattern.Reader

/-! The states of a pattern that an expression calls for, built from the end to the start. -/
namespace GoldenTree

open Text

namespace Pattern

/-- The states built so far and the one in which they begin. -/
structure Building where
  states : Array State
  start : Nat

namespace Building

/-- Puts a state in front. -/
def push (b : Building) (state : State) : Building :=
  let start := b.states.size
  ⟨b.states.push state, start⟩

/-- The same states, begun in another. -/
def restart (b : Building) (start : Nat) : Building := { b with start }

/-- A choice between going on with `b` and with another state. -/
def orElse (b : Building) (other : Nat) : Building := b.push (.split b.start other)

/-- Puts something in front a number of times. -/
def times (step : Building → Building) : Nat → Building → Building
  | 0, b => b
  | n + 1, b => times step n (step b)

/-- Puts something in front a number of times, each time with a way out to `exit`. -/
def upTo (step : Building → Building) (exit : Nat) : Nat → Building → Building
  | 0, b => b
  | n + 1, b => upTo step exit n ((step b).orElse exit)

/-- Puts something in front any number of times: from a state to begin in, there is a way through
it back to that state, and one on. -/
def star (step : Building → Building) (b : Building) : Building :=
  let hub := b.states.size
  let body := step ((b.push .success).restart hub)
  ⟨body.states.setIfInBounds hub (.split body.start b.start), hub⟩

end Building

/-- Puts an expression in front of states that follow it. -/
def Expr.build : Expr → Building → Building
  | empty => id
  | literal cs => fun b =>
    cs.foldr (fun c b => b.push (.char #[(c.toNat, c.toNat)] b.start)) b
  | chars set => fun b => b.push (.char set.table b.start)
  | look l => fun b => b.push (.look l b.start)
  | repeated e least most? _ => fun b =>
    let rest := match most? with
      | none => b.star e.build
      | some most => b.upTo e.build b.start (most - least)
    rest.times e.build least
  | group _ e => e.build
  | both x y => fun b => x.build (y.build b)
  | either x y => fun b =>
    let second := y.build b
    (x.build (second.restart b.start)).orElse second.start

/-- The pattern for an expression. -/
def ofExpr (e : Expr) : Pattern :=
  let built := e.build ⟨#[.success], 0⟩
  ⟨built.states, built.start⟩

/-- Reads a pattern; nothing if it is malformed or takes too much room. -/
def parse? (s : String) : Option Pattern :=
  (Expr.read? s).bind fun e => if e.fits then some (ofExpr e) else none

end Pattern

end GoldenTree
