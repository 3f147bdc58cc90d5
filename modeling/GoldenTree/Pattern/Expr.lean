import GoldenTree.Pattern.Look

/-! What a pattern means: an expression in a simple form, which the functions that build one keep.
Sequences and choices lean to the right and hold no sequence or choice in front, neighbouring
literals are one, and a choice among single characters is a set. -/
namespace GoldenTree.Pattern

open Text

inductive Expr where
  | empty
  | literal (cs : List Char)
  /-- One character of a set; nothing matches if the set is empty. -/
  | chars (set : CharSet)
  | look (l : Look)
  /-- From `least` to `most?` times, or without a limit. -/
  | repeated (e : Expr) (least : Nat) (most? : Option Nat) (lazily : Bool)
  /-- The group with a number. -/
  | group (number : Nat) (e : Expr)
  | both (first second : Expr)
  | either (first second : Expr)
  deriving Repr, DecidableEq

namespace Expr

/-- The fewest characters that match; nothing if a part that is needed never matches. -/
def minLength? : Expr → Option Nat
  | empty => some 0
  | literal cs => some cs.length
  | chars set => if set.ranges.isEmpty then none else some 1
  | look _ => some 0
  | repeated e least _ _ => e.minLength?.map (least * ·)
  | group _ e => e.minLength?
  | both a b => a.minLength?.bind fun m => b.minLength?.map (m + ·)
  | either a b => a.minLength?.bind fun m => b.minLength?.map (min m)

/-- Whether nothing but the empty text can match. -/
def onlyEmpty : Expr → Bool
  | empty | look _ => true
  | literal cs => cs.isEmpty
  | chars _ => false
  | repeated e _ most? _ => most?.any fun most => most == 0 || e.onlyEmpty
  | group _ e => e.onlyEmpty
  | both a b => a.onlyEmpty && b.onlyEmpty
  | either a b => a.onlyEmpty && b.onlyEmpty

/-- Whether every match begins where the text does. -/
def startsText : Expr → Bool
  | look l => l == .textStart
  | repeated e least _ _ => 0 < least && e.startsText
  | group _ e => e.startsText
  | both a b => a.startsText || a.onlyEmpty && b.startsText
  | either a b => a.startsText && b.startsText
  | empty | literal _ | chars _ => false

/-- Whether every match ends where the text does. -/
def endsText : Expr → Bool
  | look l => l == .textEnd
  | repeated e least _ _ => 0 < least && e.endsText
  | group _ e => e.endsText
  | both a b => b.endsText || b.onlyEmpty && a.endsText
  | either a b => a.endsText && b.endsText
  | empty | literal _ | chars _ => false

/-- One character of a set. -/
def ofSet (set : CharSet) : Expr :=
  match set.only? with
  | some c => literal [c]
  | none => chars set

/-- The parts of a sequence. -/
def parts : Expr → List Expr
  | both a b => a :: b.parts
  | empty => []
  | e => [e]

/-- The branches of a choice. -/
def branches : Expr → List Expr
  | either a b => a :: b.branches
  | e => [e]

/-- Puts a part before others and joins it with a literal that it meets. -/
def joinPart (e : Expr) (es : List Expr) : List Expr :=
  match e, es with
  | literal cs, literal ds :: es => literal (cs ++ ds) :: es
  | e, es => e :: es

def ofParts : List Expr → Expr
  | [] => empty
  | [e] => e
  | e :: es => both e (ofParts es)

def ofBranches : List Expr → Expr
  | [] => chars .empty
  | [e] => e
  | e :: es => either e (ofBranches es)

/-- One expression after the other. -/
def sequence (es : List Expr) : Expr := ofParts ((es.flatMap parts).foldr joinPart [])

/-- The set of a choice among sets. -/
def unionOf? (es : List Expr) : Option CharSet :=
  (es.mapM fun e => match e with
    | chars set => some set
    | _ => none).map CharSet.unionAll

/-- The set of a choice among single characters. -/
def charsOf? (es : List Expr) : Option CharSet :=
  (es.mapM fun e => match e with
    | literal [c] => some c
    | _ => none).map CharSet.ofChars

def isSequence : Expr → Bool
  | both _ _ => true
  | _ => false

/-- What two sequences have in common at the front. -/
def commonParts (es fs : List Expr) : List Expr :=
  ((es.zip fs).takeWhile fun (e, f) => e == f).map (·.1)

/-- What all branches have in common at the front, if each is a sequence. -/
def sharedParts (es : List Expr) : List Expr :=
  match es with
  | e :: es =>
    if (e :: es).all isSequence then es.foldl (fun shared e => commonParts shared e.parts) e.parts
    else []
  | [] => []

/-- One of some expressions. Parts that all branches begin with are taken out in front, in at most
`fuel` rounds. -/
def choiceWith : (fuel : Nat) → List Expr → Expr
  | 0, es => ofBranches es
  | fuel + 1, es =>
    let es := es.flatMap branches
    match es with
    | [e] => e
    | es =>
      match charsOf? es, unionOf? es with
      | some set, _ => ofSet set
      | none, some set => ofSet set
      | none, none =>
        match sharedParts es with
        | [] => ofBranches es
        | shared =>
          let rests := es.map fun e => sequence (e.parts.drop shared.length)
          sequence (shared ++ [choiceWith fuel rests])

-- The sum of naturals is the same one whatever is imported.
attribute [local instance (2000)] Zero.ofOfNat0

/-- One of some expressions. Every round takes a part from every branch. -/
def choice (es : List Expr) : Expr :=
  choiceWith ((es.map fun e => e.parts.length + e.branches.length).sum + 1) es

/-- An expression again and again. What matches nothing but the empty text need not match twice. -/
def times (e : Expr) (least : Nat) (most? : Option Nat) (lazily : Bool) : Expr :=
  let least := if e.onlyEmpty then min least 1 else least
  let most? := if e.onlyEmpty then some (min (most?.getD 1) 1) else most?
  if most? = some 0 then empty
  else if least = 1 ∧ most? = some 1 then e
  else repeated e least most? lazily

end Expr

end GoldenTree.Pattern
