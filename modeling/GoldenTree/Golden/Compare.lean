import GoldenTree.Diff.Unified
import GoldenTree.Golden.Normal

/-! Comparison of golden text with the text of a fresh tree. Both sides are brought to normal form
first. -/
namespace GoldenTree.Golden

open Text

/-- How two normal texts differ. -/
structure Difference where
  expected : String
  actual : String
  /-- The first line that differs, counted from one. -/
  firstLine? : Option Nat
  unified : String
  deriving Repr, DecidableEq

/-- The place, counted from one, of the first element in which two lists differ. -/
def firstDifference? {α : Type} [DecidableEq α] : List α → List α → Option Nat
  | [], [] => none
  | a :: as, b :: bs => if a = b then (firstDifference? as bs).map (· + 1) else some 1
  | _, _ => some 1

/-- The difference of two normal texts. -/
def Difference.ofNormal (expected actual : String) : Difference where
  expected := expected
  actual := actual
  firstLine? := firstDifference? (linesOf expected) (linesOf actual)
  unified := Diff.unified (linesOf expected) (linesOf actual)

/-- The first differing line, and the unified diff below it. -/
def Difference.render (d : Difference) : String :=
  (match d.firstLine? with
  | some line => "first difference at line " ++ toString line ++ "\n"
  | none => "texts differ\n") ++ d.unified

/-- How two texts differ once both are in normal form; nothing if they do not. -/
def compare? (expected actual : String) : Option Difference :=
  let expected := normalize expected
  let actual := normalize actual
  if expected = actual then none else some (.ofNormal expected actual)

end GoldenTree.Golden
