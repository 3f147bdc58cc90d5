/-! Sets of code points written as closed ranges. -/
namespace GoldenTree.Text

/-- Whether `n` lies in one of the closed ranges. -/
def inRanges (ranges : List (Nat × Nat)) (n : Nat) : Bool :=
  ranges.any fun r => r.1 ≤ n && n ≤ r.2

@[simp] theorem inRanges_nil (n : Nat) : inRanges [] n = false := rfl

@[simp] theorem inRanges_cons (lo hi : Nat) (rs : List (Nat × Nat)) (n : Nat) :
    inRanges ((lo, hi) :: rs) n = (lo ≤ n && n ≤ hi || inRanges rs n) := rfl

end GoldenTree.Text
