/-! White space and the trimming of text. A character is blank if it has the `White_Space`
property. -/
namespace GoldenTree.Text

def isBlank (c : Char) : Bool :=
  let n := c.toNat
  (9 ≤ n && n ≤ 13) || n == 0x20 || n == 0x85 || n == 0xA0 || n == 0x1680 ||
    (0x2000 ≤ n && n ≤ 0x200A) || n == 0x2028 || n == 0x2029 || n == 0x202F || n == 0x205F ||
    n == 0x3000

/-- The space and the control characters below it. -/
def isEdge (c : Char) : Bool := c.toNat ≤ 0x20

/-- Removes the longest suffix whose characters all satisfy `p`. -/
def dropEndWhile (p : Char → Bool) (s : List Char) : List Char :=
  (s.reverse.dropWhile p).reverse

def trimStart (s : List Char) : List Char := s.dropWhile isBlank

def trimEnd (s : List Char) : List Char := dropEndWhile isBlank s

def trim (s : List Char) : List Char := trimEnd (trimStart s)

/-- The longest blank prefix. -/
def margin (s : List Char) : List Char := s.takeWhile isBlank

@[simp] theorem margin_append_trimStart (s : List Char) : margin s ++ trimStart s = s :=
  List.takeWhile_append_dropWhile

@[simp] theorem dropEndWhile_nil (p : Char → Bool) : dropEndWhile p [] = [] := rfl

@[simp] theorem dropEndWhile_append_singleton (p : Char → Bool) (s : List Char) (c : Char) :
    dropEndWhile p (s ++ [c]) = if p c then dropEndWhile p s else s ++ [c] := by
  by_cases h : p c <;> simp [dropEndWhile, h]

end GoldenTree.Text
