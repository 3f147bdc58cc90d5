import GoldenTree.Text.Lines

/-! Positions in a text. Lines and columns are counted from one, and only a newline ends a line. -/
namespace GoldenTree.Text

structure Position where
  line : Nat
  column : Nat
  deriving Repr, DecidableEq, Inhabited

namespace Position

def start : Position := ⟨1, 1⟩

/-- The position after one more character. -/
def next (p : Position) (c : Char) : Position :=
  if c = '\n' then ⟨p.line + 1, 1⟩ else ⟨p.line, p.column + 1⟩

/-- The position after more text. -/
def advance (p : Position) (s : List Char) : Position := s.foldl next p

@[simp] theorem advance_nil (p : Position) : p.advance [] = p := rfl

@[simp] theorem advance_cons (p : Position) (c : Char) (s : List Char) :
    p.advance (c :: s) = (p.next c).advance s := rfl

@[simp] theorem advance_append (p : Position) (s t : List Char) :
    p.advance (s ++ t) = (p.advance s).advance t := by simp [advance]

/-- The position at the end of a text: as many lines as it has pieces between newlines, and the
column after the last of them. -/
def ofEnd (s : List Char) : Position :=
  let pieces := splitAt '\n' s
  ⟨pieces.length, (pieces.getLast?.getD []).length + 1⟩

end Position

end GoldenTree.Text
