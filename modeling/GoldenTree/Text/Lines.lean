/-! Text as a list of lines. -/
namespace GoldenTree.Text

/-- The pieces between the separators, one more than there are separators. -/
def splitAt (sep : Char) : List Char → List (List Char)
  | [] => [[]]
  | c :: r =>
    if c = sep then [] :: splitAt sep r
    else match splitAt sep r with
      | [] => [[c]]
      | piece :: pieces => (c :: piece) :: pieces

theorem splitAt_ne_nil (sep : Char) (s : List Char) : splitAt sep s ≠ [] := by
  cases s with
  | nil => simp [splitAt]
  | cons c r =>
    unfold splitAt
    split
    · simp
    · split <;> simp

/-- Removes one final carriage return. -/
def dropReturn (s : List Char) : List Char :=
  if s.getLast? = some '\r' then s.dropLast else s

/-- Each line ends at a newline; a carriage return just before that newline belongs to the line
break. What follows the last newline is a line only if it is not empty. -/
def lines (s : List Char) : List (List Char) :=
  terminated (splitAt '\n' s)
where
  terminated : List (List Char) → List (List Char)
    | [] => []
    | [rest] => if rest.isEmpty then [] else [rest]
    | line :: pieces => dropReturn line :: terminated pieces

/-- The pieces with `sep` between each two. -/
def join (sep : List Char) : List (List Char) → List Char
  | [] => []
  | [piece] => piece
  | piece :: pieces => piece ++ sep ++ join sep pieces

theorem join_splitAt (sep : Char) (s : List Char) : join [sep] (splitAt sep s) = s := by
  induction s with
  | nil => rfl
  | cons c r ih =>
    unfold splitAt
    split
    · rename_i h
      subst h
      cases hp : splitAt c r with
      | nil => exact absurd hp (splitAt_ne_nil c r)
      | cons piece pieces => rw [hp] at ih; simp [join, ih]
    · split
      · rename_i hp
        exact absurd hp (splitAt_ne_nil sep r)
      · rename_i piece pieces hp
        rw [hp] at ih
        cases pieces with
        | nil => simp only [join] at ih ⊢; rw [ih]
        | cons next rest => simp only [join] at ih ⊢; rw [← ih]; simp

/-- The lines of a string. -/
def linesOf (s : String) : List String := (lines s.toList).map String.ofList

/-- Every piece followed by a newline. -/
def unlines (pieces : List (List Char)) : List Char := pieces.flatMap (· ++ ['\n'])

end GoldenTree.Text
