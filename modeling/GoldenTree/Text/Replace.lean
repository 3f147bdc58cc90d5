/-! Replacement of every occurrence of a character, or of a pair of distinct neighbours, from left
to right. -/
namespace GoldenTree.Text

def replaceChar (old : Char) (new : List Char) (s : List Char) : List Char :=
  s.flatMap fun c => if c = old then new else [c]

@[simp] theorem replaceChar_nil (old : Char) (new : List Char) : replaceChar old new [] = [] := rfl

@[simp] theorem replaceChar_cons (old : Char) (new : List Char) (c : Char) (s : List Char) :
    replaceChar old new (c :: s) = (if c = old then new else [c]) ++ replaceChar old new s := rfl

@[simp] theorem replaceChar_append (old : Char) (new s t : List Char) :
    replaceChar old new (s ++ t) = replaceChar old new s ++ replaceChar old new t := by
  simp [replaceChar]

def replacePair (first second : Char) (new : List Char) : List Char → List Char
  | [] => []
  | [c] => [c]
  | c :: d :: r =>
    if c = first ∧ d = second then new ++ replacePair first second new r
    else c :: replacePair first second new (d :: r)

end GoldenTree.Text
