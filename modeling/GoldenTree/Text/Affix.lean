/-! What stands after a given beginning, or before a given end. -/
namespace GoldenTree.Text

/-- The rest of `s` after the beginning `p`. -/
def after? : (p s : List Char) → Option (List Char)
  | [], s => some s
  | _ :: _, [] => none
  | a :: p, c :: s => if a = c then after? p s else none

theorem after?_eq_some_iff {p s t : List Char} : after? p s = some t ↔ s = p ++ t := by
  induction p generalizing s with
  | nil => simp [after?]
  | cons a p ih =>
    cases s with
    | nil => simp [after?]
    | cons c s =>
      by_cases h : a = c
      · simp [after?, h, ih]
      · simp [after?, h, Ne.symm h]

/-- The part of `s` before the end `q`. -/
def before? (q s : List Char) : Option (List Char) :=
  (after? q.reverse s.reverse).map List.reverse

theorem before?_eq_some_iff {q s t : List Char} : before? q s = some t ↔ s = t ++ q := by
  simp only [before?, Option.map_eq_some_iff, after?_eq_some_iff]
  constructor
  · rintro ⟨r, h, rfl⟩
    simpa using congrArg List.reverse h
  · rintro rfl
    exact ⟨t.reverse, by simp, by simp⟩

end GoldenTree.Text
