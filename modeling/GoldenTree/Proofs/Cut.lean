import Mathlib.Data.List.TakeWhile

/-! Lists cut where a test first fails. -/
namespace GoldenTree

variable {α : Type} {p : α → Bool} {front rest : List α}

/-- An element behind some others is in one of the two parts of a list. -/
theorem append_eq_append_cons {a : α} {before after : List α}
    (h : front ++ rest = before ++ a :: after) :
    (∃ behind, front = before ++ a :: behind) ∨
      ∃ between, before = front ++ between ∧ rest = between ++ a :: after := by
  rcases List.append_eq_append_iff.mp h with ⟨between, hbefore, hrest⟩ | ⟨behind, hfront, hafter⟩
  · exact .inr ⟨between, hbefore, hrest⟩
  · cases behind with
    | nil => exact .inr ⟨[], by simpa using hfront.symm, hafter.symm⟩
    | cons first behind =>
      obtain ⟨rfl, -⟩ := List.cons.inj hafter
      exact .inl ⟨behind, hfront⟩

theorem takeWhile_append_of_head (hrest : ∀ a ∈ rest.head?, p a = false) :
    (front ++ rest).takeWhile p = front.takeWhile p := by
  induction front with
  | nil =>
    cases rest with
    | nil => rfl
    | cons a rest => simp [hrest a rfl]
  | cons a front ih =>
    by_cases ha : p a = true
    · simp [ha, ih]
    · simp [ha]

theorem dropWhile_append_of_head (hrest : ∀ a ∈ rest.head?, p a = false) :
    (front ++ rest).dropWhile p = front.dropWhile p ++ rest := by
  induction front with
  | nil =>
    cases rest with
    | nil => rfl
    | cons a rest => simp [hrest a rfl]
  | cons a front ih =>
    by_cases ha : p a = true
    · simp [ha, ih]
    · simp [ha]

theorem takeWhile_append_stop (hfront : ∀ a ∈ front, p a = true)
    (hrest : ∀ a ∈ rest.head?, p a = false) : (front ++ rest).takeWhile p = front := by
  rw [takeWhile_append_of_head hrest, List.takeWhile_eq_self_iff.mpr hfront]

theorem dropWhile_append_stop (hfront : ∀ a ∈ front, p a = true)
    (hrest : ∀ a ∈ rest.head?, p a = false) : (front ++ rest).dropWhile p = rest := by
  rw [dropWhile_append_of_head hrest, List.dropWhile_eq_nil_iff.mpr hfront, List.nil_append]

end GoldenTree
