import Mathlib.Tactic.Common

/-! Computations that may fail: a sequence of steps succeeds just if every step does. -/
namespace GoldenTree

variable {ε α β : Type} {x : Except ε α} {f : α → Except ε β} {a b : α} {c : β}

theorem bind_eq_ok : (x >>= f) = .ok c ↔ ∃ a, x = .ok a ∧ f a = .ok c := by
  cases x <;> simp [bind, Except.bind]

theorem pure_eq_ok : (pure a : Except ε α) = .ok b ↔ a = b := by simp [pure, Except.pure]

theorem map_eq_ok {f : α → β} : x.map f = .ok c ↔ ∃ a, x = .ok a ∧ f a = c := by
  cases x <;> simp [Except.map]

theorem map_map {γ : Type} {f : α → β} {g : β → γ} : (x.map f).map g = x.map (g ∘ f) := by
  cases x <;> rfl

end GoldenTree
