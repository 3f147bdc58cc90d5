import GoldenTree.Proofs.Text.Pieces
import GoldenTree.Text.Position

/-! Positions counted on the way agree with positions taken from the whole text before them, and
they only move forward. -/
namespace GoldenTree.Text.Position

variable {s t : List Char} {c : Char}

theorem ofEnd_concat (s : List Char) (c : Char) : ofEnd (s ++ [c]) = (ofEnd s).next c := by
  obtain ⟨pieces, last, hsplit⟩ := exists_splitAt '\n' s
  have hs : splitAt '\n' s = pieces ++ [last] := by simpa using hsplit [] (by simp)
  by_cases hc : c = '\n'
  · subst hc
    have hbreak : splitAt '\n' (s ++ ['\n']) = pieces ++ [last] ++ [[]] := by
      rw [splitAt_append_sep, hs]
      rfl
    simp [ofEnd, next, hs, hbreak]
  · have hlast : splitAt '\n' (s ++ [c]) = pieces ++ [last ++ [c]] :=
      hsplit [c] (by simpa using Ne.symm hc)
    simp [ofEnd, next, hs, hlast, hc]

/-- The end of a longer text is found from where the shorter one ends. -/
theorem ofEnd_append (s t : List Char) : ofEnd (s ++ t) = (ofEnd s).advance t := by
  induction t generalizing s with
  | nil => simp
  | cons c t ih =>
    have hc : s ++ c :: t = s ++ [c] ++ t := by simp
    rw [hc, ih, ofEnd_concat, advance_cons]

/-- Positions in the order in which a text is read. -/
instance : LE Position := ⟨fun p q => p.line < q.line ∨ p.line = q.line ∧ p.column ≤ q.column⟩

variable {p q r : Position}

theorem le_iff : p ≤ q ↔ p.line < q.line ∨ p.line = q.line ∧ p.column ≤ q.column := .rfl

theorem le_refl (p : Position) : p ≤ p := .inr ⟨rfl, Nat.le_refl _⟩

theorem le_trans (hpq : p ≤ q) (hqr : q ≤ r) : p ≤ r := by
  rw [le_iff] at *
  omega

instance : LT Position := ⟨fun p q => p.line < q.line ∨ p.line = q.line ∧ p.column < q.column⟩

theorem lt_iff : p < q ↔ p.line < q.line ∨ p.line = q.line ∧ p.column < q.column := .rfl

theorem le_of_lt (h : p < q) : p ≤ q := h.imp_right fun h => ⟨h.1, Nat.le_of_lt h.2⟩

theorem lt_of_lt_of_le (hpq : p < q) (hqr : q ≤ r) : p < r := by
  rw [lt_iff] at *
  rw [le_iff] at hqr
  omega

theorem lt_next (p : Position) (c : Char) : p < p.next c := by
  rw [next, lt_iff]
  split
  · exact .inl (Nat.lt_succ_self _)
  · exact .inr ⟨rfl, Nat.lt_succ_self _⟩

theorem le_next (p : Position) (c : Char) : p ≤ p.next c := le_of_lt (lt_next p c)

theorem le_advance (p : Position) (s : List Char) : p ≤ p.advance s := by
  induction s generalizing p with
  | nil => exact le_refl p
  | cons c s ih => exact le_trans (le_next p c) (ih (p.next c))

/-- Any text at all moves a position forward. -/
theorem lt_advance (hs : s ≠ []) : p < p.advance s := by
  obtain ⟨c, rest, rfl⟩ := List.exists_cons_of_ne_nil hs
  exact lt_of_lt_of_le (lt_next p c) (le_advance _ rest)

end GoldenTree.Text.Position
