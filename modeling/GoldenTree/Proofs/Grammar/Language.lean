import GoldenTree.Grammar.Derivation
import Mathlib.Tactic.Common

/-! The words of the grammar, read off its bodies: a word of a rule is a word of its body, and
each way of building a body is one way of putting words together. -/
namespace GoldenTree.Grammar

theorem derives_nil_iff {word : List Symbol} : Derives [] word ↔ word = [] := by
  constructor
  · intro h
    cases h
    rfl
  · rintro rfl
    exact .nil

/-- A derivation of two rows falls apart into one of each. -/
theorem derives_append_iff {row row' : List Part} {word : List Symbol} :
    Derives (row ++ row') word ↔ ∃ u v, word = u ++ v ∧ Derives row u ∧ Derives row' v := by
  constructor
  · intro h
    generalize hrow : row ++ row' = whole at h
    induction h generalizing row with
    | nil =>
      obtain ⟨rfl, rfl⟩ := List.append_eq_nil_iff.mp hrow
      exact ⟨[], [], rfl, .nil, .nil⟩
    | @symbol s rest word others ih =>
      cases row with
      | nil =>
        subst hrow
        exact ⟨[], s :: word, rfl, .nil, .symbol others⟩
      | cons part row =>
        obtain ⟨rfl, hrest⟩ := List.cons.inj hrow
        obtain ⟨u, v, rfl, hu, hv⟩ := ih hrest
        exact ⟨s :: u, v, rfl, .symbol hu, hv⟩
    | @rule r new rest word production expanded ih =>
      cases row with
      | nil =>
        subst hrow
        exact ⟨[], word, rfl, .nil, .rule production expanded⟩
      | cons part row =>
        obtain ⟨rfl, hrest⟩ := List.cons.inj hrow
        have hnew : (new ++ row) ++ row' = new ++ rest := by
          rw [List.append_assoc]
          exact congrArg (new ++ ·) hrest
        obtain ⟨u, v, rfl, hu, hv⟩ := ih hnew
        exact ⟨u, v, rfl, .rule production hu, hv⟩
  · rintro ⟨u, v, rfl, hu, hv⟩
    exact hu.append hv

/-- A word put together from words of one kind. -/
inductive Repeats (item : List Symbol → Prop) : List Symbol → Prop where
  | none : Repeats item []
  | more {u v : List Symbol} (first : item u) (others : Repeats item v) : Repeats item (u ++ v)

namespace Body

/-- The words that the rows of a body derive. -/
def Matches (b : Body) (word : List Symbol) : Prop := ∃ row, b.Produces row ∧ Derives row word

@[simp] theorem matches_symbol_iff {s : Symbol} {word : List Symbol} :
    (symbol s).Matches word ↔ word = [s] := by
  constructor
  · rintro ⟨row, production, h⟩
    obtain rfl := produces_part_iff.mp production
    cases h with
    | symbol others => rw [derives_nil_iff.mp others]
  · rintro rfl
    exact ⟨_, .part _, .symbol .nil⟩

theorem derives_rule_iff {r : Rule} {word : List Symbol} :
    Derives [.rule r] word ↔ r.body.Matches word := by
  constructor
  · intro h
    cases h with
    | rule production expanded => exact ⟨_, production, by simpa using expanded⟩
  · rintro ⟨row, production, h⟩
    exact .rule production (by simpa using h)

@[simp] theorem matches_rule_iff {r : Rule} {word : List Symbol} :
    (rule r).Matches word ↔ r.body.Matches word := by
  rw [← derives_rule_iff]
  constructor
  · rintro ⟨row, production, h⟩
    obtain rfl := produces_part_iff.mp production
    exact h
  · intro h
    exact ⟨_, .part _, h⟩

@[simp] theorem matches_empty_iff {word : List Symbol} : empty.Matches word ↔ word = [] := by
  constructor
  · rintro ⟨row, production, h⟩
    cases production
    exact derives_nil_iff.mp h
  · rintro rfl
    exact ⟨_, .empty, .nil⟩

@[simp] theorem matches_seq_iff {a b : Body} {word : List Symbol} :
    (seq a b).Matches word ↔ ∃ u v, word = u ++ v ∧ a.Matches u ∧ b.Matches v := by
  constructor
  · rintro ⟨row, production, h⟩
    cases production with
    | seq first second =>
      obtain ⟨u, v, rfl, hu, hv⟩ := derives_append_iff.mp h
      exact ⟨u, v, rfl, ⟨_, first, hu⟩, ⟨_, second, hv⟩⟩
  · rintro ⟨u, v, rfl, ⟨_, first, hu⟩, ⟨_, second, hv⟩⟩
    exact ⟨_, .seq first second, hu.append hv⟩

@[simp] theorem matches_alt_iff {a b : Body} {word : List Symbol} :
    (alt a b).Matches word ↔ a.Matches word ∨ b.Matches word := by
  constructor
  · rintro ⟨row, production, h⟩
    cases production with
    | left chosen => exact .inl ⟨row, chosen, h⟩
    | right chosen => exact .inr ⟨row, chosen, h⟩
  · rintro (⟨row, chosen, h⟩ | ⟨row, chosen, h⟩)
    · exact ⟨row, .left chosen, h⟩
    · exact ⟨row, .right chosen, h⟩

@[simp] theorem matches_many_iff {a : Body} {word : List Symbol} :
    (many a).Matches word ↔ Repeats a.Matches word := by
  constructor
  · rintro ⟨row, production, h⟩
    generalize hb : many a = b at production
    induction production generalizing word with
    | part | empty | seq | left | right => cases hb
    | none =>
      rw [derives_nil_iff.mp h]
      exact .none
    | more item others _ ih =>
      cases hb
      obtain ⟨u, v, rfl, hu, hv⟩ := derives_append_iff.mp h
      exact .more ⟨_, item, hu⟩ (ih hv rfl)
  · intro h
    induction h with
    | none => exact ⟨[], .none, .nil⟩
    | more first others ih =>
      obtain ⟨row, item, hu⟩ := first
      obtain ⟨rest, items, hv⟩ := ih
      exact ⟨row ++ rest, .more item items, hu.append hv⟩

@[simp] theorem matches_optional_iff {a : Body} {word : List Symbol} :
    (optional a).Matches word ↔ a.Matches word ∨ word = [] := by
  simp [optional]

@[simp] theorem matches_sequence_nil {word : List Symbol} :
    (sequence []).Matches word ↔ word = [] := matches_empty_iff

@[simp] theorem matches_sequence_cons {a : Body} {bodies : List Body} {word : List Symbol} :
    (sequence (a :: bodies)).Matches word ↔
      ∃ u v, word = u ++ v ∧ a.Matches u ∧ (sequence bodies).Matches v := matches_seq_iff

end Body

end GoldenTree.Grammar
