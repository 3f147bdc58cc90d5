import GoldenTree.Reference.Line
import GoldenTree.Text.Lines
import GoldenTree.Tree.Basic

/-! The written form of reference dumps. An element has one line, and that line is read as that
element. -/
namespace GoldenTree.Reference

open Text

namespace Element

/-- The elements of the four marked forms, with parts that their forms admit. -/
def Marked : Element → Prop
  | rule type => type ≠ "" ∧ ∀ c ∈ type.toList, isUpper c
  | token type text => type ≠ "" ∧ (∀ c ∈ type.toList, isTypeChar c) ∧ '\n' ∉ text.toList
  | error description => '\n' ∉ description.toList
  | whitespace content => '\n' ∉ content.toList
  | other _ => False

/-- The elements that a line can say. What is of no marked form stands for itself. -/
def Valid : Element → Prop
  | other content => '\n' ∉ content.toList ∧ ∀ e : Element, e.Marked → e.render ≠ content.toList
  | e => e.Marked

theorem onLine?_eq_some_iff {s t : List Char} : onLine? s = some t ↔ '\n' ∉ s ∧ t = s := by
  by_cases h : '\n' ∈ s <;> simp [onLine?, h, eq_comm]

theorem rule?_eq_some_iff {s : List Char} {e : Element} :
    rule? s = some e ↔ ∃ type, e = rule type ∧ e.Marked ∧ e.render = s := by
  constructor
  · intro h
    simp only [rule?, Option.ite_none_right_eq_some, Option.some.injEq, Bool.and_eq_true,
      Bool.not_eq_true', List.isEmpty_eq_false_iff, List.all_eq_true] at h
    obtain ⟨⟨nonempty, upper⟩, rfl⟩ := h
    exact ⟨_, rfl, ⟨by simpa using nonempty, by simpa using upper⟩, String.toList_ofList⟩
  · rintro ⟨type, rfl, ⟨nonempty, upper⟩, rfl⟩
    have nonempty' : type.toList ≠ [] := by simpa using nonempty
    simpa [rule?, render, nonempty'] using upper

theorem token?_eq_some_iff {s : List Char} {e : Element} :
    token? s = some e ↔ ∃ type text, e = token type text ∧ e.Marked ∧ e.render = s := by
  constructor
  · intro h
    simp only [token?, Option.bind_eq_bind, Option.bind_eq_some_iff, after?_eq_some_iff,
      before?_eq_some_iff, onLine?_eq_some_iff] at h
    obtain ⟨rest, rfl, tail, htail, text, ⟨_, rfl, htext, rfl⟩, h⟩ := h
    simp only [Option.ite_none_left_eq_some, Option.some.injEq, List.isEmpty_iff] at h
    obtain ⟨nonempty, rfl⟩ := h
    refine ⟨_, _, rfl, ⟨by simpa using nonempty, ?_, by simpa using htext⟩, ?_⟩
    · intro c hc
      rw [String.toList_ofList] at hc
      exact (List.all_eq_true.1 List.all_takeWhile) c hc
    · have whole := List.takeWhile_append_dropWhile (p := isTypeChar) (l := rest)
      rw [htail] at whole
      conv => rhs; rw [← whole]
      simp [render]
  · rintro ⟨type, text, rfl, ⟨nonempty, letters, line⟩, rfl⟩
    have nonempty' : type.toList ≠ [] := by simpa using nonempty
    have paren : isTypeChar ')' = false := by decide
    have taken : (type.toList ++ (")('".toList ++ (text.toList ++ "')".toList))).takeWhile
        isTypeChar = type.toList := by
      simp [List.takeWhile_append_of_pos letters, paren]
    have dropped : (type.toList ++ (")('".toList ++ (text.toList ++ "')".toList))).dropWhile
        isTypeChar = ")('".toList ++ (text.toList ++ "')".toList) := by
      simp [List.dropWhile_append_of_pos letters, paren]
    simp only [token?, Option.bind_eq_bind, Option.bind_eq_some_iff, after?_eq_some_iff,
      before?_eq_some_iff, onLine?_eq_some_iff]
    refine ⟨type.toList ++ (")('".toList ++ (text.toList ++ "')".toList)), by simp [render], _,
      dropped, text.toList, ⟨_, rfl, line, rfl⟩, ?_⟩
    rw [taken]
    simp [nonempty']

theorem error?_eq_some_iff {s : List Char} {e : Element} :
    error? s = some e ↔ ∃ description, e = error description ∧ e.Marked ∧ e.render = s := by
  simp only [error?, Option.bind_eq_bind, Option.bind_eq_some_iff, after?_eq_some_iff,
    onLine?_eq_some_iff, Option.pure_def, Option.some.injEq]
  constructor
  · rintro ⟨description, ⟨_, rfl, line, rfl⟩, rfl⟩
    exact ⟨_, rfl, by simpa [Marked] using line, by simp [render]⟩
  · rintro ⟨description, rfl, line, rfl⟩
    exact ⟨description.toList, ⟨_, by simp [render], line, rfl⟩, by simp⟩

theorem whitespace?_eq_some_iff {s : List Char} {e : Element} :
    whitespace? s = some e ↔ ∃ content, e = whitespace content ∧ e.Marked ∧ e.render = s := by
  simp only [whitespace?, Option.bind_eq_bind, Option.bind_eq_some_iff, after?_eq_some_iff,
    before?_eq_some_iff, onLine?_eq_some_iff, Option.pure_def, Option.some.injEq]
  constructor
  · rintro ⟨rest, rfl, content, ⟨_, rfl, line, rfl⟩, rfl⟩
    exact ⟨_, rfl, by simpa [Marked] using line, by simp [render]⟩
  · rintro ⟨content, rfl, line, rfl⟩
    exact ⟨_, by simp [render], content.toList, ⟨_, rfl, line, rfl⟩, by simp⟩

/-- What a marked form reads from a line is marked and has that line, and nothing else is. -/
theorem marked_iff {s : List Char} {e : Element} :
    e.Marked ∧ e.render = s ↔
      rule? s = some e ∨ token? s = some e ∨ error? s = some e ∨ whitespace? s = some e := by
  simp only [rule?_eq_some_iff, token?_eq_some_iff, error?_eq_some_iff, whitespace?_eq_some_iff]
  constructor
  · intro h
    cases e with
    | rule type => exact .inl ⟨type, rfl, h⟩
    | token type text => exact .inr (.inl ⟨type, text, rfl, h⟩)
    | error description => exact .inr (.inr (.inl ⟨description, rfl, h⟩))
    | whitespace content => exact .inr (.inr (.inr ⟨content, rfl, h⟩))
    | other content => exact h.1.elim
  · rintro (⟨_, _, h⟩ | ⟨_, _, _, h⟩ | ⟨_, _, h⟩ | ⟨_, _, h⟩) <;> exact h

theorem parse?_of_marked {e : Element} (h : e.Marked) : parse? e.render = some e := by
  cases e with
  | rule type =>
    have found := rule?_eq_some_iff.2 ⟨type, rfl, h, rfl⟩
    simp [parse?, found]
  | token type text =>
    have found := token?_eq_some_iff.2 ⟨type, text, rfl, h, rfl⟩
    have before : rule? (token type text).render = none := by simp [render, rule?, isUpper]
    simp [parse?, before, found]
  | error description =>
    have found := error?_eq_some_iff.2 ⟨description, rfl, h, rfl⟩
    have before : rule? (error description).render = none := by simp [render, rule?, isUpper]
    have before' : token? (error description).render = none := by simp [render, token?, after?]
    simp [parse?, before, before', found]
  | whitespace content =>
    have found := whitespace?_eq_some_iff.2 ⟨content, rfl, h, rfl⟩
    have before : rule? (whitespace content).render = none := by simp [render, rule?, isUpper]
    have before' : token? (whitespace content).render = none := by simp [render, token?, after?]
    have before'' : error? (whitespace content).render = none := by
      rw [Option.eq_none_iff_forall_ne_some]
      intro e he
      obtain ⟨description, rfl, -, same⟩ := error?_eq_some_iff.1 he
      have fourth := congrArg (·[3]?) same
      simp [render] at fourth
    simp [parse?, before, before', before'', found]
  | other content => exact h.elim

theorem other?_eq_some_iff {s : List Char} {e : Element} :
    other? s = some e ↔ ∃ content, e = other content ∧ '\n' ∉ content.toList ∧ e.render = s := by
  simp only [other?, Option.bind_eq_bind, Option.bind_eq_some_iff, onLine?_eq_some_iff,
    Option.pure_def, Option.some.injEq]
  constructor
  · rintro ⟨content, ⟨line, rfl⟩, rfl⟩
    exact ⟨_, rfl, by simpa using line, by simp [render]⟩
  · rintro ⟨content, rfl, line, rfl⟩
    exact ⟨_, ⟨line, rfl⟩, by simp [render]⟩

theorem Marked.valid {e : Element} (h : e.Marked) : e.Valid := by
  cases e with
  | other content => exact h.elim
  | _ => exact h

/-- A line says an element exactly if it is the line of that element. -/
theorem parse?_eq_some_iff {s : List Char} {e : Element} :
    parse? s = some e ↔ e.Valid ∧ e.render = s := by
  constructor
  · intro h
    simp only [parse?, Option.orElse_eq_or, Option.or_eq_some_iff] at h
    have marked := (marked_iff (s := s) (e := e)).2
    have valid : e.Marked ∧ e.render = s → e.Valid ∧ e.render = s := fun h => ⟨h.1.valid, h.2⟩
    rcases h with h | ⟨none₁, h | ⟨none₂, h | ⟨none₃, h | ⟨none₄, h⟩⟩⟩⟩
    · exact valid (marked (.inl h))
    · exact valid (marked (.inr (.inl h)))
    · exact valid (marked (.inr (.inr (.inl h))))
    · exact valid (marked (.inr (.inr (.inr h))))
    · obtain ⟨content, rfl, line, rfl⟩ := other?_eq_some_iff.1 h
      refine ⟨⟨line, fun e he same => ?_⟩, rfl⟩
      have read := marked_iff.1 ⟨he, same⟩
      change rule? content.toList = none at none₁
      change token? content.toList = none at none₂
      change error? content.toList = none at none₃
      change whitespace? content.toList = none at none₄
      simp [none₁, none₂, none₃, none₄] at read
  · rintro ⟨valid, rfl⟩
    cases e with
    | other content =>
      obtain ⟨line, unmarked⟩ := valid
      have unread : ∀ e, ¬ (rule? content.toList = some e ∨ token? content.toList = some e ∨
          error? content.toList = some e ∨ whitespace? content.toList = some e) :=
        fun e h => unmarked e (marked_iff.2 h).1 (marked_iff.2 h).2
      have none₁ := Option.eq_none_iff_forall_ne_some.2 fun e h => unread e (.inl h)
      have none₂ := Option.eq_none_iff_forall_ne_some.2 fun e h => unread e (.inr (.inl h))
      have none₃ := Option.eq_none_iff_forall_ne_some.2 fun e h => unread e (.inr (.inr (.inl h)))
      have none₄ := Option.eq_none_iff_forall_ne_some.2 fun e h => unread e (.inr (.inr (.inr h)))
      have found := other?_eq_some_iff.2 ⟨content, rfl, line, rfl⟩
      simp only [render] at found ⊢
      simp [parse?, none₁, none₂, none₃, none₄, found]
    | _ => exact parse?_of_marked valid

end Element

/-- The line of a node at a depth. -/
def line (entry : Nat × Element) : List Char :=
  List.replicate (indentWidth * entry.1) ' ' ++ entry.2.render

/-- A dump of a forest below a header line, one node a line, with its trees at `level`. -/
def write (level : Nat) (header : String) (forest : List (Tree Element)) : String :=
  String.ofList (join ['\n'] (header.toList :: (Tree.flatForest level forest).map line))

end GoldenTree.Reference
