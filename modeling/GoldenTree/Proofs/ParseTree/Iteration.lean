import GoldenTree.ParseTree.Basic

/-! Iterating over a tree with a stack. At every moment what the stack still has to give are the
subtrees of its trees in pre-order, read from the end of the stack. -/
namespace GoldenTree.ParseTree

variable {t : ParseTree} {stack rest nodes later : List ParseTree}

mutual

theorem length_subtrees : ∀ t : ParseTree, t.subtrees.length = t.nodeCount
  | rule _ children => by
    rw [subtrees, nodeCount, List.length_cons, length_forestSubtrees children]
  | terminal _ _ => rfl

/-- A forest has as many subtrees as nodes. -/
theorem length_forestSubtrees : ∀ ts : List ParseTree, (forestSubtrees ts).length = forestCount ts
  | [] => rfl
  | t :: ts => by
    rw [forestSubtrees, forestCount, List.length_append, length_subtrees t,
      length_forestSubtrees ts]

end

@[simp] theorem forestSubtrees_append (ts us : List ParseTree) :
    forestSubtrees (ts ++ us) = forestSubtrees ts ++ forestSubtrees us := by
  induction ts with
  | nil => rfl
  | cons t ts ih => simp [forestSubtrees, ih]

theorem subtrees_eq (t : ParseTree) : t.subtrees = t :: forestSubtrees t.children := by
  cases t <;> rfl

/-- What a stack still has to give. -/
def pending (stack : List ParseTree) : List ParseTree := forestSubtrees stack.reverse

@[simp] theorem pending_nil : pending [] = [] := rfl

theorem pending_singleton (t : ParseTree) : pending [t] = t.subtrees := by
  simp [pending, forestSubtrees]

/-- A tree that is taken off is the first of its subtrees; the others are those of its children. -/
theorem pending_concat (stack : List ParseTree) (t : ParseTree) :
    pending (stack ++ [t]) = t :: pending (stack ++ t.children.reverse) := by
  simp [pending, forestSubtrees, subtrees_eq t]

/-- One call gives the first of what the stack has to give, and leaves the rest of it. -/
theorem pending_of_next? (h : next? stack = some (t, rest)) :
    pending stack = t :: pending rest := by
  obtain ⟨below, rfl, rfl⟩ := next?_eq_some_iff.mp h
  exact pending_concat below t

theorem pending_eq_nil_iff : pending stack = [] ↔ next? stack = none := by
  cases hnext : next? stack with
  | none => simp [next?_eq_none_iff.mp hnext]
  | some called => simp [pending_of_next? hnext]

theorem drain_eq_pending (stack : List ParseTree) : drain stack = pending stack := by
  fun_induction drain stack with
  | case1 stack h => exact (pending_eq_nil_iff.mpr h).symm
  | case2 stack t rest h ih => rw [ih, pending_of_next? h]

/-- Calls on the one stack hand out the nodes and leave the other stack. -/
inductive Yields : List ParseTree → List ParseTree → List ParseTree → Prop
  | nil (stack : List ParseTree) : Yields stack [] stack
  | cons {stack rest last nodes : List ParseTree} {t : ParseTree} :
      next? stack = some (t, rest) → Yields rest nodes last → Yields stack (t :: nodes) last

theorem Yields.pending_eq (h : Yields stack nodes rest) :
    pending stack = nodes ++ pending rest := by
  induction h with
  | nil stack => rfl
  | cons hnext _ ih => rw [pending_of_next? hnext, ih, List.cons_append]

/-- However what a stack has to give is cut, there are calls that give the first part. -/
theorem exists_yields (h : pending stack = nodes ++ later) :
    ∃ rest, Yields stack nodes rest ∧ pending rest = later := by
  induction nodes generalizing stack with
  | nil => exact ⟨stack, .nil stack, h⟩
  | cons node nodes ih =>
    cases hnext : next? stack with
    | none =>
      rw [pending_eq_nil_iff.mpr hnext] at h
      cases h
    | some called =>
      obtain ⟨t, rest⟩ := called
      rw [pending_of_next? hnext, List.cons_append, List.cons.injEq] at h
      obtain ⟨rfl, hrest⟩ := h
      obtain ⟨last, hyields, hlast⟩ := ih hrest
      exact ⟨last, .cons hnext hyields, hlast⟩

theorem exists_yields_iff :
    (∃ rest, Yields stack nodes rest ∧ pending rest = later) ↔ pending stack = nodes ++ later := by
  constructor
  · rintro ⟨rest, hyields, rfl⟩
    exact hyields.pending_eq
  · exact exists_yields

/-- An iterator over a tree hands out its nodes in pre-order, as many as the tree has, and then
nothing: calls that go on until a call finds nothing give the whole pre-order, and those that stop
anywhere a first part of it. -/
theorem iterate_preorder (t : ParseTree) :
    (∀ nodes, (∃ rest, Yields [t] nodes rest ∧ next? rest = none) ↔ nodes = t.subtrees) ∧
    (∀ nodes, (∃ rest, Yields [t] nodes rest) ↔ nodes <+: t.subtrees) ∧
    t.iterate = t.subtrees ∧ t.iterate.length = t.nodeCount := by
  have hiterate : t.iterate = t.subtrees := by
    rw [iterate, drain_eq_pending, pending_singleton]
  refine ⟨fun nodes => ?_, fun nodes => ?_, hiterate, ?_⟩
  · simp only [← pending_eq_nil_iff, exists_yields_iff, pending_singleton, List.append_nil]
    exact eq_comm
  · constructor
    · rintro ⟨rest, hyields⟩
      have hall := hyields.pending_eq
      rw [pending_singleton] at hall
      exact ⟨pending rest, hall.symm⟩
    · rintro ⟨later, hlater⟩
      rw [← pending_singleton] at hlater
      obtain ⟨rest, hyields, -⟩ := exists_yields hlater.symm
      exact ⟨rest, hyields⟩
  · rw [hiterate, length_subtrees]

end GoldenTree.ParseTree
