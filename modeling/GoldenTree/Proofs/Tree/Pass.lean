import GoldenTree.Proofs.Tree.Outline

/-! Reading an outline in one pass, line by line, with the nodes that may still get children on a
stack. A node is put into the tree only when it gets no more of them. The pass gives the tree of the
outline. -/
namespace GoldenTree.Tree

variable {α ι : Type}

/-- The tree with one more child behind the others. -/
def attach (parent child : Tree α) : Tree α := node parent.label (parent.children ++ [child])

/-- The root with the children that are complete, and the nodes that still grow, the innermost
first, each with its depth. -/
structure Pass (α : Type) where
  root : Tree α
  growing : List (Nat × Tree α)

namespace Pass

variable {p : Pass α}

def start (root : α) : Pass α := ⟨node root [], []⟩

/-- The innermost node is complete. -/
def close : Pass α → Pass α
  | ⟨root, []⟩ => ⟨root, []⟩
  | ⟨root, [(_, t)]⟩ => ⟨root.attach t, []⟩
  | ⟨root, (_, t) :: (depth, parent) :: outer⟩ => ⟨root, (depth, parent.attach t) :: outer⟩

theorem length_close (p : Pass α) : p.close.growing.length = p.growing.length - 1 := by
  obtain ⟨root, _ | ⟨inner, _ | ⟨outer, rest⟩⟩⟩ := p <;> rfl

/-- All nodes are complete that are not less deep than `depth`. -/
def closeTo (depth : Nat) : Pass α → Pass α
  | ⟨root, []⟩ => ⟨root, []⟩
  | ⟨root, inner :: rest⟩ =>
    if depth ≤ inner.1 then closeTo depth (close ⟨root, inner :: rest⟩) else ⟨root, inner :: rest⟩
termination_by p => p.growing.length
decreasing_by simp [length_close]

/-- All nodes are complete. -/
def closeAll : Pass α → Tree α
  | ⟨root, []⟩ => root
  | ⟨root, inner :: rest⟩ => closeAll (close ⟨root, inner :: rest⟩)
termination_by p => p.growing.length
decreasing_by simp [length_close]

/-- One more node, which ends those that cannot be above it. -/
def read (p : Pass α) (entry : Nat × α) : Pass α :=
  let above := p.closeTo entry.1
  ⟨above.root, (entry.1, node entry.2 []) :: above.growing⟩

/-- The stack gets deeper inwards. -/
def Nested (p : Pass α) : Prop := p.growing.Pairwise fun inner outer => outer.1 < inner.1

/-- A growing node in front of a forest takes the deeper trees that come first. -/
def grow (growing : Nat × Tree α) (forest : List (Nat × Tree α)) : List (Nat × Tree α) :=
  let deeper := fun (later : Nat × Tree α) => decide (growing.1 < later.1)
  (growing.1, node growing.2.label (growing.2.children ++ (forest.takeWhile deeper).map (·.2))) ::
    forest.dropWhile deeper

/-- The tree that a pass comes to if what is still unread is a forest. -/
def outcome (p : Pass α) (forest : List (Nat × Tree α)) : Tree α :=
  node p.root.label
    (p.root.children ++ (p.growing.foldl (fun rest g => grow g rest) forest).map (·.2))

theorem grow_leaf (entry : Nat × α) (forest : List (Nat × Tree α)) :
    grow (entry.1, node entry.2 []) forest = adopt entry forest := rfl

section Grow

variable {g outer inner : Nat × Tree α} {forest : List (Nat × Tree α)}

theorem grow_nothing (h : ∀ later ∈ forest.head?, later.1 ≤ g.1) :
    grow g forest = g :: forest := by
  obtain ⟨depth, ⟨a, cs⟩⟩ := g
  cases forest with
  | nil => simp [grow]
  | cons later rest =>
    have hlater : later.1 ≤ depth := h later rfl
    simp [grow, Nat.not_lt.mpr hlater]

theorem grow_cons (h : outer.1 < inner.1) :
    grow outer (inner :: forest) = grow (outer.1, outer.2.attach inner.2) forest := by
  simp [grow, attach, h]

end Grow

section Step

variable (forest : List (Nat × Tree α))

/-- Completing the innermost node changes nothing if it takes nothing more. -/
theorem outcome_close (hnested : p.Nested)
    (h : ∀ g ∈ p.growing.head?, ∀ later ∈ forest.head?, later.1 ≤ g.1) :
    p.close.Nested ∧ p.close.outcome forest = p.outcome forest := by
  obtain ⟨root, _ | ⟨inner, _ | ⟨outer, rest⟩⟩⟩ := p
  · exact ⟨hnested, rfl⟩
  · have hinner := grow_nothing (h inner rfl)
    exact ⟨List.Pairwise.nil, by simp [outcome, close, attach, hinner]⟩
  · have hinner := grow_nothing (h inner rfl)
    obtain ⟨hdeeper, hrest⟩ := List.pairwise_cons.mp hnested
    have houter : grow outer (inner :: forest) = grow (outer.1, outer.2.attach inner.2) forest :=
      grow_cons (hdeeper outer (List.mem_cons_self ..))
    exact ⟨List.pairwise_cons.mpr (List.pairwise_cons.mp hrest),
      by simp [outcome, close, hinner, houter]⟩

/-- Completing all nodes down to a depth changes nothing if no deeper tree comes first. -/
theorem outcome_closeTo {depth : Nat} (hnested : p.Nested)
    (hforest : ∀ later ∈ forest.head?, later.1 ≤ depth) :
    (p.closeTo depth).Nested ∧ (p.closeTo depth).outcome forest = p.outcome forest ∧
      ∀ g ∈ (p.closeTo depth).growing.head?, g.1 < depth := by
  fun_induction closeTo depth p with
  | case1 root => exact ⟨hnested, rfl, by simp⟩
  | case2 root inner rest hle ih =>
    have hinner : ∀ g ∈ (inner :: rest).head?, ∀ later ∈ forest.head?, later.1 ≤ g.1 := by
      intro g hg later hlater
      obtain rfl : inner = g := by simpa using hg
      exact (hforest later hlater).trans hle
    obtain ⟨hclosed, houtcome⟩ := outcome_close forest hnested hinner
    obtain ⟨hnested', houtcome', hless⟩ := ih hclosed
    exact ⟨hnested', houtcome'.trans houtcome, hless⟩
  | case3 root inner rest hle => exact ⟨hnested, rfl, by simpa using hle⟩

/-- A node that is read adopts what it would adopt in front of what is unread. -/
theorem outcome_read (hnested : p.Nested) (entry : Nat × α) :
    (p.read entry).Nested ∧ (p.read entry).outcome forest = p.outcome (adopt entry forest) := by
  have hfirst : ∀ later ∈ (adopt entry forest).head?, later.1 ≤ entry.1 := by simp [adopt]
  obtain ⟨habove, houtcome, hless⟩ := outcome_closeTo (adopt entry forest) hnested hfirst
  refine ⟨List.pairwise_cons.mpr ⟨fun g hg => ?_, habove⟩, houtcome⟩
  -- The innermost node that is left is the deepest.
  cases hgrowing : (p.closeTo entry.1).growing with
  | nil =>
    rw [hgrowing] at hg
    cases hg
  | cons inner rest =>
    rw [Nested, hgrowing] at habove
    rw [hgrowing] at hg hless
    have hinner : inner.1 < entry.1 := hless inner rfl
    rcases List.mem_cons.mp hg with rfl | hg
    · exact hinner
    · exact ((List.pairwise_cons.mp habove).1 g hg).trans hinner

end Step

theorem closeAll_eq (hnested : p.Nested) : p.closeAll = p.outcome [] := by
  fun_induction closeAll p with
  | case1 root => cases root; simp [outcome]
  | case2 root inner rest ih =>
    obtain ⟨hclosed, houtcome⟩ := outcome_close [] hnested (by simp)
    rw [ih hclosed, houtcome]

/-- A pass over the rest of an outline comes to what it would come to in front of its forest. -/
theorem closeAll_foldl_read (hnested : p.Nested) (entries : List (Nat × α)) :
    (entries.foldl read p).closeAll = p.outcome (forestOfOutline entries) := by
  induction entries generalizing p with
  | nil => exact closeAll_eq hnested
  | cons entry entries ih =>
    obtain ⟨hread, houtcome⟩ := outcome_read (forestOfOutline entries) hnested entry
    rw [List.foldl_cons, ih hread, houtcome, forestOfOutline_cons]

/-- One more line, which the classifier may pass over. -/
def readLine (classify : ι → Option (Nat × α)) (p : Pass α) (line : ι) : Pass α :=
  match classify line with
  | none => p
  | some entry => p.read entry

theorem foldl_readLine (classify : ι → Option (Nat × α)) (p : Pass α) (lines : List ι) :
    lines.foldl (readLine classify) p = (lines.filterMap classify).foldl read p := by
  rw [List.foldl_filterMap]
  congr
  funext p line
  cases hline : classify line <;> simp [readLine, hline]

end Pass

/-- The tree of a pass over lines. -/
def readLines (root : α) (classify : ι → Option (Nat × α)) (lines : List ι) : Tree α :=
  (lines.foldl (Pass.readLine classify) (.start root)).closeAll

theorem readLines_eq (root : α) (classify : ι → Option (Nat × α)) (lines : List ι) :
    readLines root classify lines = ofOutline root (lines.filterMap classify) := by
  have hstart : (Pass.start root).Nested := List.Pairwise.nil
  rw [readLines, Pass.foldl_readLine, Pass.closeAll_foldl_read hstart]
  rfl

end GoldenTree.Tree
