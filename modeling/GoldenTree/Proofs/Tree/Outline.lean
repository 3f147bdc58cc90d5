import GoldenTree.Proofs.Cut
import GoldenTree.Tree.Outline

/-! How an outline falls apart: an entry, the deeper entries behind it, and the rest. Each part has
a forest of its own. So a forest written as an outline reads back, if every level is deeper than the
one above it. -/
namespace GoldenTree.Tree

variable {α : Type} {width : Nat → Nat} {rest : List (Nat × α)}

/-- What comes first in an outline is no deeper than `bound`. -/
def Closed (bound : Nat) (rest : List (Nat × α)) : Prop :=
  ∀ later ∈ (forestOfOutline rest).head?, later.1 ≤ bound

/-- A forest begins as deep as its outline. -/
theorem closed_iff {bound : Nat} : Closed bound rest ↔ ∀ later ∈ rest.head?, later.1 ≤ bound := by
  cases rest <;> simp [Closed, adopt]

theorem Closed.mono {bound higher : Nat} (h : Closed bound rest) (hle : bound ≤ higher) :
    Closed higher rest :=
  fun later hlater => (h later hlater).trans hle

/-- Every root is as deep as its entry. -/
theorem mem_of_mem_forestOfOutline {entries : List (Nat × α)} {t : Nat × Tree α}
    (h : t ∈ forestOfOutline entries) : ∃ entry ∈ entries, t.1 = entry.1 := by
  induction entries with
  | nil => cases h
  | cons entry entries ih =>
    rw [forestOfOutline_cons, adopt] at h
    rcases List.mem_cons.mp h with rfl | h
    · exact ⟨entry, List.mem_cons_self .., rfl⟩
    · obtain ⟨found, hfound, heq⟩ := ih ((List.dropWhile_suffix _).subset h)
      exact ⟨found, List.mem_cons_of_mem _ hfound, heq⟩

section Adopt

variable (entry : Nat × α) {inner outer : List (Nat × Tree α)}

/-- A node takes nothing from behind a root that is not deeper. -/
theorem adopt_append (houter : ∀ t ∈ outer.head?, t.1 ≤ entry.1) :
    adopt entry (inner ++ outer) = adopt entry inner ++ outer := by
  have hstop : ∀ t ∈ outer.head?, decide (entry.1 < t.1) = false :=
    fun t ht => decide_eq_false (Nat.not_lt.mpr (houter t ht))
  simp only [adopt, takeWhile_append_of_head hstop, dropWhile_append_of_head hstop,
    List.cons_append]

/-- A node takes a forest of deeper trees as a whole. -/
theorem adopt_deeper (hinner : ∀ t ∈ inner, entry.1 < t.1) :
    adopt entry inner = [(entry.1, node entry.2 (inner.map (·.2)))] := by
  have hdeeper : ∀ t ∈ inner, decide (entry.1 < t.1) = true :=
    fun t ht => decide_eq_true (hinner t ht)
  simp only [adopt, List.takeWhile_eq_self_iff.mpr hdeeper, List.dropWhile_eq_nil_iff.mpr hdeeper]

end Adopt

section Split

variable {entry : Nat × α} {inner outer : List (Nat × α)}

/-- An outline falls apart where it gets no deeper than any entry before. -/
theorem forestOfOutline_append (h : ∀ e ∈ inner, Closed e.1 outer) :
    forestOfOutline (inner ++ outer) = forestOfOutline inner ++ forestOfOutline outer := by
  induction inner with
  | nil => rfl
  | cons e inner ih =>
    have hothers := ih fun e he => h e (List.mem_cons_of_mem _ he)
    have hfirst : Closed e.1 outer := h e (List.mem_cons_self ..)
    rw [List.cons_append, forestOfOutline_cons, hothers, adopt_append e hfirst,
      forestOfOutline_cons]

/-- An entry has the deeper entries right behind it below it. -/
theorem forestOfOutline_cons_append (hinner : ∀ e ∈ inner, entry.1 < e.1)
    (houter : Closed entry.1 outer) : forestOfOutline (entry :: (inner ++ outer)) =
      (entry.1, node entry.2 ((forestOfOutline inner).map (·.2))) :: forestOfOutline outer := by
  have hclosed : ∀ e ∈ inner, Closed e.1 outer := fun e he => houter.mono (hinner e he).le
  have hdeeper : ∀ t ∈ forestOfOutline inner, entry.1 < t.1 := by
    intro t ht
    obtain ⟨e, he, heq⟩ := mem_of_mem_forestOfOutline ht
    exact heq ▸ hinner e he
  rw [forestOfOutline_cons, forestOfOutline_append hclosed, adopt_append entry houter,
    adopt_deeper entry hdeeper, List.singleton_append]

end Split

/-- An outline is empty, or it is an entry with the deeper entries behind it and then the rest. -/
@[elab_as_elim]
theorem outline_induction {motive : List (Nat × α) → Prop} (nil : motive [])
    (cons : ∀ (entry : Nat × α) (inner outer : List (Nat × α)), (∀ e ∈ inner, entry.1 < e.1) →
      Closed entry.1 outer → motive inner → motive outer → motive (entry :: (inner ++ outer)))
    (entries : List (Nat × α)) : motive entries := by
  induction hlength : entries.length using Nat.strong_induction_on generalizing entries with
  | _ length ih =>
    cases entries with
    | nil => exact nil
    | cons entry rest =>
      let deeper := fun (e : Nat × α) => decide (entry.1 < e.1)
      have hinner : ∀ e ∈ rest.takeWhile deeper, entry.1 < e.1 :=
        fun e he => by simpa [deeper] using List.mem_takeWhile_imp he
      have houter : Closed entry.1 (rest.dropWhile deeper) := by
        refine closed_iff.mpr fun later hlater => ?_
        have hstop := List.head?_dropWhile_not deeper rest
        rw [Option.mem_def.mp hlater] at hstop
        exact Nat.not_lt.mp (of_decide_eq_false hstop)
      have hshort : ∀ part : List (Nat × α), part.length ≤ rest.length → motive part :=
        fun part hpart => ih part.length (by simp_all; omega) part rfl
      have hmotive := cons entry _ _ hinner houter (hshort _ (List.takeWhile_sublist _).length_le)
        (hshort _ (List.dropWhile_sublist _).length_le)
      rwa [List.takeWhile_append_dropWhile] at hmotive

/-! An outline written from a forest. -/

/-- The entries of an outline with a depth of its own for each level. -/
def rescale (width : Nat → Nat) (entries : List (Nat × α)) : List (Nat × α) :=
  entries.map fun entry => (width entry.1, entry.2)

mutual

/-- A tree, and then what follows. -/
theorem forestOfOutline_flat (hwidth : ∀ d, width d < width (d + 1)) :
    ∀ (t : Tree α) {depth : Nat} {rest : List (Nat × α)}, Closed (width depth) rest →
    forestOfOutline (rescale width (t.flat depth) ++ rest) =
      (width depth, t) :: forestOfOutline rest
  | .node a cs, depth, rest, hclosed => by
    have hbelow : Closed (width (depth + 1)) rest := hclosed.mono (hwidth depth).le
    have hchildren := forestOfOutline_flatForest hwidth cs hbelow
    have hdeeper : ∀ t ∈ cs.map (width (depth + 1), ·), width depth < t.1 := by
      intro t ht
      obtain ⟨c, -, rfl⟩ := List.mem_map.mp ht
      exact hwidth depth
    rw [flat, rescale, List.map_cons, List.cons_append, forestOfOutline_cons, ← rescale, hchildren,
      adopt_append (width depth, a) hclosed, adopt_deeper (width depth, a) hdeeper]
    simp [Function.comp_def]

/-- The trees of a level, and then what follows. -/
theorem forestOfOutline_flatForest (hwidth : ∀ d, width d < width (d + 1)) :
    ∀ (ts : List (Tree α)) {depth : Nat} {rest : List (Nat × α)}, Closed (width depth) rest →
    forestOfOutline (rescale width (flatForest depth ts) ++ rest) =
      ts.map (width depth, ·) ++ forestOfOutline rest
  | [], _, _, _ => rfl
  | t :: ts, depth, rest, hclosed => by
    have hothers := forestOfOutline_flatForest hwidth ts hclosed
    -- The next tree of the level is no deeper than `t`, so `t` ends before it.
    have hnext : Closed (width depth) (rescale width (flatForest depth ts) ++ rest) := by
      intro later hlater
      rw [hothers] at hlater
      cases ts with
      | nil => exact hclosed later hlater
      | cons u us =>
        obtain rfl : (width depth, u) = later := by simpa using hlater
        exact Nat.le_refl _
    have hfirst := forestOfOutline_flat hwidth t hnext
    rw [flatForest, rescale, List.map_append, List.append_assoc, ← rescale, ← rescale, hfirst,
      hothers]
    rfl

end

/-- A forest reads back from its own outline. -/
theorem ofOutline_flatForest (hwidth : ∀ d, width d < width (d + 1)) (root : α) (depth : Nat)
    (ts : List (Tree α)) :
    ofOutline root (rescale width (flatForest depth ts)) = node root ts := by
  have hclosed : Closed (width depth) ([] : List (Nat × α)) := by simp [Closed]
  have hforest := forestOfOutline_flatForest hwidth ts hclosed
  rw [List.append_nil, forestOfOutline_nil, List.append_nil] at hforest
  rw [ofOutline, hforest, List.map_map]
  simp [Function.comp_def]

/-- Levels can be depths as they are. -/
theorem ofOutline_flatForest_self (root : α) (depth : Nat) (ts : List (Tree α)) :
    ofOutline root (flatForest depth ts) = node root ts := by
  have hread := @ofOutline_flatForest α id Nat.lt_succ_self root depth ts
  rwa [rescale, List.map_id''] at hread
  exact fun _ => rfl

/-- An outline tells its tree. -/
theorem flat_injective {depth : Nat} {t u : Tree α} (h : t.flat depth = u.flat depth) : t = u := by
  have hroots : flatForest depth [t] = flatForest depth [u] := by simp [flatForest, h]
  have hforest := congrArg (ofOutline t.label) hroots
  rw [ofOutline_flatForest_self, ofOutline_flatForest_self] at hforest
  simpa using hforest

end GoldenTree.Tree
