import GoldenTree.Tree.Difference
import Mathlib.Data.List.Lex
import Mathlib.Tactic.Common

/-! The differences of two trees and where they are. Two trees differ at addresses of which none
leads to another, and what the second tree has there is all that the first one needs to become the
second. The search for the first difference finds the first of them. -/
namespace GoldenTree.Tree

variable {α : Type}

/-- Where a node is: at every step down from the root, how many children are passed by. Addresses
in pre-order are in lexicographic order. -/
abbrev Address := List Nat

/-- The subtree at an address, if the tree goes that far. -/
def subtreeAt? (t : Tree α) : Address → Option (Tree α)
  | [] => some t
  | i :: p => t.children[i]?.bind fun c => c.subtreeAt? p

/-- The tree with another subtree at an address. -/
def replaceAt : Tree α → Address → Tree α → Tree α
  | _, [], new => new
  | node a cs, i :: p, new => node a (cs.modify i fun c => c.replaceAt p new)

/-- The second tree, with the subtree that the first has at an address in place of its own. -/
def graft (t s : Tree α) (p : Address) : Tree α :=
  match t.subtreeAt? p with
  | some u => s.replaceAt p u
  | none => s

/-- The first address comes before the second in pre-order and does not lead to it. -/
def Precedes (p q : Address) : Prop := p < q ∧ ¬ p <+: q

section Address

variable {p q : Address} {i j : Nat}

theorem Precedes.cons (h : Precedes p q) (i : Nat) : Precedes (i :: p) (i :: q) :=
  ⟨List.cons_lt_cons_self.mpr h.1, fun hleads => h.2 (List.cons_prefix_cons.mp hleads).2⟩

theorem precedes_cons_of_lt (h : i < j) (p q : Address) : Precedes (i :: p) (j :: q) :=
  ⟨List.cons_lt_cons_iff.mpr (.inl h), fun hleads => h.ne (List.cons_prefix_cons.mp hleads).1⟩

/-- The later address does not lead to the earlier one either. -/
theorem Precedes.not_isPrefix (h : Precedes p q) : ¬ q <+: p := by
  rintro ⟨rest, rfl⟩
  exact List.le_append_left h.1

end Address

section Child

variable {a b : α} {front front' behind behind' : List (Tree α)} {c d : Tree α} {i : Nat}

theorem subtreeAt?_child (hi : front.length = i) (p : Address) :
    (node a (front ++ c :: behind)).subtreeAt? (i :: p) = c.subtreeAt? p := by
  simp [subtreeAt?, ← hi]

theorem replaceAt_child (hi : front.length = i) (p : Address) (new : Tree α) :
    (node a (front ++ c :: behind)).replaceAt (i :: p) new =
      node a (front ++ c.replaceAt p new :: behind) := by
  simp [replaceAt, List.modify_eq_take_drop, ← hi]

/-- Below one child of each tree, subtrees are replaced in that child. -/
theorem graft_child (hi : front.length = i) (hi' : front'.length = i) (p : Address) :
    (node b (front' ++ d :: behind')).graft (node a (front ++ c :: behind)) (i :: p) =
      node a (front ++ d.graft c p :: behind) := by
  rw [graft, graft, subtreeAt?_child hi']
  cases d.subtreeAt? p with
  | none => rfl
  | some u => exact replaceAt_child hi p u

theorem foldl_graft_child (hi : front.length = i) (hi' : front'.length = i)
    (addresses : List Address) :
    (addresses.map (i :: ·)).foldl (node b (front' ++ d :: behind')).graft
        (node a (front ++ c :: behind)) =
      node a (front ++ addresses.foldl d.graft c :: behind) := by
  induction addresses generalizing c with
  | nil => rfl
  | cons p addresses ih =>
    rw [List.map_cons, List.foldl_cons, graft_child hi hi', ih, List.foldl_cons]

end Child

variable [DecidableEq α]

mutual

/-- The addresses at which two trees differ. -/
def differing : Tree α → Tree α → List Address
  | node a cs, node b ds =>
    if a = b ∧ cs.length = ds.length then forestDiffering 0 cs ds else [[]]

/-- The addresses at which two forests differ, whose first trees are the children of that
number. -/
def forestDiffering (number : Nat) : List (Tree α) → List (Tree α) → List Address
  | s :: ss, t :: ts => (differing s t).map (number :: ·) ++ forestDiffering (number + 1) ss ts
  | _, _ => []

end

theorem exists_cons_of_mem_forestDiffering {number : Nat} {p : Address} :
    ∀ {ss ts : List (Tree α)}, p ∈ forestDiffering number ss ts →
      ∃ i q, p = i :: q ∧ number ≤ i
  | s :: ss, t :: ts, h => by
    rw [forestDiffering, List.mem_append] at h
    rcases h with h | h
    · obtain ⟨q, -, rfl⟩ := List.mem_map.mp h
      exact ⟨number, q, rfl, le_rfl⟩
    · obtain ⟨i, q, rfl, hi⟩ := exists_cons_of_mem_forestDiffering h
      exact ⟨i, q, rfl, (Nat.le_succ number).trans hi⟩
  | [], _, h => by simp [forestDiffering] at h
  | _ :: _, [], h => by simp [forestDiffering] at h

mutual

/-- The addresses are found in pre-order, and none leads to another. -/
theorem pairwise_differing : ∀ s t : Tree α, (s.differing t).Pairwise Precedes
  | node a cs, node b ds => by
    rw [differing]
    split
    · exact pairwise_forestDiffering 0 cs ds
    · exact List.pairwise_singleton _ _

theorem pairwise_forestDiffering (number : Nat) :
    ∀ ss ts : List (Tree α), (forestDiffering number ss ts).Pairwise Precedes
  | s :: ss, t :: ts => by
    rw [forestDiffering, List.pairwise_append, List.pairwise_map]
    refine ⟨(pairwise_differing s t).imp fun h => h.cons number,
      pairwise_forestDiffering (number + 1) ss ts, ?_⟩
    intro p hp q hq
    obtain ⟨p', -, rfl⟩ := List.mem_map.mp hp
    obtain ⟨i, q', rfl, hi⟩ := exists_cons_of_mem_forestDiffering hq
    exact precedes_cons_of_lt hi p' q'
  | [], _ => by simp [forestDiffering]
  | _ :: _, [] => by simp [forestDiffering]

end

mutual

/-- The differing pairs are what the two trees have at these addresses. -/
theorem map_differing : ∀ s t : Tree α,
    (s.differing t).map (fun p => (s.subtreeAt? p, t.subtreeAt? p)) =
      (s.differences t).map fun d => (some d.1, some d.2)
  | node a cs, node b ds => by
    rw [differing, differences]
    split
    · exact map_forestDiffering a b [] [] 0 rfl rfl cs ds
    · rfl

theorem map_forestDiffering (a b : α) (front front' : List (Tree α)) (number : Nat)
    (hnumber : front.length = number) (hnumber' : front'.length = number) :
    ∀ ss ts : List (Tree α), (forestDiffering number ss ts).map
        (fun p => ((node a (front ++ ss)).subtreeAt? p, (node b (front' ++ ts)).subtreeAt? p)) =
      (forestDifferences ss ts).map fun d => (some d.1, some d.2)
  | s :: ss, t :: ts => by
    have hfirst := map_differing s t
    have hothers := map_forestDiffering a b (front ++ [s]) (front' ++ [t]) (number + 1)
      (by simp [hnumber]) (by simp [hnumber']) ss ts
    simp only [List.append_assoc, List.singleton_append] at hothers
    rw [forestDiffering, forestDifferences, List.map_append, List.map_append, List.map_map,
      hothers, ← hfirst]
    simp only [Function.comp_def, subtreeAt?_child hnumber, subtreeAt?_child hnumber']
  | [], _ => by simp [forestDiffering, forestDifferences]
  | _ :: _, [] => by simp [forestDiffering, forestDifferences]

end

mutual

/-- With the subtrees of the second tree at these addresses, the first tree is the second. -/
theorem foldl_graft_differing : ∀ s t : Tree α, (s.differing t).foldl t.graft s = t
  | node a cs, node b ds => by
    rw [differing]
    split
    · next hsame =>
      obtain ⟨rfl, hlength⟩ := hsame
      exact foldl_graft_forestDiffering a [] 0 rfl cs ds hlength
    · rfl

theorem foldl_graft_forestDiffering (a : α) (front : List (Tree α)) (number : Nat)
    (hnumber : front.length = number) :
    ∀ ss ts : List (Tree α), ss.length = ts.length →
      (forestDiffering number ss ts).foldl (node a (front ++ ts)).graft (node a (front ++ ss)) =
        node a (front ++ ts)
  | s :: ss, t :: ts, hlength => by
    have hothers := foldl_graft_forestDiffering a (front ++ [t]) (number + 1)
      (by simp [hnumber]) ss ts (by simpa using hlength)
    simp only [List.append_assoc, List.singleton_append] at hothers
    rw [forestDiffering, List.foldl_append, foldl_graft_child hnumber hnumber,
      foldl_graft_differing s t, hothers]
  | [], [], _ => rfl

end

mutual

/-- Where a pair differs, it differs in its labels or its numbers of children. -/
theorem differ_of_mem_differences {d : Tree α × Tree α} :
    ∀ {s t : Tree α}, d ∈ s.differences t →
      d.1.label ≠ d.2.label ∨ d.1.children.length ≠ d.2.children.length
  | node a cs, node b ds, h => by
    rw [differences] at h
    split at h
    · exact differ_of_mem_forestDifferences h
    · next hdiffer =>
      obtain rfl := List.mem_singleton.mp h
      exact Decidable.not_and_iff_not_or_not.mp hdiffer

theorem differ_of_mem_forestDifferences {d : Tree α × Tree α} :
    ∀ {ss ts : List (Tree α)}, d ∈ forestDifferences ss ts →
      d.1.label ≠ d.2.label ∨ d.1.children.length ≠ d.2.children.length
  | s :: ss, t :: ts, h => by
    rw [forestDifferences, List.mem_append] at h
    rcases h with h | h
    · exact differ_of_mem_differences h
    · exact differ_of_mem_forestDifferences h
  | [], _, h => by simp [forestDifferences] at h
  | _ :: _, [], h => by simp [forestDifferences] at h

end

/-- The differences of two trees are all of the change from one to the other. They are the pairs of
subtrees at some addresses, in pre-order and none on the way to another; the two of each pair differ
in their labels or numbers of children; and the first tree with the subtrees of the second at these
addresses is the second. -/
theorem differences_are_the_change (s t : Tree α) : ∃ addresses : List Address,
    addresses.Pairwise (· < ·) ∧ addresses.Pairwise (fun p q => ¬ p <+: q ∧ ¬ q <+: p) ∧
      addresses.map (fun p => (s.subtreeAt? p, t.subtreeAt? p)) =
        (s.differences t).map (fun d => (some d.1, some d.2)) ∧
      (∀ d ∈ s.differences t,
        d.1.label ≠ d.2.label ∨ d.1.children.length ≠ d.2.children.length) ∧
      addresses.foldl t.graft s = t :=
  ⟨s.differing t, (pairwise_differing s t).imp fun h => h.1,
    (pairwise_differing s t).imp fun h => ⟨h.2, h.not_isPrefix⟩, map_differing s t,
    fun _ hd => differ_of_mem_differences hd, foldl_graft_differing s t⟩

/-- A leaf with another label, and a node that lost its child. -/
example : (node 'a' [node 'b' [], node 'c' [node 'd' [node 'e' []]]]).differing
    (node 'a' [node 'x' [], node 'c' [node 'd' []]]) = [[0], [1, 0]] := by decide

/-! Searches. -/

mutual

/-- A tree does not differ from itself. -/
theorem differences_self : ∀ t : Tree α, t.differences t = []
  | node a cs => by rw [differences, if_pos ⟨rfl, rfl⟩, forestDifferences_self cs]

theorem forestDifferences_self : ∀ ts : List (Tree α), forestDifferences ts ts = []
  | [] => rfl
  | t :: ts => by
    rw [forestDifferences, differences_self t, forestDifferences_self ts, List.append_nil]

end

/-- Two trees without differences are the same: there is nowhere to replace anything. -/
theorem differences_eq_nil_iff {s t : Tree α} : s.differences t = [] ↔ s = t := by
  constructor
  · intro hnone
    have haddresses : s.differing t = [] := by
      have hmap := map_differing s t
      rwa [hnone, List.map_nil, List.map_eq_nil_iff] at hmap
    have hchange := foldl_graft_differing s t
    rwa [haddresses, List.foldl_nil] at hchange
  · rintro rfl
    exact differences_self s

mutual

/-- The search for the first difference finds the first of all. -/
theorem firstDifference?_eq_head? :
    ∀ s t : Tree α, s.firstDifference? t = (s.differences t).head?
  | node a cs, node b ds => by
    rw [firstDifference?, differences]
    split
    · exact firstForestDifference?_eq_head? cs ds
    · rfl

theorem firstForestDifference?_eq_head? : ∀ ss ts : List (Tree α),
    firstForestDifference? ss ts = (forestDifferences ss ts).head?
  | s :: ss, t :: ts => by
    rw [firstForestDifference?, forestDifferences, List.head?_append,
      firstDifference?_eq_head? s t, firstForestDifference?_eq_head? ss ts]
    cases (s.differences t).head? <;> rfl
  | [], _ => by simp [firstForestDifference?, forestDifferences]
  | _ :: _, [] => by simp [firstForestDifference?, forestDifferences]

end

mutual

/-- From the other side, each pair is the other way around. -/
theorem differences_swap : ∀ s t : Tree α, t.differences s = (s.differences t).map Prod.swap
  | node a cs, node b ds => by
    have hsame : (b = a ∧ ds.length = cs.length) ↔ (a = b ∧ cs.length = ds.length) :=
      and_congr eq_comm eq_comm
    rw [differences, differences, if_congr hsame rfl rfl]
    split
    · exact forestDifferences_swap cs ds
    · rfl

theorem forestDifferences_swap : ∀ ss ts : List (Tree α),
    forestDifferences ts ss = (forestDifferences ss ts).map Prod.swap
  | s :: ss, t :: ts => by
    rw [forestDifferences, forestDifferences, List.map_append, differences_swap s t,
      forestDifferences_swap ss ts]
  | [], _ => by simp [forestDifferences]
  | _ :: _, [] => by simp [forestDifferences]

end

/-- The search for one difference gives the first of all, if there is any; there is none just if the
trees are equal, whichever search is asked; and the order of the two trees makes no difference but
to the order of the two in each pair. -/
theorem searches_agree (s t : Tree α) :
    s.firstDifference? t = (s.differences t).head? ∧ (s.differences t = [] ↔ s = t) ∧
      (s.firstDifference? t = none ↔ s = t) ∧
      t.differences s = (s.differences t).map Prod.swap := by
  refine ⟨firstDifference?_eq_head? s t, differences_eq_nil_iff, ?_, differences_swap s t⟩
  rw [firstDifference?_eq_head?, List.head?_eq_none_iff, differences_eq_nil_iff]

end GoldenTree.Tree
