import GoldenTree.Proofs.Tree.Pass
import GoldenTree.Proofs.Tree.Subtrees

/-! Who is above whom in the tree of an outline: the parent of a node is the last node before it
that is less deep. -/
namespace GoldenTree.Tree

variable {α ι : Type}

mutual

/-- The labels of a tree in pre-order, each with the number of its parent. The nodes are numbered
from `number` on, and `parent` is the parent of the tree. -/
def linked (parent : Option Nat) (number : Nat) : Tree α → List (α × Option Nat)
  | node a cs => (a, parent) :: forestLinked (some number) (number + 1) cs

def forestLinked (parent : Option Nat) (number : Nat) : List (Tree α) → List (α × Option Nat)
  | [] => []
  | t :: ts => t.linked parent number ++ forestLinked parent (number + t.size) ts

end

/-- The last of the depths that is less than `depth` has this number, if there is one. -/
inductive LastLess (depth : Nat) : List Nat → Option Nat → Prop
  | absent {before : List Nat} : (∀ d ∈ before, depth ≤ d) → LastLess depth before none
  | present {front between : List Nat} {less : Nat} : less < depth → (∀ d ∈ between, depth ≤ d) →
      LastLess depth (front ++ less :: between) (some front.length)

section LastLess

variable {depth : Nat} {before : List Nat} {found : Option Nat}

theorem LastLess.le_of_none (h : LastLess depth before none) : ∀ d ∈ before, depth ≤ d := by
  cases h with
  | absent h => exact h

theorem LastLess.cons {less : Nat} (hless : less < depth) (h : LastLess depth before found) :
    LastLess depth (less :: before) ((found.map (1 + ·)).or (some 0)) := by
  cases h with
  | absent h =>
    have hfirst : LastLess depth ([] ++ less :: before) (some 0) := .present hless h
    exact hfirst
  | @present front between later hlater h =>
    have hlast : LastLess depth ((less :: front) ++ later :: between)
      (some (less :: front).length) := .present hlater h
    rwa [List.length_cons, Nat.add_comm] at hlast

theorem LastLess.append {front : List Nat} (h : LastLess depth before found)
    (hfront : found = none → ∀ d ∈ front, depth ≤ d) :
    LastLess depth (front ++ before) (found.map (front.length + ·)) := by
  cases h with
  | absent h =>
    refine .absent fun d hd => ?_
    rcases List.mem_append.mp hd with hd | hd
    · exact hfront rfl d hd
    · exact h d hd
  | @present inner between less hless h =>
    have hlast : LastLess depth ((front ++ inner) ++ less :: between)
      (some (front ++ inner).length) := .present hless h
    rwa [List.append_assoc, List.length_append] at hlast

end LastLess

mutual

theorem map_label_linked : ∀ (t : Tree α) (parent : Option Nat) (number : Nat),
    (t.linked parent number).map (·.1) = t.subtrees.map label
  | node a cs, _, _ => by simp [linked, subtrees, map_label_forestLinked cs]

/-- The links are those of the nodes in pre-order. -/
theorem map_label_forestLinked : ∀ (ts : List (Tree α)) (parent : Option Nat) (number : Nat),
    (forestLinked parent number ts).map (·.1) = (forestSubtrees ts).map label
  | [], _, _ => rfl
  | t :: ts, _, _ => by
    simp [forestLinked, forestSubtrees, map_label_linked t, map_label_forestLinked ts]

end

theorem forestSize_forestOfOutline (entries : List (Nat × α)) :
    forestSize ((forestOfOutline entries).map (·.2)) = entries.length := by
  induction entries using outline_induction with
  | nil => rfl
  | cons entry inner outer hinner houter ihinner ihouter =>
    rw [forestOfOutline_cons_append hinner houter]
    simp [forestSize, size, ihinner, ihouter]
    omega

/-- The links of an outline: those of the entries below the first one, and those of the others. -/
theorem forestLinked_cons_append {entry : Nat × α} {inner outer : List (Nat × α)}
    (hinner : ∀ e ∈ inner, entry.1 < e.1) (houter : Closed entry.1 outer) (parent : Option Nat)
    (number : Nat) :
    forestLinked parent number ((forestOfOutline (entry :: (inner ++ outer))).map (·.2)) =
      (entry.2, parent) ::
        (forestLinked (some number) (number + 1) ((forestOfOutline inner).map (·.2)) ++
          forestLinked parent (number + (inner.length + 1))
            ((forestOfOutline outer).map (·.2))) := by
  rw [forestOfOutline_cons_append hinner houter]
  simp [forestLinked, linked, size, forestSize_forestOfOutline]

theorem length_forestLinked (entries : List (Nat × α)) (parent : Option Nat) (number : Nat) :
    (forestLinked parent number ((forestOfOutline entries).map (·.2))).length = entries.length := by
  have hlabels := map_label_forestLinked ((forestOfOutline entries).map (·.2)) parent number
  rw [map_label_forestOfOutline] at hlabels
  simpa using congrArg List.length hlabels

/-- If no entry between is less deep, an entry of the outer part is no deeper than the entry in
front. -/
theorem le_of_closed {entry e : Nat × α} {before after : List (Nat × α)}
    (hclosed : Closed entry.1 (before ++ e :: after)) (h : ∀ d ∈ before.map (·.1), e.1 ≤ d) :
    e.1 ≤ entry.1 := by
  have hhead := closed_iff.mp hclosed
  cases before with
  | nil => exact hhead e rfl
  | cons first before =>
    exact (h first.1 (List.mem_cons_self ..)).trans (hhead first rfl)

/-- Each entry is linked to the last one before it that is less deep. -/
theorem getElem?_forestLinked (entries : List (Nat × α)) :
    ∀ (parent : Option Nat) (number : Nat) (before : List (Nat × α)) (e : Nat × α)
      (after : List (Nat × α)), entries = before ++ e :: after →
      ∃ found, LastLess e.1 (before.map (·.1)) found ∧
        (forestLinked parent number ((forestOfOutline entries).map (·.2)))[before.length]? =
          some (e.2, (found.map (number + ·)).or parent) := by
  induction entries using outline_induction with
  | nil => simp
  | cons entry inner outer hinner houter ihinner ihouter =>
    intro parent number before e after hsplit
    rw [forestLinked_cons_append hinner houter]
    cases before with
    | nil =>
      obtain ⟨rfl, -⟩ := List.cons.inj hsplit
      exact ⟨none, .absent (by simp), rfl⟩
    | cons first before =>
      obtain ⟨rfl, hrest⟩ := List.cons.inj hsplit
      rcases append_eq_append_cons hrest with ⟨rest, rfl⟩ | ⟨middle, rfl, rfl⟩
      · -- Below the first entry, which is the parent where there is none in the inner part.
        obtain ⟨found, hfound, hlink⟩ := ihinner (some number) (number + 1) before e rest rfl
        refine ⟨_, hfound.cons (hinner e (by simp)), ?_⟩
        have hshort : before.length < (before ++ e :: rest).length := by simp
        rw [List.length_cons, List.getElem?_cons_succ,
          List.getElem?_append_left (by rwa [length_forestLinked]), hlink]
        cases found <;> simp [Nat.add_assoc]
      · obtain ⟨found, hfound, hlink⟩ :=
          ihouter parent (number + (inner.length + 1)) middle e after rfl
        have hdeep : found = none → ∀ d ∈ (entry :: inner).map (·.1), e.1 ≤ d := by
          rintro rfl d hd
          have hentry : e.1 ≤ entry.1 := le_of_closed houter hfound.le_of_none
          obtain ⟨x, hx, rfl⟩ := List.mem_map.mp hd
          rcases List.mem_cons.mp hx with rfl | hx
          · exact hentry
          · exact hentry.trans (hinner x hx).le
        have hlast := hfound.append hdeep
        refine ⟨_, by simpa using hlast, ?_⟩
        rw [List.length_cons, List.getElem?_cons_succ, List.length_append,
          List.getElem?_append_right (by simp [length_forestLinked]), length_forestLinked,
          Nat.add_sub_cancel_left, hlink]
        cases found <;> simp [Nat.add_assoc]

/-- Lines are read in one pass as the tree of their outline. Below its root it has the nodes of the
lines in pre-order, and the parent of each is the last node before it that is less deep, or the root
if there is none. -/
theorem parent_is_nearest_shallower (root : α) (classify : ι → Option (Nat × α)) (lines : List ι) :
    let entries := lines.filterMap classify
    let tree := ofOutline root entries
    readLines root classify lines = tree ∧ tree.label = root ∧
      (forestLinked none 0 tree.children).map (·.1) = entries.map (·.2) ∧
      ∀ before e after, entries = before ++ e :: after →
        ∃ parent, LastLess e.1 (before.map (·.1)) parent ∧
          (forestLinked none 0 tree.children)[before.length]? = some (e.2, parent) := by
  intro entries tree
  have hlabels : (forestLinked none 0 tree.children).map (·.1) = entries.map (·.2) :=
    (map_label_forestLinked ..).trans (map_label_forestOfOutline entries)
  refine ⟨readLines_eq root classify lines, rfl, hlabels, fun before e after hsplit => ?_⟩
  obtain ⟨found, hfound, hlink⟩ := getElem?_forestLinked entries none 0 before e after hsplit
  exact ⟨found, hfound, hlink.trans (by simp)⟩

/-- A line that gets less deep by half a level, and one without a node. -/
theorem parent_is_nearest_shallower_dedent :
    [some (2, 'a'), none, some (4, 'b'), some (3, 'c'), some (0, 'd')].filterMap id =
      [(2, 'a'), (4, 'b')] ++ (3, 'c') :: [(0, 'd')] ∧
    ∃ parent, LastLess 3 [2, 4] parent ∧
      (forestLinked none 0 (ofOutline 'r' [(2, 'a'), (4, 'b'), (3, 'c'), (0, 'd')]).children)[2]? =
        some ('c', parent) := by
  obtain ⟨-, -, -, hparents⟩ := parent_is_nearest_shallower 'r' id
    [some (2, 'a'), none, some (4, 'b'), some (3, 'c'), some (0, 'd')]
  exact ⟨rfl, hparents [(2, 'a'), (4, 'b')] (3, 'c') [(0, 'd')] rfl⟩

end GoldenTree.Tree
