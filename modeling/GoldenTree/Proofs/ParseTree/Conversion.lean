import GoldenTree.ParseTree.Build
import GoldenTree.Proofs.Tree.Outline
import Mathlib.Data.List.Basic

/-! Concrete trees made into parse trees, for any recognizer. A parse tree has the nodes of the
concrete tree in the same order and at the same depths; there is none if the table has no name for
the rule of a node, and the first such node in pre-order is the one that is reported. -/
namespace GoldenTree

open Recognition Text
open ConcreteTree (Item)

namespace ConcreteTree

/-- The nodes below the root in pre-order, each with its depth. A token at the root counts as below
it, and empty slots do not count. -/
def nodesBelow : ConcreteTree → List (Nat × Item)
  | rule _ slots => (flatSlots 1 slots).filter (·.2 ≠ .empty)
  | terminal token => [(1, .terminal token)]

/-- The index of a rule that the table has no name for. -/
def Item.outside? (r : Recognizer) : Item → Option Nat
  | .rule index => if index < r.ruleNames.length then none else some index
  | _ => none

/-- The first of them in a list of nodes. -/
def firstOutside? (r : Recognizer) (nodes : List (Nat × Item)) : Option Nat :=
  nodes.findSome? fun node => node.2.outside? r

theorem firstOutside?_append (r : Recognizer) (nodes others : List (Nat × Item)) :
    firstOutside? r (nodes ++ others) = (firstOutside? r nodes).or (firstOutside? r others) :=
  List.findSome?_append

end ConcreteTree

namespace ParseTree

open ConcreteTree (firstOutside? firstOutside?_append flatSlots)

/-- What a node shows of itself: its name and, if it is a terminal, its text. -/
abbrev Label : Type := String × Option String

mutual

/-- The tree of labels. -/
def labelled : ParseTree → Tree Label
  | rule name children => .node (name, none) (labelledForest children)
  | terminal name text => .node (name, some text) []

def labelledForest : List ParseTree → List (Tree Label)
  | [] => []
  | t :: ts => t.labelled :: labelledForest ts

end

mutual

theorem labelled_injective : ∀ {t u : ParseTree}, t.labelled = u.labelled → t = u
  | .rule name children, .rule name' children', h => by
    simp only [labelled, Tree.node.injEq, Prod.mk.injEq, and_true] at h
    rw [h.1, labelledForest_injective h.2]
  | .rule _ _, .terminal _ _, h => by simp [labelled] at h
  | .terminal _ _, .rule _ _, h => by simp [labelled] at h
  | .terminal name text, .terminal name' text', h => by
    simp only [labelled, Tree.node.injEq, Prod.mk.injEq, Option.some.injEq, and_true] at h
    rw [h.1, h.2]

theorem labelledForest_injective :
    ∀ {ts us : List ParseTree}, labelledForest ts = labelledForest us → ts = us
  | [], [], _ => rfl
  | [], _ :: _, h => by simp [labelledForest] at h
  | _ :: _, [], h => by simp [labelledForest] at h
  | t :: ts, u :: us, h => by
    simp only [labelledForest, List.cons.injEq] at h
    rw [labelled_injective h.1, labelledForest_injective h.2]

end

variable {r : Recognizer} {α : Type}

/-- The label of a node: the name in the table, if there is one, or the symbolic name of the token,
or its type if it has none, and its text on one line. -/
def label? (r : Recognizer) : Item → Option Label
  | .rule index => r.ruleNames[index]?.map (·, none)
  | .terminal t => some ((r.symbolName? t.type).getD (toString t.type),
      some (String.ofList (escapeBreaks t.text.toList)))
  | .empty => none

/-- Nodes with their labels, each in its place and at its depth. -/
def labels? (r : Recognizer) (nodes : List (Nat × Item)) : List (Option (Nat × Label)) :=
  nodes.map fun node => (label? r node.2).map (node.1, ·)

theorem labels?_append (r : Recognizer) (nodes others : List (Nat × Item)) :
    labels? r (nodes ++ others) = labels? r nodes ++ labels? r others := List.map_append ..

/-- Nodes that all have labels are in the table. -/
theorem firstOutside?_of_labels? {nodes : List (Nat × Item)} {entries : List (Nat × Label)}
    (h : labels? r nodes = entries.map some) : firstOutside? r nodes = none := by
  refine List.findSome?_eq_none_iff.mpr fun node hnode => ?_
  have hlabel : (label? r node.2).map (node.1, ·) ∈ entries.map some :=
    h ▸ List.mem_map_of_mem hnode
  obtain ⟨entry, -, hentry⟩ := List.mem_map.mp hlabel
  obtain ⟨depth, item⟩ := node
  cases item with
  | rule index =>
    have hsome : index < r.ruleNames.length := by
      by_contra hlt
      simp [label?, List.getElem?_eq_none (Nat.not_lt.mp hlt)] at hentry
    simp [Item.outside?, hsome]
  | terminal token => rfl
  | empty => rfl

/-- A result is right for some nodes: its entries are the nodes with their labels, or it reports the
first node that is outside the table. -/
def Converts (r : Recognizer) (nodes : List (Nat × Item)) (entries : α → List (Nat × Label)) :
    Except BuildError α → Prop
  | .ok a => labels? r nodes = (entries a).map some
  | .error e => ∃ index, firstOutside? r nodes = some index ∧ e = .unknownRuleIndex index

section Converts

variable {β γ : Type} {nodes others : List (Nat × Item)} {error : BuildError}
  {entries : α → List (Nat × Label)} {entries' : β → List (Nat × Label)}
  {entries'' : γ → List (Nat × Label)}

/-- What goes wrong first goes wrong for a longer list as well. -/
theorem Converts.append_of_error (h : Converts r nodes entries (.error error))
    (others : List (Nat × Item)) : Converts r (nodes ++ others) entries' (.error error) := by
  obtain ⟨index, hfirst, rfl⟩ := h
  exact ⟨index, by rw [firstOutside?_append, hfirst, Option.some_or], rfl⟩

/-- What goes wrong behind nodes that have labels is the first to go wrong. -/
theorem Converts.append_error {a : α} (h : Converts r nodes entries (.ok a))
    (h' : Converts r others entries' (.error error)) :
    Converts r (nodes ++ others) entries'' (.error error) := by
  obtain ⟨index, hfirst, rfl⟩ := h'
  refine ⟨index, ?_, rfl⟩
  rw [firstOutside?_append, firstOutside?_of_labels? h, hfirst, Option.none_or]

end Converts

theorem filter_flat_rule (depth index : Nat) (slots : List (Option ConcreteTree)) :
    (ConcreteTree.flat depth (.rule index slots)).filter (·.2 ≠ .empty) =
      (depth, .rule index) :: (flatSlots (depth + 1) slots).filter (·.2 ≠ .empty) := by
  simp [ConcreteTree.flat]

mutual

theorem converts_ofConcrete (r : Recognizer) (depth : Nat) : ∀ tree : ConcreteTree,
    Converts r ((tree.flat depth).filter (·.2 ≠ .empty)) (·.labelled.flat depth)
      (ofConcrete r tree)
  | .terminal token => rfl
  | .rule index slots => by
    have below := converts_ofSlots r (depth + 1) slots
    rw [filter_flat_rule, ofConcrete]
    cases hname : r.ruleNames[index]? with
    | none =>
      have houtside : ¬index < r.ruleNames.length := by simpa using hname
      exact ⟨index, by simp [firstOutside?, Item.outside?, houtside], rfl⟩
    | some name =>
      have root : Converts r [(depth, .rule index)] (fun _ => [(depth, name, none)])
          (.ok ()) := by simp [Converts, labels?, label?, hname]
      generalize ofSlots r slots = children? at below ⊢
      cases children? with
      | error e => exact root.append_error below
      | ok children => exact congrArg₂ (· ++ ·) root below

/-- The trees of a row of slots, in which the first tree that goes wrong is the only one that
counts. -/
theorem converts_ofSlots (r : Recognizer) (depth : Nat) : ∀ slots : List (Option ConcreteTree),
    Converts r ((flatSlots depth slots).filter (·.2 ≠ .empty))
      (fun ts => Tree.flatForest depth (labelledForest ts)) (ofSlots r slots)
  | [] => rfl
  | none :: slots => by
    simpa [flatSlots, ofSlots] using converts_ofSlots r depth slots
  | some tree :: slots => by
    have first := converts_ofConcrete r depth tree
    have others := converts_ofSlots r depth slots
    rw [flatSlots, List.filter_append, ofSlots]
    generalize ofConcrete r tree = first?, ofSlots r slots = others? at first others ⊢
    cases first? with
    | error e => exact first.append_of_error _
    | ok child =>
      cases others? with
      | error e => exact first.append_error others
      | ok children =>
        rw [Converts, labels?_append, first, others, ← List.map_append]
        rfl

end

/-- The index of the root is not looked up. -/
theorem exists_ofRoot_eq_map (r : Recognizer) (name : String) (tree : ConcreteTree) :
    ∃ children? : Except BuildError (List ParseTree),
      ofRoot r name tree = children?.map (rule name) ∧
      Converts r tree.nodesBelow (fun ts => Tree.flatForest 1 (labelledForest ts)) children? := by
  cases tree with
  | rule index slots => exact ⟨ofSlots r slots, rfl, converts_ofSlots r 1 slots⟩
  | terminal token => exact ⟨.ok [ofToken r token], rfl, rfl⟩

/-- A tree is known from its labels in pre-order and their depths. -/
theorem eq_iff_labels {t u : ParseTree} :
    t = u ↔ (t.labelled.flat 0).map some = (u.labelled.flat 0).map some := by
  refine ⟨fun h => h ▸ rfl, fun h => ?_⟩
  have hflat : t.labelled.flat 0 = u.labelled.flat 0 :=
    List.map_injective_iff.mpr (fun _ _ => Option.some.inj) h
  exact labelled_injective (Tree.flat_injective hflat)

variable {b : TreeBuilder} {index : Nat}

/-- Whatever tree a recognizer yields, building fails exactly if a node below its root is a rule
that the table has no name for, and with the index of the first of them. Otherwise there is a tree:
it is the one that has, below a rule of the name that was asked for, the labels of the nodes in the
same order and at the same depths. -/
theorem build_converts (h : r.ruleIndex? b.rootRule = some index) (source : String) :
    let parse := r.parse (r.tokenize source).1 index
    let nodes := parse.tree.nodesBelow
    let built := (b.build r source).built
    (∀ i, built = .error (.unknownRuleIndex i) ↔ firstOutside? r nodes = some i) ∧
    (firstOutside? r nodes = none → ∃ tree,
      built = .ok ⟨tree, (r.tokenize source).2, parse.errors⟩ ∧
      ∀ t : ParseTree, t = tree ↔
        (t.labelled.flat 0).map some = some (0, b.rootRule, none) :: labels? r nodes) := by
  intro parse nodes built
  obtain ⟨children?, hroot, hconverts⟩ := exists_ofRoot_eq_map r b.rootRule parse.tree
  have hbuilt : built = (children?.map (rule b.rootRule)).map
      (⟨·, (r.tokenize source).2, parse.errors⟩) := by
    rw [← hroot]
    simp only [built, TreeBuilder.build, h]
    rfl
  rw [hbuilt]
  cases children? with
  | error e =>
    obtain ⟨first, hfirst, rfl⟩ := hconverts
    constructor
    · intro i
      simp [Except.map, nodes, hfirst]
    · intro hnone
      simp [nodes, hfirst] at hnone
  | ok children =>
    have hnone : firstOutside? r nodes = none := firstOutside?_of_labels? hconverts
    refine ⟨fun i => by simp [Except.map, hnone], fun _ => ⟨_, rfl, fun t => ?_⟩⟩
    rw [eq_iff_labels, show labels? r nodes = _ from hconverts]
    rfl

/-- A recognizer of two rules and no symbolic names that yields one tree for every source. -/
def fixed (tree : ConcreteTree) : Recognizer :=
  ⟨["kotlinFile", "modifiers"], fun _ => none, fun _ => ([], []), fun _ _ => ⟨tree, [], []⟩⟩

/-- The root, whose index does not count, has two rules below it that are in no table, the first of
them inside another rule. -/
def straying : ConcreteTree :=
  .rule 9 [none, some (.rule 1 [some (.rule 5 [])]), some (.rule 7 [])]

/-- A rule without children and a token, between empty slots. -/
def slotted : ConcreteTree :=
  .rule 0 [none, some (.rule 1 [none]), none, some (.terminal ⟨99, "x\n", .start⟩)]

theorem build_converts_fixed :
    (fixed straying).ruleIndex? TreeBuilder.standard.rootRule = some 0 ∧
    (TreeBuilder.standard.build (fixed straying) "").built = .error (.unknownRuleIndex 5) ∧
    (fixed slotted).ruleIndex? TreeBuilder.standard.rootRule = some 0 ∧
    firstOutside? (fixed slotted) slotted.nodesBelow = none ∧
    (TreeBuilder.standard.build (fixed slotted) "").built =
      .ok ⟨.rule "kotlinFile" [.rule "modifiers" [], .terminal "99" "x\\n"], [], []⟩ := by
  have hstraying : (fixed straying).ruleIndex? TreeBuilder.standard.rootRule = some 0 := by
    decide +kernel
  have hslotted : (fixed slotted).ruleIndex? TreeBuilder.standard.rootRule = some 0 := by
    decide +kernel
  have hnone : firstOutside? (fixed slotted) slotted.nodesBelow = none := by decide +kernel
  obtain ⟨tree, hbuilt, htree⟩ := (build_converts hslotted "").2 hnone
  have herror := ((build_converts hstraying "").1 5).mpr (by decide +kernel)
  refine ⟨hstraying, herror, hslotted, hnone, ?_⟩
  have heq : ParseTree.rule "kotlinFile" [.rule "modifiers" [], .terminal "99" "x\\n"] = tree :=
    (htree _).mpr (by decide +kernel)
  rw [hbuilt, ← heq]
  rfl

end ParseTree

end GoldenTree
