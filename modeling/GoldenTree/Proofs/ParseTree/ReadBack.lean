import GoldenTree.Proofs.ParseTree.Lines
import GoldenTree.Proofs.Tree.ReadBack

/-! A rendered tree reads back as a dump: the header, and below it a node for every node below the
root of the tree. -/
namespace GoldenTree

open Text

namespace ParseTree

/-- A dump shows a tree: a rule by its name, over what shows its children, and a terminal by its
name and its text. -/
inductive Shows : ParseTree → Dump → Prop
  | rule {name : String} {children : List ParseTree} {below : List Dump} :
      List.Forall₂ Shows children below → Shows (.rule name children) (.node name below)
  | terminal {name text : String} :
      Shows (.terminal name text) (.node (name ++ "(\"" ++ text ++ "\")") [])

mutual

theorem shows_labels : ∀ t : ParseTree, Shows t t.labels
  | .rule _ children => .rule (shows_forestLabels children)
  | .terminal _ _ => .terminal

theorem shows_forestLabels : ∀ ts : List ParseTree, List.Forall₂ Shows ts (forestLabels ts)
  | [] => .nil
  | t :: ts => .cons (shows_labels t) (shows_forestLabels ts)

end

variable {t : ParseTree} {header : String}

/-- Names without white space, and texts on one line. -/
abbrev Legible (t : ParseTree) : Prop := t.Spelled (isBlank · = false) (· ≠ '\n')

theorem trim_shown (ht : t.Legible) {u : ParseTree} (hu : u ∈ forestSubtrees t.children) :
    trim u.shown.toList = u.shown.toList :=
  trim_eq_self (exists_name_of_shown (ht.ne_empty u hu) (ht.names u hu))
    (exists_end_of_shown (ht.ne_empty u hu) (ht.names u hu) (by decide))

theorem newline_not_mem_shown (ht : t.Legible) {u : ParseTree}
    (hu : u ∈ forestSubtrees t.children) : '\n' ∉ u.shown.toList := by
  refine not_mem_shown (fun hmem => ?_) (fun s hs hmem => ht.texts u hu s hs _ hmem rfl) (by decide)
  exact absurd (ht.names u hu _ hmem) (by decide)

/-- The header is the line of a node above all others. -/
theorem renderChildren_header (t : ParseTree) (header : String) :
    Dump.renderChildren (.node Dump.rootLabel [.node header (forestLabels t.children)]) =
      t.render header := by
  simp [Dump.renderChildren, render, Tree.flatForest, Tree.flat, Dump.line]

theorem parse_render (ht : t.Legible) (hnewline : '\n' ∉ header.toList)
    (htrim : trim header.toList = header.toList) :
    Dump.parse (t.render header) =
      .node Dump.rootLabel [.node header (forestLabels t.children)] := by
  have hentries : ∀ e ∈ Tree.flatForest 0 [.node header (forestLabels t.children)],
      Dump.IsLine e.2 := by
    intro e he
    simp only [Tree.flatForest, Tree.flat, List.append_nil, List.mem_cons] at he
    rcases he with rfl | he
    · exact ⟨hnewline, htrim⟩
    · obtain ⟨u, hu, hshown⟩ := exists_of_mem_flatForest he
      rw [hshown]
      exact ⟨newline_not_mem_shown ht hu, trim_shown ht hu⟩
  rw [← renderChildren_header]
  exact Dump.parse_flatForest 0 hentries

/-- A rendered tree reads back as the header over what shows the tree, and that dump is written as
the same text again. The header stands for the root, whose own name is not read. -/
theorem reads_back (ht : t.Legible) (hnewline : '\n' ∉ header.toList)
    (htrim : trim header.toList = header.toList) :
    ∃ below, Dump.parse (t.render header) = .node "<root>" [.node header below] ∧
      List.Forall₂ Shows t.children below ∧
      (Dump.parse (t.render header)).renderChildren = t.render header := by
  have hparse := parse_render ht hnewline htrim
  refine ⟨forestLabels t.children, hparse, shows_forestLabels _, ?_⟩
  rw [hparse, renderChildren_header]

/-- A function with a parameter list that ends in the middle. -/
def brokenFunction : ParseTree :=
  .rule "kotlinFile" [.rule "functionDeclaration" [.terminal "FUN" "fun", .terminal "LPAREN" "("],
    .rule "semis" [.terminal "NL" "\\n"], .terminal "EOF" "<EOF>"]

-- Letters are looked at one by one, whatever is imported.
attribute [local instance (2000)] List.decidableBAll

theorem reads_back_brokenFunction :
    brokenFunction.Legible ∧ ∃ below,
      Dump.parse (brokenFunction.render "File: a.kt - 0") =
        .node "<root>" [.node "File: a.kt - 0" below] ∧
      List.Forall₂ Shows brokenFunction.children below ∧
      (Dump.parse (brokenFunction.render "File: a.kt - 0")).renderChildren =
        brokenFunction.render "File: a.kt - 0" := by
  have hlegible : brokenFunction.Legible := by
    constructor <;> decide
  exact ⟨hlegible, reads_back hlegible (by decide) (by decide)⟩

end ParseTree

end GoldenTree
