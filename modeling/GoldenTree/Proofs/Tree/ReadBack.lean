import GoldenTree.Proofs.Text.Pieces
import GoldenTree.Proofs.Text.Trim
import GoldenTree.Proofs.Tree.Subtrees
import GoldenTree.Tree.Dump

/-! Dumps read back from the text that is written of them, at any indentation. What is read from a
text has only labels that can be written. -/
namespace GoldenTree.Dump

open Text

/-- A label that a line of a dump can carry. -/
structure IsLine (label : String) : Prop where
  newline : '\n' ∉ label.toList
  trimmed : trim label.toList = label.toList

/-- A line of a dump without its newline. -/
def indented (indent : Nat) (e : Nat × String) : List Char :=
  List.replicate (indent + 2 * e.1) ' ' ++ e.2.toList

section Line

variable {indent : Nat} {e : Nat × String}

/-- A line is read with the depth of its node, in blanks, and with its label. -/
theorem entry_indented (h : IsLine e.2) : entry (indented indent e) = (indent + 2 * e.1, e.2) := by
  have hmargin : margin (indented indent e) = List.replicate (indent + 2 * e.1) ' ' :=
    margin_replicate_append (trim_eq_self_iff.mp h.trimmed).1
  have htrim : trim (indented indent e) = e.2.toList := by
    rw [indented, trim, trimStart_replicate_append, ← trim, h.trimmed]
  rw [entry, hmargin, htrim, List.length_replicate, String.ofList_toList]

theorem newline_not_mem_indented (h : IsLine e.2) : '\n' ∉ indented indent e := by
  simp [indented, h.newline]

theorem getLast?_indented (h : IsLine e.2) : (indented indent e).getLast? ≠ some '\r' := by
  rw [indented, List.getLast?_append]
  intro hlast
  rcases Option.or_eq_some_iff.mp hlast with hlast | ⟨-, hlast⟩
  · exact getLast?_ne_return (trim_eq_self_iff.mp h.trimmed).2 hlast
  · exact absurd (List.eq_of_mem_replicate (List.mem_of_getLast? hlast)) (by decide)

end Line

/-- A forest reads back from its text. -/
theorem parse_flatForest (indent : Nat) {ts : List Dump}
    (h : ∀ e ∈ Tree.flatForest 0 ts, IsLine e.2) :
    parse (String.ofList ((Tree.flatForest 0 ts).flatMap (line indent))) = .node rootLabel ts := by
  have htext : (Tree.flatForest 0 ts).flatMap (line indent) =
      unlines ((Tree.flatForest 0 ts).map (indented indent)) := by
    rw [unlines, List.flatMap_map]
    rfl
  have hlines : lines (unlines ((Tree.flatForest 0 ts).map (indented indent))) =
      (Tree.flatForest 0 ts).map (indented indent) := by
    refine lines_unlines fun line hline => ?_
    obtain ⟨e, he, rfl⟩ := List.mem_map.mp hline
    exact ⟨newline_not_mem_indented (h e he), getLast?_indented (h e he)⟩
  have hentries : ((Tree.flatForest 0 ts).map (indented indent)).map entry =
      Tree.rescale (indent + 2 * ·) (Tree.flatForest 0 ts) := by
    rw [List.map_map]
    exact List.map_congr_left fun e he => entry_indented (h e he)
  rw [parse, String.toList_ofList, htext, ofLines, hlines, hentries]
  exact Tree.ofOutline_flatForest (fun d => by omega) rootLabel 0 ts

theorem isLine_of_mem_flatForest {ts : List Dump}
    (h : ∀ u ∈ Tree.forestSubtrees ts, IsLine u.label) :
    ∀ e ∈ Tree.flatForest 0 ts, IsLine e.2 := by
  intro e he
  have hlabel : e.2 ∈ (Tree.forestSubtrees ts).map Tree.label := by
    rw [Tree.map_label_forestSubtrees 0]
    exact List.mem_map_of_mem he
  obtain ⟨u, hu, heq⟩ := List.mem_map.mp hlabel
  exact heq ▸ h u hu

/-- What is read from a text can be written. -/
theorem isLine_of_mem {text : String} {u : Dump}
    (h : u ∈ Tree.forestSubtrees (parse text).children) : IsLine u.label := by
  have hlabel : u.label ∈ ((lines text.toList).map entry).map (·.2) := by
    rw [← Tree.map_label_forestOfOutline]
    exact List.mem_map_of_mem h
  obtain ⟨e, he, heq⟩ := List.mem_map.mp hlabel
  obtain ⟨line, hline, rfl⟩ := List.mem_map.mp he
  have htext : u.label.toList = trim line := by rw [← heq, entry, String.toList_ofList]
  refine ⟨fun hc => ?_, ?_⟩
  · rw [htext] at hc
    exact newline_not_mem_of_mem_lines hline (mem_of_mem_trim hc)
  · rw [htext, trim_trim]

/-- Writing undoes reading: the dump of a text reads back from the lines below its root, and every
node of it from its own lines, at any indentation. -/
theorem parse_written_again (text : String) :
    parse (parse text).renderChildren = parse text ∧
    ∀ n ∈ Tree.forestSubtrees (parse text).children, ∀ indent : Nat,
      parse (render indent n) = .node "<root>" [n] := by
  have hlines : ∀ u ∈ Tree.forestSubtrees (parse text).children, IsLine u.label :=
    fun u hu => isLine_of_mem hu
  refine ⟨parse_flatForest 0 (isLine_of_mem_flatForest hlines), fun n hn indent => ?_⟩
  have hbelow : ∀ u ∈ Tree.forestSubtrees [n], IsLine u.label := by
    intro u hu
    rw [Tree.forestSubtrees, Tree.forestSubtrees, List.append_nil] at hu
    exact hlines u (Tree.forestSubtrees_subset hn hu)
  have hread := parse_flatForest indent (isLine_of_mem_flatForest hbelow)
  rw [Tree.flatForest, Tree.flatForest, List.append_nil] at hread
  exact hread

/-- Two spaces, a tab and a carriage return in front of the lines, one of which is empty. -/
def ragged : String := "  fun\n\t \r\n\t x\ry \n\n a"

theorem parse_ragged : parse ragged =
    .node "<root>" [.node "fun" [], .node "" [], .node "x\ry" [], .node "" [.node "a" []]] := by
  decide +kernel

theorem parse_written_again_ragged :
    parse (parse ragged).renderChildren = parse ragged ∧
    .node "" [.node "a" []] ∈ Tree.forestSubtrees (parse ragged).children ∧
    parse (render 3 (.node "" [.node "a" []])) = .node "<root>" [.node "" [.node "a" []]] := by
  have hnode : .node "" [.node "a" []] ∈ Tree.forestSubtrees (parse ragged).children := by
    rw [parse_ragged]
    decide +kernel
  obtain ⟨hwhole, hnodes⟩ := parse_written_again ragged
  exact ⟨hwhole, hnode, hnodes _ hnode 3⟩

end GoldenTree.Dump
