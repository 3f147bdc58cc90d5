import GoldenTree.Proofs.Text.Pieces
import GoldenTree.Proofs.Text.Trim
import GoldenTree.Proofs.Tree.Subtrees
import GoldenTree.Reference.Dump
import GoldenTree.Reference.Render

/-! Reference dumps read back. Each element is read from its own line as itself, and two spaces for
each level give the nesting. -/
namespace GoldenTree.Reference

open Text

namespace Element

/-- The elements of a written dump. What is of no marked form is not empty and begins with a
character that is not blank, and nothing at the end of a line is taken for a part of its break. -/
def Written : Element → Prop
  | error description => '\n' ∉ description.toList ∧ description.toList.getLast? ≠ some '\r'
  | other content => (∃ c rest, content.toList = c :: rest ∧ isBlank c = false) ∧
      '\n' ∉ content.toList ∧ content.toList.getLast? ≠ some '\r' ∧
      ∀ e : Element, e.Marked → e.render ≠ content.toList
  | e => e.Marked

theorem isBlank_of_isTypeChar {c : Char} (h : isTypeChar c = true) : isBlank c = false := by
  have hrange : (0x41 ≤ c.toNat ∧ c.toNat ≤ 0x5A ∨ c = '_') ∨ 0x61 ≤ c.toNat ∧ c.toNat ≤ 0x7A := by
    simpa [isTypeChar, isUpper, Char.le_def, UInt32.le_iff_toNat_le] using h
  rcases hrange with (hrange | rfl) | hrange
  · simp [isBlank]
    omega
  · decide
  · simp [isBlank]
    omega

theorem render_token (type text : String) : (token type text).render =
    "PsiElement(".toList ++ (type.toList ++ (")('".toList ++ (text.toList ++ "')".toList))) := by
  simp [render]

theorem render_error (description : String) :
    (error description).render = "PsiErrorElement:".toList ++ description.toList := by
  simp [render]

theorem render_whitespace (content : String) : (whitespace content).render =
    "PsiWhiteSpace('".toList ++ (content.toList ++ "')".toList) := by
  simp [render]

namespace Written

variable {e : Element}

theorem valid (h : e.Written) : e.Valid := by
  cases e with
  | error description => exact h.1
  | other content => exact ⟨h.2.1, h.2.2.2⟩
  | _ => exact h

theorem newline_not_mem (h : e.Written) : '\n' ∉ e.render := by
  cases e with
  | rule type => exact fun hmem => absurd (h.2 _ hmem) (by decide)
  | token type text =>
    have htype : '\n' ∉ type.toList := fun hmem => absurd (h.2.1 _ hmem) (by decide)
    rw [render_token]
    simp [htype, h.2.2]
  | error description =>
    rw [render_error]
    simpa using h.1
  | whitespace content =>
    rw [render_whitespace]
    simpa [Written, Marked] using h
  | other content => exact h.2.1

theorem begins (h : e.Written) : ∃ c rest, e.render = c :: rest ∧ isBlank c = false := by
  cases e with
  | rule type =>
    obtain ⟨c, rest, htype⟩ := List.exists_cons_of_ne_nil (mt String.toList_eq_nil_iff.mp h.1)
    have hc : isUpper c = true := h.2 c (by simp [htype])
    exact ⟨c, rest, htype, isBlank_of_isTypeChar (by simp [isTypeChar, hc])⟩
  | token type text => exact ⟨'P', _, render_token .., by decide⟩
  | error description => exact ⟨'P', _, render_error .., by decide⟩
  | whitespace content => exact ⟨'P', _, render_whitespace .., by decide⟩
  | other content => exact h.1

theorem getLast?_ne_return (h : e.Written) : e.render.getLast? ≠ some '\r' := by
  cases e with
  | rule type =>
    exact fun hlast => absurd (h.2 _ (List.mem_of_getLast? hlast)) (by decide)
  | token type text =>
    rw [render_token]
    simp only [List.getLast?_append]
    simp
  | error description =>
    rw [render_error, List.getLast?_append]
    intro hlast
    rcases Option.or_eq_some_iff.mp hlast with hlast | ⟨-, hlast⟩
    · exact h.2 hlast
    · exact absurd hlast (by decide)
  | whitespace content =>
    rw [render_whitespace]
    simp only [List.getLast?_append]
    simp
  | other content => exact h.2.2.1

end Written

end Element

theorem utf8Length_replicate (n : Nat) : utf8Length (List.replicate n ' ') = n := by
  induction n with
  | zero => rfl
  | succ n ih =>
    have hspace : Char.utf8Size ' ' = 1 := by decide
    rw [utf8Length] at ih
    rw [List.replicate_succ, utf8Length, List.map_cons, List.sum_cons, ih, hspace, Nat.add_comm]

section Line

variable {entry : Nat × Element} (h : entry.2.Written)
include h

theorem newline_not_mem_line : '\n' ∉ line entry := by
  simp [line, h.newline_not_mem]

theorem line_ne_nil : line entry ≠ [] := by
  obtain ⟨c, rest, hrender, -⟩ := h.begins
  simp [line, hrender]

theorem getLast?_line : (line entry).getLast? ≠ some '\r' := by
  obtain ⟨c, rest, hrender, -⟩ := h.begins
  have hlast := h.getLast?_ne_return
  rw [hrender] at hlast
  rwa [line, hrender, List.getLast?_append_cons]

/-- A line is read at its depth as its element. -/
theorem classify?_line : classify? (line entry) = some entry := by
  obtain ⟨c, rest, hrender, hc⟩ := h.begins
  have hstart : trimStart entry.2.render = entry.2.render := trimStart_eq_self h.begins
  have hshown : trimStart (line entry) = entry.2.render := by
    rw [line, trimStart_replicate_append, hstart]
  have hblank : (trim (line entry)).isEmpty = false := by
    rw [trim, hshown, List.isEmpty_eq_false_iff]
    exact trimEnd_ne_nil (by simp [hrender]) hc
  have hmargin : utf8Length (margin (line entry)) / indentWidth = entry.1 := by
    rw [line, margin_replicate_append hstart, utf8Length_replicate]
    exact Nat.mul_div_cancel_left _ (by decide)
  have hread : Element.parse? entry.2.render = some entry.2 :=
    Element.parse?_eq_some_iff.mpr ⟨h.valid, rfl⟩
  rw [classify?, hblank, hshown, hmargin, hread]
  rfl

end Line

/-- A dump is read as the forest that was written, at whatever level it begins and below whatever
header, with or without a newline at its end. -/
theorem parse_write (level : Nat) {header : String} (hheader : '\n' ∉ header.toList)
    {forest : List (Tree Element)} (h : ∀ t ∈ Tree.forestSubtrees forest, t.label.Written) :
    parse (write level header forest) = .node (.rule "kotlinFile") forest ∧
    parse (write level header forest ++ "\n") = .node (.rule "kotlinFile") forest := by
  let entries := Tree.flatForest level forest
  have hwritten : ∀ entry ∈ entries, entry.2.Written := by
    intro entry hentry
    have hlabel : entry.2 ∈ (Tree.forestSubtrees forest).map Tree.label := by
      rw [Tree.map_label_forestSubtrees level]
      exact List.mem_map_of_mem hentry
    obtain ⟨t, ht, heq⟩ := List.mem_map.mp hlabel
    exact heq ▸ h t ht
  have hlines : ∀ l ∈ entries.map line, '\n' ∉ l ∧ l ≠ [] ∧ l.getLast? ≠ some '\r' := by
    intro l hl
    obtain ⟨entry, hentry, rfl⟩ := List.mem_map.mp hl
    have hentry := hwritten entry hentry
    exact ⟨newline_not_mem_line hentry, line_ne_nil hentry, getLast?_line hentry⟩
  have hread : (entries.map line).filterMap classify? = entries := by
    rw [List.filterMap_map]
    exact (List.filterMap_congr fun entry hentry => classify?_line (hwritten entry hentry)).trans
      List.filterMap_some
  have htree : Tree.ofOutline root entries = .node (.rule "kotlinFile") forest :=
    Tree.ofOutline_flatForest_self root level forest
  constructor
  · rw [parse, write, String.toList_ofList, drop_lines_join hheader hlines, hread, htree]
  · have hnewline : "\n".toList = ['\n'] := rfl
    rw [parse, write, String.toList_append, String.toList_ofList, hnewline,
      drop_lines_join_newline hheader hlines, hread, htree]

/-- A function without a name, with texts that look like parts of the notation. -/
def namelessFunction : List (Tree Element) :=
  [.node (.rule "FUN") [.node (.token "fun" "fun") [], .node (.whitespace "\\n')") [],
    .node (.error "Expecting '(' ") [.node (.other "<empty list>") []]],
   .node (.token "STRING" "PsiElement(a)('b')") []]

-- Letters are looked at one by one, whatever is imported.
attribute [local instance (2000)] List.decidableBAll

theorem namelessFunction_written :
    ∀ t ∈ Tree.forestSubtrees namelessFunction, t.label.Written := by
  have hread : Element.parse? "<empty list>".toList = some (.other "<empty list>") := by decide
  have hother : (Element.other "<empty list>").Valid :=
    (Element.parse?_eq_some_iff.mp hread).1
  intro t ht
  simp only [namelessFunction, Tree.forestSubtrees, Tree.subtrees, List.append_nil,
    List.nil_append, List.cons_append, List.mem_cons, List.not_mem_nil, or_false] at ht
  rcases ht with rfl | rfl | rfl | rfl | rfl | rfl
  · exact ⟨by decide, by decide⟩
  · exact ⟨by decide, by decide, by decide⟩
  · exact (by decide : '\n' ∉ "\\n')".toList)
  · exact ⟨by decide, by decide⟩
  · exact ⟨⟨'<', _, rfl, by decide⟩, by decide, by decide, hother.2⟩
  · exact ⟨by decide, by decide, by decide⟩

theorem parse_write_namelessFunction :
    '\n' ∉ "KtFile: a.kt".toList ∧
    (∀ t ∈ Tree.forestSubtrees namelessFunction, t.label.Written) ∧
    parse (write 1 "KtFile: a.kt" namelessFunction) =
      .node (.rule "kotlinFile") namelessFunction ∧
    parse (write 1 "KtFile: a.kt" namelessFunction ++ "\n") =
      .node (.rule "kotlinFile") namelessFunction := by
  have hheader : '\n' ∉ "KtFile: a.kt".toList := by decide
  exact ⟨hheader, namelessFunction_written, parse_write 1 hheader namelessFunction_written⟩

end GoldenTree.Reference
