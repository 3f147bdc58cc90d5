import GoldenTree.Golden.Normal
import GoldenTree.Proofs.Text.Breaks
import GoldenTree.Proofs.Text.Trim

/-! The normal form of golden text, line by line. A text that begins and ends with characters that
stay has a normal form that is its own normal form. -/
namespace GoldenTree.Golden

open Text

/-- A character that is dropped neither from a line nor from the edges of a text. -/
def Solid (c : Char) : Prop := isBlank c = false ∧ isEdge c = false

instance (c : Char) : Decidable (Solid c) := inferInstanceAs (Decidable (_ ∧ _))

def StartsSolid (s : List Char) : Prop := ∃ c rest, s = c :: rest ∧ Solid c

def EndsSolid (s : List Char) : Prop := ∃ front c, s = front ++ [c] ∧ Solid c

-- One character is looked at and not all there are, whatever is imported.
attribute [local instance (2000)] Option.decidableExistsMem

instance (s : List Char) : Decidable (StartsSolid s) :=
  decidable_of_iff (∃ c ∈ s.head?, Solid c) <| by
    simp only [StartsSolid, Option.mem_def, List.head?_eq_some_iff]
    exact ⟨fun ⟨c, ⟨rest, hs⟩, hc⟩ => ⟨c, rest, hs, hc⟩, fun ⟨c, rest, hs, hc⟩ => ⟨c, ⟨rest, hs⟩, hc⟩⟩

instance (s : List Char) : Decidable (EndsSolid s) :=
  decidable_of_iff (∃ c ∈ s.getLast?, Solid c) <| by
    simp only [EndsSolid, Option.mem_def, List.getLast?_eq_some_iff]
    exact ⟨fun ⟨c, ⟨front, hs⟩, hc⟩ => ⟨front, c, hs, hc⟩,
      fun ⟨front, c, hs, hc⟩ => ⟨c, ⟨front, hs⟩, hc⟩⟩

variable {s t line : List Char} {lines : List (List Char)} {c : Char}

theorem ne_break_of_not_isEdge (h : isEdge c = false) : c ≠ '\n' ∧ c ≠ '\r' := by
  constructor <;>
  · rintro rfl
    cases h

theorem Solid.ne_newline (h : Solid c) : c ≠ '\n' := (ne_break_of_not_isEdge h.2).1

theorem Solid.ne_return (h : Solid c) : c ≠ '\r' := (ne_break_of_not_isEdge h.2).2

theorem StartsSolid.append (h : StartsSolid s) (t : List Char) : StartsSolid (s ++ t) := by
  obtain ⟨c, rest, rfl, hc⟩ := h
  exact ⟨c, rest ++ t, rfl, hc⟩

theorem EndsSolid.append (s : List Char) (h : EndsSolid t) : EndsSolid (s ++ t) := by
  obtain ⟨front, c, rfl, hc⟩ := h
  exact ⟨s ++ front, c, by rw [List.append_assoc], hc⟩

theorem EndsSolid.getLast?_ne_return (h : EndsSolid s) : s.getLast? ≠ some '\r' := by
  obtain ⟨front, c, rfl, hc⟩ := h
  simpa using hc.ne_return

theorem EndsSolid.trimEnd (h : EndsSolid s) : trimEnd s = s := by
  obtain ⟨front, c, rfl, hc⟩ := h
  rw [Text.trimEnd, dropEndWhile_append_singleton, if_neg (by simp [hc.1])]

theorem EndsSolid.endLine (h : EndsSolid s) : endLine s = s ++ ['\n'] := by
  obtain ⟨front, c, rfl, hc⟩ := h
  rw [Golden.endLine, if_neg (by simpa using hc.ne_newline)]

theorem StartsSolid.trim (hstart : StartsSolid s) (hend : EndsSolid s) : trim s = s := by
  obtain ⟨c, rest, hfirst, hc⟩ := hstart
  obtain ⟨front, d, hlast, hd⟩ := hend
  exact trim_eq_self ⟨c, rest, hfirst, hc.1⟩ ⟨front, d, hlast, hd.1⟩

/-- Solid ends stand: only what follows them is trimmed. -/
theorem trimEdges_append (hstart : StartsSolid s) (hend : EndsSolid s) (t : List Char) :
    trimEdges (s ++ t) = s ++ dropEndWhile isEdge t := by
  have hdrop : (s ++ t).dropWhile isEdge = s ++ t := by
    obtain ⟨c, rest, rfl, hc⟩ := hstart
    simp [hc.2]
  obtain ⟨front, c, rfl, hc⟩ := hend
  rw [trimEdges, hdrop, dropEndWhile_append hc.2]

/-- The lines of a text in normal form. -/
def normalLines (s : List Char) : List (List Char) :=
  (splitAt '\n' (unifyBreaks (trimEdges s))).map trimEnd

theorem normalChars_eq (s : List Char) :
    normalChars s = endLine (join ['\n'] (normalLines s)) := rfl

theorem normalLines_ne_nil (s : List Char) : normalLines s ≠ [] := by
  simpa [normalLines] using splitAt_ne_nil _ _

theorem not_mem_normalLines (h : line ∈ normalLines s) : '\n' ∉ line ∧ '\r' ∉ line := by
  obtain ⟨piece, hpiece, rfl⟩ := List.mem_map.mp h
  refine ⟨fun hc => not_mem_of_mem_splitAt hpiece (mem_of_mem_trimEnd hc), fun hc => ?_⟩
  have hmem := mem_of_mem_splitAt hpiece (mem_of_mem_trimEnd hc)
  exact not_mem_unifyBreaks _ hmem

theorem trimEnd_of_mem_normalLines (h : line ∈ normalLines s) : trimEnd line = line := by
  obtain ⟨piece, -, rfl⟩ := List.mem_map.mp h
  exact trimEnd_trimEnd piece

/-- Cut at its newlines, a normal text gives its lines and nothing behind the last one. -/
theorem splitAt_normalChars (s : List Char) : ∃ behind,
    splitAt '\n' (normalChars s) = normalLines s ++ behind ∧ ∀ piece ∈ behind, piece = [] := by
  have hlines : splitAt '\n' (join ['\n'] (normalLines s)) = normalLines s :=
    splitAt_join (normalLines_ne_nil s) fun piece hpiece => (not_mem_normalLines hpiece).1
  rw [normalChars_eq, endLine]
  split
  · exact ⟨[], by simp [hlines], by simp⟩
  · exact ⟨[[]], by rw [splitAt_append_sep, hlines]; rfl, by simp⟩

/-- A beginning that stands on one line of the text gives the first lines, cut at its carriage
returns. -/
theorem normalLines_append (hstart : StartsSolid s) (hend : EndsSolid s) (hs : '\n' ∉ s)
    (ht : ∀ c ∈ t.head?, c = '\n' ∨ c = '\r') :
    ∃ more, normalLines (s ++ t) = (splitAt '\r' s).map trimEnd ++ more := by
  have hrest : ∀ c ∈ (dropEndWhile isEdge t).head?, c = '\n' ∨ c = '\r' := by
    intro c hc
    obtain ⟨rest, hrest⟩ : dropEndWhile isEdge t <+: t := List.rdropWhile_prefix isEdge t
    apply ht
    rw [← hrest, List.head?_append]
    simp [Option.mem_def.mp hc]
  rw [normalLines, trimEdges_append hstart hend, unifyBreaks_append (.inl hend.getLast?_ne_return)]
  cases h : dropEndWhile isEdge t with
  | nil =>
    refine ⟨[], ?_⟩
    rw [unifyBreaks_of_not_mem List.not_mem_nil, List.append_nil, splitAt_unifyBreaks hs,
      List.append_nil]
  | cons c rest =>
    obtain ⟨rest', hrest'⟩ := unifyBreaks_cons_break (hrest c (by simp [h])) rest
    rw [hrest', splitAt_append_sep, List.map_append, splitAt_unifyBreaks hs]
    exact ⟨_, rfl⟩

/-- Lines as normal form leaves them, with solid ends. -/
structure Tidy (lines : List (List Char)) : Prop where
  noBreak : ∀ line ∈ lines, '\n' ∉ line ∧ '\r' ∉ line
  trimmed : ∀ line ∈ lines, trimEnd line = line
  starts : StartsSolid (join ['\n'] lines)
  ends : EndsSolid (join ['\n'] lines)

namespace Tidy

theorem ne_nil (h : Tidy lines) : lines ≠ [] := by
  rintro rfl
  obtain ⟨c, rest, hnil, -⟩ := h.starts
  cases hnil

theorem normalLines_eq (h : Tidy lines) : normalLines (join ['\n'] lines ++ ['\n']) = lines := by
  have hreturn : '\r' ∉ join ['\n'] lines := by
    intro hmem
    rcases mem_join hmem with hmem | ⟨line, hline, hmem⟩
    · simp at hmem
    · exact (h.noBreak line hline).2 hmem
  have htrim : dropEndWhile isEdge ['\n'] = [] := by decide
  rw [normalLines, trimEdges_append h.starts h.ends, htrim, List.append_nil,
    unifyBreaks_of_not_mem hreturn,
    splitAt_join h.ne_nil fun line hline => (h.noBreak line hline).1]
  exact (List.map_congr_left h.trimmed).trans (List.map_id lines)

theorem endLine_eq (h : Tidy lines) :
    endLine (join ['\n'] lines) = join ['\n'] lines ++ ['\n'] := h.ends.endLine

theorem normalChars_eq_self (h : Tidy lines) :
    normalChars (join ['\n'] lines ++ ['\n']) = join ['\n'] lines ++ ['\n'] := by
  rw [normalChars_eq, h.normalLines_eq, h.endLine_eq]

end Tidy

theorem startsSolid_join (h : StartsSolid line) (lines : List (List Char)) :
    StartsSolid (join ['\n'] (line :: lines)) := by
  cases lines with
  | nil => exact h
  | cons next lines => exact (h.append _).append _

theorem endsSolid_join_concat (h : EndsSolid line) (lines : List (List Char)) :
    EndsSolid (join ['\n'] (lines ++ [line])) := by
  by_cases hne : lines = []
  · rw [hne]
    exact h
  · rw [join_append_singleton hne]
    exact EndsSolid.append _ (EndsSolid.append ['\n'] h)

theorem startsSolid_normalLines (h : StartsSolid (trimEdges s)) :
    StartsSolid (join ['\n'] (normalLines s)) := by
  obtain ⟨c, rest, htrim, hc⟩ := h
  rw [normalLines, htrim, unifyBreaks_cons hc.ne_return, splitAt, if_neg hc.ne_newline]
  obtain ⟨piece, pieces, hpieces⟩ :=
    List.exists_cons_of_ne_nil (splitAt_ne_nil '\n' (unifyBreaks rest))
  have hfirst : StartsSolid (trimEnd ([] ++ [c] ++ piece)) := by
    rw [trimEnd, dropEndWhile_append hc.1]
    exact ⟨c, _, rfl, hc⟩
  simp only [hpieces, List.map_cons]
  exact startsSolid_join hfirst _

theorem endsSolid_normalLines (h : EndsSolid (trimEdges s)) :
    EndsSolid (join ['\n'] (normalLines s)) := by
  obtain ⟨front, c, htrim, hc⟩ := h
  obtain ⟨pieces, last, hpieces⟩ : ∃ pieces last,
      splitAt '\n' (unifyBreaks front ++ [c]) = pieces ++ [last ++ [c]] :=
    exists_splitAt_append _ (by simpa using hc.ne_newline.symm)
  have hlast : EndsSolid (last ++ [c]) := ⟨last, c, rfl, hc⟩
  rw [normalLines, htrim, unifyBreaks_concat hc.ne_return hc.ne_newline, hpieces, List.map_append,
    List.map_singleton, hlast.trimEnd]
  exact endsSolid_join_concat hlast _

theorem tidy_normalLines (hstart : StartsSolid (trimEdges s)) (hend : EndsSolid (trimEdges s)) :
    Tidy (normalLines s) where
  noBreak _ hline := not_mem_normalLines hline
  trimmed _ hline := trimEnd_of_mem_normalLines hline
  starts := startsSolid_normalLines hstart
  ends := endsSolid_normalLines hend

theorem endsSolid_join (hne : lines ≠ []) (h : ∀ line ∈ lines, EndsSolid line) :
    EndsSolid (join ['\n'] lines) := by
  obtain ⟨front, last, rfl⟩ := (List.eq_nil_or_concat' lines).resolve_left hne
  exact endsSolid_join_concat (h last (by simp)) front

/-- Lines with solid ends are as normal form leaves them. -/
theorem tidy_of_endsSolid (hstart : StartsSolid line)
    (h : ∀ l ∈ line :: lines, EndsSolid l ∧ '\n' ∉ l ∧ '\r' ∉ l) : Tidy (line :: lines) where
  noBreak l hl := (h l hl).2
  trimmed l hl := (h l hl).1.trimEnd
  starts := startsSolid_join hstart lines
  ends := endsSolid_join (by simp) fun l hl => (h l hl).1

/-- With solid ends, a second pass over normal text changes nothing. -/
theorem normalChars_normalChars (hstart : StartsSolid (trimEdges s))
    (hend : EndsSolid (trimEdges s)) : normalChars (normalChars s) = normalChars s := by
  have htidy := tidy_normalLines hstart hend
  rw [normalChars_eq s, htidy.endLine_eq, htidy.normalChars_eq_self]

end GoldenTree.Golden
