import GoldenTree.Proofs.Golden.Fixpoint
import GoldenTree.Proofs.Golden.Reconcile

/-! Texts that differ in their line breaks and in blanks at the ends of their lines. The edges of a
text are trimmed before its breaks are unified, but no break is cut in two by that, so that the
order makes no difference; and a blank at the end of a line is dropped with the line's other blanks
if it is not at the edge of the text. -/
namespace GoldenTree

namespace Text

variable {pad : Nat → List Char} {line piece : List Char} {lines : List (List Char)} {c : Char}

/-- How the lines of a text end. -/
inductive LineEnding where
  | newline
  | both
  | carriageReturn
  deriving Repr, DecidableEq

def LineEnding.chars : LineEnding → List Char
  | newline => ['\n']
  | both => ['\r', '\n']
  | carriageReturn => ['\r']

/-- The lines, with something behind each of them by its number. -/
def padLines (pad : Nat → List Char) (lines : List (List Char)) : List (List Char) :=
  lines.mapIdx fun i line => line ++ pad i

/-- The text with something behind each line, and with other line breaks. -/
def restyle (ending : LineEnding) (pad : Nat → List Char) (s : String) : String :=
  String.ofList (join ending.chars (padLines pad (splitAt '\n' s.toList)))

theorem padLines_cons (pad : Nat → List Char) (line : List Char) (lines : List (List Char)) :
    padLines pad (line :: lines) = (line ++ pad 0) :: padLines (fun i => pad (i + 1)) lines :=
  List.mapIdx_cons

theorem exists_of_mem_padLines (h : piece ∈ padLines pad lines) :
    ∃ line ∈ lines, ∃ i, piece = line ++ pad i := by
  obtain ⟨i, hi, rfl⟩ := List.mem_mapIdx.mp h
  exact ⟨lines[i], List.getElem_mem hi, i, rfl⟩

theorem not_mem_padLines (hlines : ∀ line ∈ lines, c ∉ line) (hpad : ∀ i, c ∉ pad i) :
    ∀ piece ∈ padLines pad lines, c ∉ piece := by
  intro piece hpiece
  obtain ⟨line, hline, i, rfl⟩ := exists_of_mem_padLines hpiece
  exact List.not_mem_append (hlines line hline) (hpad i)

/-- One line break more is one newline more, if no second character of a break follows it. -/
theorem unifyBreaks_ending (ending : LineEnding) {s : List Char}
    (h : ending = .carriageReturn → s.head? ≠ some '\n') :
    unifyBreaks (ending.chars ++ s) = '\n' :: unifyBreaks s := by
  cases ending with
  | newline => exact unifyBreaks_cons (by decide) s
  | both => simp [LineEnding.chars, unifyBreaks, replacePair]
  | carriageReturn => exact unifyBreaks_append (s := ['\r']) (.inr (h rfl))

/-- Lines that are joined by any line break are joined by newlines once breaks are unified. -/
theorem unifyBreaks_join (ending : LineEnding) (hnewline : ∀ line ∈ lines, '\n' ∉ line)
    (hreturn : ∀ line ∈ lines, '\r' ∉ line) :
    unifyBreaks (join ending.chars lines) = join ['\n'] lines := by
  induction lines with
  | nil => rfl
  | cons line lines ih =>
    obtain ⟨hline, hlines⟩ := List.forall_mem_cons.mp hreturn
    cases lines with
    | nil => exact unifyBreaks_of_not_mem hline
    | cons next rest =>
      have hrest : ∀ piece ∈ next :: rest, '\n' ∉ piece := (List.forall_mem_cons.mp hnewline).2
      have hhead : ending = .carriageReturn →
          (join ending.chars (next :: rest)).head? ≠ some '\n' := by
        rintro rfl hhead
        rcases mem_join (List.mem_of_head? hhead) with hsep | ⟨piece, hpiece, hmem⟩
        · exact absurd hsep (by decide)
        · exact hrest piece hpiece hmem
      calc unifyBreaks (join ending.chars (line :: next :: rest))
          = unifyBreaks (line ++ (ending.chars ++ join ending.chars (next :: rest))) := by
            rw [join_cons_cons, List.append_assoc]
        _ = line ++ '\n' :: unifyBreaks (join ending.chars (next :: rest)) := by
            rw [unifyBreaks_append (.inl fun hlast => hline (List.mem_of_getLast? hlast)),
              unifyBreaks_of_not_mem hline, unifyBreaks_ending ending hhead]
        _ = line ++ '\n' :: join ['\n'] (next :: rest) := by rw [ih hrest hlines]
        _ = join ['\n'] (line :: next :: rest) := by
            rw [join_cons_cons, List.append_assoc, List.singleton_append]

end Text

namespace Golden

open Text

variable {s t front rest blanks : List Char} {pad : Nat → List Char}

section Edges

theorem isEdge_of_mem_unifyBreaks (h : ∀ c ∈ s, isEdge c = true) :
    ∀ c ∈ unifyBreaks s, isEdge c = true := by
  intro c hc
  rcases mem_unifyBreaks hc with rfl | hc
  · decide
  · exact h c hc

theorem dropWhile_unifyBreaks (s : List Char) :
    (unifyBreaks s).dropWhile isEdge = unifyBreaks (s.dropWhile isEdge) := by
  have hedges : ∀ c ∈ unifyBreaks (s.takeWhile isEdge), isEdge c = true :=
    isEdge_of_mem_unifyBreaks fun c hc => List.mem_takeWhile_imp hc
  have hhead := List.head?_dropWhile_not isEdge s
  conv_lhs => rw [← List.takeWhile_append_dropWhile (p := isEdge) (l := s)]
  cases hrest : s.dropWhile isEdge with
  | nil =>
    rw [List.append_nil, List.dropWhile_eq_nil_iff.mpr hedges]
    rfl
  | cons c rest =>
    have hc : isEdge c = false := by simpa [hrest] using hhead
    obtain ⟨hnewline, hreturn⟩ := ne_break_of_not_isEdge hc
    rw [unifyBreaks_append (.inr (by simpa using hnewline)), List.dropWhile_append_of_pos hedges,
      unifyBreaks_cons hreturn, List.dropWhile_cons_of_neg (by simp [hc])]

theorem dropEndWhile_unifyBreaks (s : List Char) :
    dropEndWhile isEdge (unifyBreaks s) = unifyBreaks (dropEndWhile isEdge s) := by
  obtain ⟨dropped, hs, hdropped⟩ := exists_dropEndWhile isEdge s
  have hedges : ∀ c ∈ unifyBreaks dropped, isEdge c = true := isEdge_of_mem_unifyBreaks hdropped
  conv_lhs => rw [hs]
  rcases List.eq_nil_or_concat' (dropEndWhile isEdge s) with hkept | ⟨front, c, hkept⟩
  · rw [hkept, List.nil_append]
    exact List.rdropWhile_eq_nil_iff.mpr hedges
  · have hc : isEdge c = false :=
      getLast?_dropEndWhile_not (by rw [hkept, List.getLast?_concat])
    obtain ⟨hnewline, hreturn⟩ := ne_break_of_not_isEdge hc
    rw [hkept, unifyBreaks_append (.inl (by simpa using hreturn)),
      dropEndWhile_append_of_pos hedges, unifyBreaks_concat hreturn hnewline,
      dropEndWhile_append_singleton, if_neg (by simp [hc])]

/-- No break stands half inside and half outside the edges. -/
theorem trimEdges_unifyBreaks (s : List Char) :
    trimEdges (unifyBreaks s) = unifyBreaks (trimEdges s) := by
  rw [trimEdges, dropWhile_unifyBreaks, dropEndWhile_unifyBreaks, ← trimEdges]

/-- What is all edge in front of a text is dropped. -/
theorem trimEdges_append_of_front (h : ∀ c ∈ front, isEdge c = true) (rest : List Char) :
    trimEdges (front ++ rest) = trimEdges rest := by
  rw [trimEdges, List.dropWhile_append_of_pos h, ← trimEdges]

/-- What stands between parts that are not all edge stays. -/
theorem trimEdges_append_of_not_edge (hfront : ∃ c ∈ front, isEdge c = false)
    (hrest : ∃ c ∈ rest, isEdge c = false) (between : List Char) :
    trimEdges (front ++ (between ++ rest)) =
      front.dropWhile isEdge ++ between ++ dropEndWhile isEdge rest := by
  have hkept : ¬ (front.dropWhile isEdge).isEmpty = true := by simpa using hfront
  rw [trimEdges, List.dropWhile_append, if_neg hkept, ← List.append_assoc,
    dropEndWhile_append_of_not hrest]

end Edges

/-- The lines of a text whose breaks are newlines, in normal form. -/
def trimmedLines (s : List Char) : List (List Char) := (splitAt '\n' (trimEdges s)).map trimEnd

/-- It makes no difference whether breaks are unified before or after the edges are trimmed. -/
theorem normalLines_eq_trimmedLines (s : List Char) :
    normalLines s = trimmedLines (unifyBreaks s) := by
  rw [trimmedLines, trimEdges_unifyBreaks, normalLines]

section Blanks

theorem map_trimEnd_splitAt_append (h : ∀ c ∈ blanks, isBlank c = true) (hnewline : '\n' ∉ blanks)
    (s : List Char) :
    (splitAt '\n' (s ++ blanks)).map trimEnd = (splitAt '\n' s).map trimEnd := by
  obtain ⟨pieces, last, hs⟩ := exists_splitAt '\n' s
  have hsame : trimEnd (last ++ blanks) = trimEnd (last ++ []) := by
    rw [List.append_nil, trimEnd, trimEnd, dropEndWhile_append_of_pos h]
  conv_rhs => rw [← List.append_nil s]
  rw [hs blanks hnewline, hs [] List.not_mem_nil, List.map_append, List.map_append,
    List.map_singleton, List.map_singleton, hsame]

/-- Spaces and tabs at the end of a line make no difference, be it ended by a newline or by the end
of the text. -/
theorem trimmedLines_append (front : List Char) (hblanks : ∀ c ∈ blanks, c = ' ' ∨ c = '\t')
    (hrest : rest = [] ∨ ∃ more, rest = '\n' :: more) :
    trimmedLines (front ++ (blanks ++ rest)) = trimmedLines (front ++ rest) := by
  have hedge : ∀ c ∈ blanks, isEdge c = true := by
    intro c hc
    rcases hblanks c hc with rfl | rfl <;> decide
  have hblank : ∀ c ∈ blanks, isBlank c = true := by
    intro c hc
    rcases hblanks c hc with rfl | rfl <;> decide
  have hnewline : '\n' ∉ blanks := by
    intro hc
    rcases hblanks _ hc with hc | hc <;> cases hc
  unfold trimmedLines
  by_cases hf : ∀ c ∈ front, isEdge c = true
  · rw [trimEdges_append_of_front hf, trimEdges_append_of_front hf,
      trimEdges_append_of_front hedge]
  by_cases hr : ∀ c ∈ rest, isEdge c = true
  · have hboth : ∀ c ∈ blanks ++ rest, isEdge c = true :=
      List.forall_mem_append.mpr ⟨hedge, hr⟩
    rw [trimEdges_append_of_edge hboth, trimEdges_append_of_edge hr]
  have hf : ∃ c ∈ front, isEdge c = false := by simpa using hf
  obtain ⟨c, hcrest, hc⟩ : ∃ c ∈ rest, isEdge c = false := by simpa using hr
  obtain ⟨more, rfl⟩ := hrest.resolve_left (List.ne_nil_of_mem hcrest)
  have hmore : ∃ c ∈ more, isEdge c = false := by
    refine ⟨c, (List.mem_cons.mp hcrest).resolve_left ?_, hc⟩
    exact (ne_break_of_not_isEdge hc).1
  -- The newline that ends the line stays, and cuts the text behind the blanks.
  have htrim := trimEdges_append_of_not_edge hf hmore (blanks ++ ['\n'])
  have htrim' := trimEdges_append_of_not_edge hf hmore ['\n']
  simp only [List.append_assoc, List.singleton_append] at htrim htrim'
  rw [htrim, htrim', ← List.append_assoc, splitAt_append_sep, splitAt_append_sep, List.map_append,
    List.map_append, map_trimEnd_splitAt_append hblank hnewline]

/-- Nor do they make one at the ends of all lines. -/
theorem trimmedLines_join_padLines (hpad : ∀ i, ∀ c ∈ pad i, c = ' ' ∨ c = '\t')
    (front : List Char) (pieces : List (List Char)) :
    trimmedLines (front ++ join ['\n'] (padLines pad pieces)) =
      trimmedLines (front ++ join ['\n'] pieces) := by
  induction pieces generalizing front pad with
  | nil => rfl
  | cons line pieces ih =>
    cases pieces with
    | nil =>
      have hline := trimmedLines_append (front ++ line) (hpad 0) (.inl rfl)
      simpa [padLines, join] using hline
    | cons next rest =>
      let more := join ['\n'] (padLines (fun i => pad (i + 1)) (next :: rest))
      have hjoin : join ['\n'] (padLines pad (line :: next :: rest)) =
          line ++ (pad 0 ++ '\n' :: more) := by
        simp [more, padLines_cons, join_cons_cons]
      calc trimmedLines (front ++ join ['\n'] (padLines pad (line :: next :: rest)))
          = trimmedLines (front ++ line ++ (pad 0 ++ '\n' :: more)) := by
            rw [hjoin, List.append_assoc]
        _ = trimmedLines (front ++ line ++ '\n' :: more) :=
            trimmedLines_append (front ++ line) (hpad 0) (.inr ⟨more, rfl⟩)
        _ = trimmedLines (front ++ line ++ ['\n'] ++ more) := by
            rw [List.append_assoc _ ['\n'], List.singleton_append]
        _ = trimmedLines (front ++ line ++ ['\n'] ++ join ['\n'] (next :: rest)) :=
            ih (fun i => hpad (i + 1)) _
        _ = trimmedLines (front ++ join ['\n'] (line :: next :: rest)) := by
            simp only [join_cons_cons, List.append_assoc]

end Blanks

theorem normalLines_restyle (ending : LineEnding) {s : String} (hreturn : '\r' ∉ s.toList)
    (hpad : ∀ i, ∀ c ∈ pad i, c = ' ' ∨ c = '\t') :
    normalLines (restyle ending pad s).toList = normalLines s.toList := by
  have hkept : ∀ c : Char, c ≠ ' ' → c ≠ '\t' → ∀ i, c ∉ pad i :=
    fun c hspace htab i hc => (hpad i c hc).elim hspace htab
  have hnewlines : ∀ piece ∈ padLines pad (splitAt '\n' s.toList), '\n' ∉ piece :=
    not_mem_padLines (fun _ hline => not_mem_of_mem_splitAt hline)
      (hkept '\n' (by decide) (by decide))
  have hreturns : ∀ piece ∈ padLines pad (splitAt '\n' s.toList), '\r' ∉ piece :=
    not_mem_padLines (fun _ hline hc => hreturn (mem_of_mem_splitAt hline hc))
      (hkept '\r' (by decide) (by decide))
  calc normalLines (restyle ending pad s).toList
      = trimmedLines (join ['\n'] (padLines pad (splitAt '\n' s.toList))) := by
        rw [normalLines_eq_trimmedLines, restyle, String.toList_ofList,
          unifyBreaks_join ending hnewlines hreturns]
    _ = trimmedLines (join ['\n'] (splitAt '\n' s.toList)) :=
        trimmedLines_join_padLines hpad [] _
    _ = normalLines s.toList := by
        rw [join_splitAt, normalLines_eq_trimmedLines, unifyBreaks_of_not_mem hreturn]

/-- The comparison sees neither how lines end nor the spaces and tabs at their ends. -/
theorem normalize_restyle (s : String) (ending : LineEnding) (pad : Nat → List Char)
    (hreturn : '\r' ∉ s.toList) (hpad : ∀ i, ∀ c ∈ pad i, c = ' ' ∨ c = '\t') :
    normalize (restyle ending pad s) = normalize s ∧ compare? s (restyle ending pad s) = none := by
  have hsame : normalize (restyle ending pad s) = normalize s := by
    rw [normalize, normalize, normalChars_eq, normalChars_eq,
      normalLines_restyle ending hreturn hpad]
  exact ⟨hsame, compare?_eq_none_iff.mpr hsame.symm⟩

/-- Controls and blank lines stand at the edges of this text, and no-break spaces inside them. -/
theorem normalize_restyle_edges :
    let s := "\n\u0001 a\u00A0\n\u00A0\n"
    let styled := restyle .both (fun i => List.replicate i '\t' ++ [' ']) s
    styled = " \r\n\u0001 a\u00A0\t \r\n\u00A0\t\t \r\n\t\t\t " ∧
      normalize styled = normalize s ∧ compare? s styled = none := by
  have hpad : ∀ i, ∀ c ∈ List.replicate i '\t' ++ [' '], c = ' ' ∨ c = '\t' := by
    intro i c hc
    rcases List.mem_append.mp hc with hc | hc
    · exact .inr (List.eq_of_mem_replicate hc)
    · exact .inl (List.mem_singleton.mp hc)
  exact ⟨by decide +kernel, normalize_restyle _ .both _ (by decide +kernel) hpad⟩

end Golden

end GoldenTree
