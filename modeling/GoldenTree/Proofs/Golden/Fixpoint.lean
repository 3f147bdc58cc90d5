import GoldenTree.Proofs.Golden.Normal
import Mathlib.Logic.Function.Iterate

/-! Repeated normalization. Every pass gives trimmed lines and a newline at the end, but the white
space it drops can uncover controls, and blank lines, that the next pass drops in turn. The texts
that a pass leaves alone are described exactly, and finitely many passes lead to one. -/
namespace GoldenTree.Golden

open Text

variable {s t text : List Char} {lines : List (List Char)} {c : Char}

section Edges

theorem isInfix_trimEdges (s : List Char) : trimEdges s <:+: s :=
  (List.rdropWhile_prefix isEdge _).isInfix.trans (List.dropWhile_suffix isEdge).isInfix

theorem trimEdges_append_of_edge (h : ∀ c ∈ t, isEdge c = true) :
    trimEdges (s ++ t) = trimEdges s := by
  rw [trimEdges, trimEdges, List.dropWhile_append]
  split
  · next hempty => rw [List.dropWhile_eq_nil_iff.mpr h, List.isEmpty_iff.mp hempty]
  · exact dropEndWhile_append_of_pos h _

theorem not_isEdge_getLast_trimEdges (h : (trimEdges s).getLast? = some c) : isEdge c = false :=
  getLast?_dropEndWhile_not h

theorem not_isEdge_head_trimEdges (h : (trimEdges s).head? = some c) : isEdge c = false := by
  obtain ⟨behind, hbehind⟩ : trimEdges s <+: s.dropWhile isEdge := List.rdropWhile_prefix isEdge _
  have hhead : (s.dropWhile isEdge).head? = some c := by rw [← hbehind, List.head?_append, h]; rfl
  have hc := List.head?_dropWhile_not isEdge s
  rwa [hhead] at hc

theorem getLast?_ne_newline_of_trimEdges (h : trimEdges s = s) : s.getLast? ≠ some '\n' := by
  intro hlast
  rw [← h] at hlast
  exact absurd (not_isEdge_getLast_trimEdges hlast) (by decide)

end Edges

/-- What a pass gives: lines without white space at their end, each ended by a newline. -/
structure Lined (text : List Char) : Prop where
  ends : text.getLast? = some '\n'
  noReturn : '\r' ∉ text
  trimmed : ∀ line ∈ splitAt '\n' text, trimEnd line = line

/-- Lined text that neither begins nor, before its last newline, ends with a control or a space. -/
structure IsNormal (text : List Char) : Prop extends Lined text where
  framed : trimEdges text.dropLast = text.dropLast

/-- Every pass gives lined text. -/
theorem lined_normalChars (s : List Char) : Lined (normalChars s) := by
  obtain ⟨behind, hsplit, hbehind⟩ := splitAt_normalChars s
  have hpieces : ∀ line ∈ splitAt '\n' (normalChars s), '\r' ∉ line ∧ trimEnd line = line := by
    intro line hline
    rw [hsplit, List.mem_append] at hline
    rcases hline with hline | hline
    · exact ⟨(not_mem_normalLines hline).2, trimEnd_of_mem_normalLines hline⟩
    · rw [hbehind line hline]
      exact ⟨List.not_mem_nil, rfl⟩
  refine ⟨?_, fun hmem => ?_, fun line hline => (hpieces line hline).2⟩
  · rw [normalChars_eq, endLine]
    split
    · assumption
    · rw [List.getLast?_append]
      rfl
  · rw [← join_splitAt '\n' (normalChars s)] at hmem
    rcases mem_join hmem with hmem | ⟨line, hline, hmem⟩
    · simp at hmem
    · exact (hpieces line hline).1 hmem

namespace Lined

theorem dropLast_append (h : Lined text) : text.dropLast ++ ['\n'] = text := by
  obtain ⟨front, rfl⟩ := List.getLast?_eq_some_iff.mp h.ends
  rw [List.dropLast_concat]

/-- The last newline of lined text is dropped with the controls and spaces before it. -/
theorem trimEdges_eq (h : Lined text) : trimEdges text = trimEdges text.dropLast := by
  have hedge : ∀ c ∈ ['\n'], isEdge c = true := by
    intro c hc
    rw [List.mem_singleton.mp hc]
    decide
  conv_lhs => rw [← h.dropLast_append]
  exact trimEdges_append_of_edge hedge

theorem length_eq (h : Lined text) : text.length = text.dropLast.length + 1 := by
  conv_lhs => rw [← h.dropLast_append]
  rw [List.length_append, List.length_singleton]

theorem trimmed_dropLast (h : Lined text) :
    ∀ line ∈ splitAt '\n' text.dropLast, trimEnd line = line := by
  intro line hline
  apply h.trimmed
  rw [← h.dropLast_append, splitAt_append_sep]
  exact List.mem_append_left _ hline

end Lined

section Length

theorem length_endLine_le (s : List Char) : (endLine s).length ≤ s.length + 1 := by
  rw [endLine]
  split
  · omega
  · rw [List.length_append, List.length_singleton]

theorem length_join_map_trimEnd_le (lines : List (List Char)) :
    (join ['\n'] (lines.map trimEnd)).length ≤ (join ['\n'] lines).length := by
  have htrim : ∀ line, (trimEnd line).length ≤ line.length :=
    fun line => (List.rdropWhile_prefix isBlank line).length_le
  induction lines with
  | nil => exact le_rfl
  | cons line lines ih =>
    cases lines with
    | nil => exact htrim line
    | cons next rest =>
      have hline := htrim line
      simp only [List.map_cons, join, List.length_append] at ih ⊢
      omega

/-- Without carriage returns, a pass adds at most the newline at the end. -/
theorem length_normalChars_le_trimEdges (h : '\r' ∉ s) :
    (normalChars s).length ≤ (trimEdges s).length + 1 := by
  have hreturn : '\r' ∉ trimEdges s := fun hmem => h ((isInfix_trimEdges s).subset hmem)
  have hlines : (join ['\n'] (normalLines s)).length ≤ (trimEdges s).length := by
    have hjoin := length_join_map_trimEnd_le (splitAt '\n' (trimEdges s))
    rw [join_splitAt] at hjoin
    rwa [normalLines, unifyBreaks_of_not_mem hreturn]
  have hend := length_endLine_le (join ['\n'] (normalLines s))
  rw [normalChars_eq]
  omega

/-- A pass over lined text does not lengthen it. -/
theorem Lined.length_normalChars_le (h : Lined text) :
    (normalChars text).length ≤ (trimEdges text.dropLast).length + 1 := by
  rw [← h.trimEdges_eq]
  exact length_normalChars_le_trimEdges h.noReturn

end Length

/-- Normal text is left alone by a pass. -/
theorem IsNormal.normalChars_eq_self (h : IsNormal text) : normalChars text = text := by
  have hreturn : '\r' ∉ text.dropLast := fun hmem => h.noReturn (List.dropLast_subset _ hmem)
  have hlines : normalLines text = splitAt '\n' text.dropLast := by
    rw [normalLines, h.trimEdges_eq, h.framed, unifyBreaks_of_not_mem hreturn]
    exact (List.map_congr_left h.trimmed_dropLast).trans (List.map_id _)
  rw [normalChars_eq, hlines, join_splitAt, endLine,
    if_neg (getLast?_ne_newline_of_trimEdges h.framed), h.dropLast_append]

/-- The fixed texts of normalization are the normal ones. -/
theorem normalChars_eq_self_iff : normalChars text = text ↔ IsNormal text := by
  refine ⟨fun h => ?_, IsNormal.normalChars_eq_self⟩
  have hlined : Lined text := h ▸ lined_normalChars text
  -- A pass that dropped something at the edges would have shortened the text.
  have hkept : text.dropLast.length ≤ (trimEdges text.dropLast).length := by
    have hlength := hlined.length_normalChars_le
    rw [h, hlined.length_eq] at hlength
    omega
  exact { hlined with framed := (isInfix_trimEdges _).eq_of_length_le hkept }

/-- A pass that changes lined text shortens it. -/
theorem Lined.length_normalChars_lt (h : Lined text) (hne : normalChars text ≠ text) :
    (normalChars text).length < text.length := by
  have hdropped : (trimEdges text.dropLast).length ≠ text.dropLast.length := by
    intro hlength
    exact hne ({ h with framed := (isInfix_trimEdges _).eq_of_length hlength } :
      IsNormal text).normalChars_eq_self
  have hshorter := (isInfix_trimEdges text.dropLast).length_le
  have hle := h.length_normalChars_le
  rw [h.length_eq]
  omega

/-- Some number of passes over any text gives normal text. -/
theorem exists_isNormal_iterate (s : List Char) : ∃ n, IsNormal (normalChars^[n + 1] s) := by
  suffices hall : ∀ text, Lined text → ∃ n, IsNormal (normalChars^[n] text) by
    obtain ⟨n, hn⟩ := hall (normalChars s) (lined_normalChars s)
    exact ⟨n, hn⟩
  intro text hlined
  -- By induction on the length, which every pass that changes something lowers.
  induction hlength : text.length using Nat.strong_induction_on generalizing text with
  | h length ih =>
    by_cases hfixed : normalChars text = text
    · exact ⟨0, normalChars_eq_self_iff.mp hfixed⟩
    · have hlt := hlined.length_normalChars_lt hfixed
      obtain ⟨n, hn⟩ := ih _ (hlength ▸ hlt) (normalChars text) (lined_normalChars text) rfl
      exact ⟨n + 1, hn⟩

/-- The text past its controls and spaces neither begins nor ends with white space. -/
def Framed (s : List Char) : Prop :=
  ∀ c, (trimEdges s).head? = some c ∨ (trimEdges s).getLast? = some c → isBlank c = false

/-- Text whose white space is the space and its controls is framed. -/
theorem framed_of_isEdge (h : ∀ c ∈ s, isBlank c = true → isEdge c = true) : Framed s := by
  intro c hc
  have hmem : c ∈ trimEdges s := hc.elim List.mem_of_head? List.mem_of_getLast?
  have hedge : isEdge c = false := hc.elim not_isEdge_head_trimEdges not_isEdge_getLast_trimEdges
  by_contra hblank
  exact absurd (h c ((isInfix_trimEdges s).subset hmem) (by simpa using hblank)) (by simp [hedge])

/-- One pass is enough for framed text. -/
theorem Framed.normalChars_normalChars (h : Framed s) :
    normalChars (normalChars s) = normalChars s := by
  by_cases hne : trimEdges s = []
  · have hempty : normalChars s = ['\n'] := by
      rw [normalChars_eq, normalLines, hne]
      rfl
    rw [hempty]
    rfl
  · have hsolid : ∀ c, (trimEdges s).head? = some c ∨ (trimEdges s).getLast? = some c → Solid c :=
      fun c hc => ⟨h c hc, hc.elim not_isEdge_head_trimEdges not_isEdge_getLast_trimEdges⟩
    refine Golden.normalChars_normalChars ?_ ?_
    · obtain ⟨c, rest, hstart⟩ := List.exists_cons_of_ne_nil hne
      exact ⟨c, rest, hstart, hsolid c (.inl (by rw [hstart, List.head?_cons]))⟩
    · obtain ⟨front, c, hend⟩ := (List.eq_nil_or_concat' (trimEdges s)).resolve_left hne
      exact ⟨front, c, hend, hsolid c (.inr (by rw [hend, List.getLast?_concat]))⟩

/-- One pass is enough where no white space but the space and its controls is used. -/
theorem normalize_normalize_of_isEdge {s : String}
    (h : ∀ c ∈ s.toList, isBlank c = true → isEdge c = true) :
    normalize (normalize s) = normalize s := by
  rw [normalize, normalize, String.toList_ofList, (framed_of_isEdge h).normalChars_normalChars]

section SecondNewline

/-- Several joined lines end with a newline when the last of them is empty. -/
theorem getLast?_join_iff (hlines : ∀ line ∈ lines, '\n' ∉ line) :
    (join ['\n'] lines).getLast? = some '\n' ↔ ∃ front ≠ [], lines = front ++ [[]] := by
  constructor
  · intro h
    rcases List.eq_nil_or_concat' lines with rfl | ⟨front, last, rfl⟩
    · cases h
    have hlast : '\n' ∉ last := hlines last (by simp)
    rcases eq_or_ne front [] with rfl | hne
    · exact absurd (List.mem_of_getLast? h) hlast
    rw [join_append_singleton hne] at h
    rcases List.eq_nil_or_concat' last with rfl | ⟨init, c, rfl⟩
    · exact ⟨front, hne, rfl⟩
    · rw [← List.cons_append, ← List.append_assoc, List.getLast?_concat] at h
      obtain rfl := Option.some.inj h
      exact absurd (by simp) hlast
  · rintro ⟨front, hne, rfl⟩
    rw [join_append_singleton hne, List.getLast?_append]
    rfl

/-- A pass ends its text with a second newline when the last two of several lines are blank. -/
theorem second_newline_iff (s : List Char) :
    (normalChars s).dropLast.getLast? = some '\n' ↔
      ∃ front ≠ [], normalLines s = front ++ [[], []] := by
  have hlines : ∀ line ∈ normalLines s, '\n' ∉ line := fun _ hline => (not_mem_normalLines hline).1
  rw [normalChars_eq, endLine]
  split
  · next hend =>
    obtain ⟨most, hne, hmost⟩ := (getLast?_join_iff hlines).mp hend
    rw [hmost] at hlines ⊢
    rw [join_append_singleton hne, List.dropLast_concat,
      getLast?_join_iff fun line hline => hlines line (List.mem_append_left _ hline)]
    constructor
    · rintro ⟨front, hfront, rfl⟩
      exact ⟨front, hfront, by simp⟩
    · rintro ⟨front, hfront, hboth⟩
      have hlast : most ++ [[]] = front ++ [[]] ++ [[]] := by simpa using hboth
      exact ⟨front, hfront, List.append_cancel_right hlast⟩
  · next hend =>
    rw [List.dropLast_concat]
    refine iff_of_false hend ?_
    rintro ⟨front, -, hboth⟩
    exact hend ((getLast?_join_iff hlines).mpr ⟨front ++ [[]], by simp, by simp [hboth]⟩)

end SecondNewline

/-- A pass gives lined text, which the next pass changes when a control or a space stands at its
edges before the last newline; a second newline at the end is such an edge, and framed text has
none. -/
theorem normalize_fixed_iff (s : String) :
    let text := (normalize s).toList
    text.getLast? = some '\n' ∧ '\r' ∉ text ∧ (∀ line ∈ splitAt '\n' text, trimEnd line = line) ∧
      (normalize (normalize s) = normalize s ↔ trimEdges text.dropLast = text.dropLast) ∧
      (text.dropLast.getLast? = some '\n' ↔
        ∃ front ≠ [], normalLines s.toList = front ++ [[], []]) ∧
      (normalize (normalize s) = normalize s → text.dropLast.getLast? ≠ some '\n') ∧
      (Framed s.toList → normalize (normalize s) = normalize s) := by
  intro text
  have htext : text = normalChars s.toList := String.toList_ofList
  have hlined : Lined text := htext ▸ lined_normalChars s.toList
  have hagain : normalize (normalize s) = normalize s ↔ normalChars text = text := by
    rw [← String.toList_inj, normalize, String.toList_ofList]
  have hfixed : normalize (normalize s) = normalize s ↔
      trimEdges text.dropLast = text.dropLast := by
    rw [hagain, normalChars_eq_self_iff]
    exact ⟨fun h => h.framed, fun h => { hlined with framed := h }⟩
  refine ⟨hlined.ends, hlined.noReturn, hlined.trimmed, hfixed, ?_, ?_, ?_⟩
  · rw [htext]
    exact second_newline_iff s.toList
  · exact fun h => getLast?_ne_newline_of_trimEdges (hfixed.mp h)
  · intro h
    rw [hagain, htext]
    exact h.normalChars_normalChars

/-- The blank lines at the end of a text can hide behind a no-break space. -/
theorem normalize_not_fixed :
    ¬ ∀ s : String, normalize (normalize s) = normalize s ∧
      (normalize s = "\n" ∨ ∃ front, (normalize s).toList = front ++ ['\n'] ∧
        front.getLast? ≠ some '\n') ∧
      '\r' ∉ (normalize s).toList ∧
      ∀ line ∈ splitAt '\n' (normalize s).toList, trimEnd line = line := by
  intro h
  exact absurd (h "a\n\n\u00A0").1 (by decide +kernel)

end GoldenTree.Golden
