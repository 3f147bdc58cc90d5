import GoldenTree.Text.Blank
import GoldenTree.Text.Lines
import Mathlib.Tactic.Common

/-! Text cut at a separator: cutting and joining are inverse on pieces without the separator. -/
namespace GoldenTree.Text

variable {sep : Char} {s t : List Char}

theorem splitAt_of_not_mem (h : sep ∉ s) : splitAt sep s = [s] := by
  induction s with
  | nil => rfl
  | cons c s ih =>
    obtain ⟨hc, hs⟩ : sep ≠ c ∧ sep ∉ s := by simpa using h
    rw [splitAt, if_neg hc.symm, ih hs]

theorem splitAt_append_sep (s t : List Char) :
    splitAt sep (s ++ sep :: t) = splitAt sep s ++ splitAt sep t := by
  induction s with
  | nil => simp [splitAt]
  | cons c s ih =>
    by_cases hc : c = sep
    · simp [splitAt, hc, ih]
    · have hne := splitAt_ne_nil sep s
      cases hs : splitAt sep s with
      | nil => exact absurd hs hne
      | cons piece pieces => simp [splitAt, hc, ih, hs]

theorem splitAt_append_of_not_mem (h : sep ∉ s) (t : List Char) :
    splitAt sep (s ++ sep :: t) = s :: splitAt sep t := by
  rw [splitAt_append_sep, splitAt_of_not_mem h, List.singleton_append]

/-- What follows a text goes on with its last piece. -/
theorem exists_splitAt_front (sep : Char) (s : List Char) :
    ∃ pieces last, ∀ {t first rest}, splitAt sep t = first :: rest →
      splitAt sep (s ++ t) = pieces ++ (last ++ first) :: rest := by
  induction s with
  | nil => exact ⟨[], [], fun ht => ht⟩
  | cons c s ih =>
    obtain ⟨pieces, last, hs⟩ := ih
    by_cases hc : c = sep
    · exact ⟨[] :: pieces, last, fun ht => by simp [splitAt, hc, hs ht]⟩
    · cases pieces with
      | nil => exact ⟨[], c :: last, fun ht => by simp [splitAt, hc, hs ht]⟩
      | cons piece pieces =>
        exact ⟨(c :: piece) :: pieces, last, fun ht => by simp [splitAt, hc, hs ht]⟩

/-- Text without a separator goes to the last piece of the text before it. -/
theorem exists_splitAt (sep : Char) (s : List Char) :
    ∃ pieces last, ∀ t, sep ∉ t → splitAt sep (s ++ t) = pieces ++ [last ++ t] := by
  obtain ⟨pieces, last, hs⟩ := exists_splitAt_front sep s
  exact ⟨pieces, last, fun t ht => hs (splitAt_of_not_mem ht)⟩

/-- Without a separator, the end of a text belongs to its last piece. -/
theorem exists_splitAt_append (s : List Char) (h : sep ∉ t) :
    ∃ pieces last, splitAt sep (s ++ t) = pieces ++ [last ++ t] := by
  obtain ⟨pieces, last, hs⟩ := exists_splitAt sep s
  exact ⟨pieces, last, hs t h⟩

theorem not_mem_of_mem_splitAt {piece : List Char} (h : piece ∈ splitAt sep s) : sep ∉ piece := by
  induction s generalizing piece with
  | nil => simp_all [splitAt]
  | cons c s ih =>
    by_cases hc : c = sep
    · rw [splitAt, if_pos hc] at h
      rcases List.mem_cons.mp h with rfl | h
      · simp
      · exact ih h
    · rw [splitAt, if_neg hc] at h
      cases hs : splitAt sep s with
      | nil => exact absurd hs (splitAt_ne_nil sep s)
      | cons first pieces =>
        rw [hs] at h ih
        rcases List.mem_cons.mp h with rfl | h
        · have hfirst := ih (List.mem_cons_self ..)
          simp [Ne.symm hc, hfirst]
        · exact ih (List.mem_cons_of_mem _ h)

theorem join_cons_cons (sep piece next : List Char) (rest : List (List Char)) :
    join sep (piece :: next :: rest) = piece ++ sep ++ join sep (next :: rest) := rfl

theorem mem_join {pieces : List (List Char)} {c : Char} (h : c ∈ join [sep] pieces) :
    c = sep ∨ ∃ piece ∈ pieces, c ∈ piece := by
  induction pieces with
  | nil => cases h
  | cons piece pieces ih =>
    cases pieces with
    | nil => exact .inr ⟨piece, List.mem_cons_self .., h⟩
    | cons next rest =>
      simp only [join, List.append_assoc, List.mem_append, List.mem_singleton] at h
      rcases h with h | h | h
      · exact .inr ⟨piece, List.mem_cons_self .., h⟩
      · exact .inl h
      · rcases ih h with h | ⟨found, hfound, hc⟩
        · exact .inl h
        · exact .inr ⟨found, List.mem_cons_of_mem _ hfound, hc⟩

theorem mem_join_of_mem {pieces : List (List Char)} {piece : List Char} {c : Char}
    (h : piece ∈ pieces) (hc : c ∈ piece) : c ∈ join [sep] pieces := by
  induction pieces with
  | nil => cases h
  | cons first pieces ih =>
    cases pieces with
    | nil =>
      obtain rfl := List.mem_singleton.mp h
      exact hc
    | cons next rest =>
      simp only [join, List.append_assoc, List.mem_append]
      rcases List.mem_cons.mp h with rfl | h
      · exact .inl hc
      · exact .inr (.inr (ih h))

theorem mem_of_mem_splitAt {piece : List Char} {c : Char} (h : piece ∈ splitAt sep s)
    (hc : c ∈ piece) : c ∈ s := by
  rw [← join_splitAt sep s]
  exact mem_join_of_mem h hc

theorem splitAt_join {pieces : List (List Char)} (hne : pieces ≠ [])
    (h : ∀ piece ∈ pieces, sep ∉ piece) : splitAt sep (join [sep] pieces) = pieces := by
  induction pieces with
  | nil => exact absurd rfl hne
  | cons piece pieces ih =>
    have hpiece := h piece (List.mem_cons_self ..)
    cases pieces with
    | nil => exact splitAt_of_not_mem hpiece
    | cons next rest =>
      have hrest := ih (by simp) fun p hp => h p (List.mem_cons_of_mem _ hp)
      rw [join, List.append_assoc, List.singleton_append, splitAt_append_of_not_mem hpiece, hrest]
      simp

theorem join_append_singleton {pieces : List (List Char)} (hne : pieces ≠ []) (last : List Char) :
    join [sep] (pieces ++ [last]) = join [sep] pieces ++ sep :: last := by
  induction pieces with
  | nil => exact absurd rfl hne
  | cons piece pieces ih =>
    cases pieces with
    | nil => simp [join]
    | cons next rest =>
      have hrest := ih (by simp)
      simp only [List.cons_append] at hrest ⊢
      simp [join, hrest]

theorem join_concat_append (pieces : List (List Char)) (last t : List Char) :
    join [sep] (pieces ++ [last ++ t]) = join [sep] (pieces ++ [last]) ++ t := by
  by_cases hne : pieces = []
  · rw [hne]
    rfl
  · rw [join_append_singleton hne, join_append_singleton hne]
    simp

theorem join_eq_intercalate (sep : List Char) (pieces : List (List Char)) :
    join sep pieces = sep.intercalate pieces := by
  induction pieces with
  | nil => rfl
  | cons piece pieces ih =>
    cases pieces with
    | nil => simp [join]
    | cons next rest => simp [join, ih, List.intercalate]

theorem toList_intercalate (sep : String) (pieces : List String) :
    (sep.intercalate pieces).toList = join sep.toList (pieces.map String.toList) := by
  rw [join_eq_intercalate, String.toList_intercalate]

theorem unlines_eq_join {pieces : List (List Char)} (hne : pieces ≠ []) :
    unlines pieces = join ['\n'] pieces ++ ['\n'] := by
  induction pieces with
  | nil => exact absurd rfl hne
  | cons piece pieces ih =>
    cases pieces with
    | nil => simp [unlines, join]
    | cons next rest =>
      have hrest := ih (by simp)
      calc unlines (piece :: next :: rest) = piece ++ ['\n'] ++ unlines (next :: rest) := rfl
        _ = piece ++ ['\n'] ++ (join ['\n'] (next :: rest) ++ ['\n']) := by rw [hrest]
        _ = join ['\n'] (piece :: next :: rest) ++ ['\n'] := (List.append_assoc ..).symm

theorem splitAt_unlines {pieces : List (List Char)} (h : ∀ piece ∈ pieces, '\n' ∉ piece) :
    splitAt '\n' (unlines pieces) = pieces ++ [[]] := by
  induction pieces with
  | nil => rfl
  | cons piece pieces ih =>
    have hpiece := h piece (List.mem_cons_self ..)
    have hpieces := ih fun p hp => h p (List.mem_cons_of_mem _ hp)
    rw [unlines, List.flatMap_cons, List.append_assoc, List.singleton_append,
      splitAt_append_of_not_mem hpiece, ← unlines, hpieces, List.cons_append]

theorem terminated_cons {pieces : List (List Char)} (hne : pieces ≠ []) (line : List Char) :
    lines.terminated (line :: pieces) = dropReturn line :: lines.terminated pieces := by
  cases pieces with
  | nil => exact absurd rfl hne
  | cons piece pieces => rfl

/-- What stands before the last newline is lines. -/
theorem terminated_concat_nil (pieces : List (List Char)) :
    lines.terminated (pieces ++ [[]]) = pieces.map dropReturn := by
  induction pieces with
  | nil => rfl
  | cons piece pieces ih => rw [List.cons_append, terminated_cons (by simp), ih, List.map_cons]

/-- What stands behind the last newline is a line if it is not empty. -/
theorem terminated_concat {last : List Char} (hlast : last ≠ []) (pieces : List (List Char)) :
    lines.terminated (pieces ++ [last]) = pieces.map dropReturn ++ [last] := by
  induction pieces with
  | nil => rw [List.nil_append, lines.terminated, if_neg (by simpa using hlast)]; rfl
  | cons piece pieces ih =>
    rw [List.cons_append, terminated_cons (by simp), ih, List.map_cons, List.cons_append]

theorem lines_newline (s : List Char) : lines ('\n' :: s) = [] :: lines s := by
  rw [lines, splitAt, if_pos rfl, terminated_cons (splitAt_ne_nil _ _), lines]
  rfl

theorem lines_return_newline (s : List Char) : lines ('\r' :: '\n' :: s) = [] :: lines s := by
  rw [lines, splitAt, if_neg (by decide), splitAt, if_pos rfl]
  dsimp only
  rw [terminated_cons (splitAt_ne_nil _ _), lines]
  rfl

/-- A character of a line goes to the first line of what follows it. -/
theorem lines_cons {c : Char} (hnewline : c ≠ '\n') (hreturn : c ≠ '\r') (s : List Char) :
    lines (c :: s) = (c :: (lines s).headD []) :: (lines s).tail := by
  obtain ⟨piece, pieces, hs⟩ := List.exists_cons_of_ne_nil (splitAt_ne_nil '\n' s)
  have hdrop : dropReturn (c :: piece) = c :: dropReturn piece := by
    cases piece with
    | nil => simp [dropReturn, hreturn]
    | cons d piece =>
      unfold dropReturn
      rw [List.getLast?_cons_cons]
      split <;> simp
  rw [lines, lines, splitAt, if_neg hnewline, hs]
  dsimp only
  cases pieces with
  | nil =>
    rw [lines.terminated, lines.terminated, if_neg (by simp)]
    by_cases hpiece : piece = [] <;> simp [hpiece]
  | cons next rest =>
    rw [terminated_cons (List.cons_ne_nil _ _), terminated_cons (List.cons_ne_nil _ _), hdrop]
    rfl

theorem mem_of_mem_dropReturn {line : List Char} {c : Char} (h : c ∈ dropReturn line) :
    c ∈ line := by
  rw [dropReturn] at h
  split at h
  · exact List.dropLast_subset line h
  · exact h

theorem exists_of_mem_terminated {pieces : List (List Char)} {line : List Char}
    (h : line ∈ lines.terminated pieces) :
    ∃ piece ∈ pieces, line = piece ∨ line = dropReturn piece := by
  induction pieces with
  | nil => cases h
  | cons piece pieces ih =>
    cases pieces with
    | nil =>
      rw [lines.terminated] at h
      split at h
      · cases h
      · exact ⟨piece, List.mem_cons_self .., .inl (List.mem_singleton.mp h)⟩
    | cons next rest =>
      rw [terminated_cons (List.cons_ne_nil next rest)] at h
      rcases List.mem_cons.mp h with rfl | h
      · exact ⟨piece, List.mem_cons_self .., .inr rfl⟩
      · obtain ⟨found, hfound, hline⟩ := ih h
        exact ⟨found, List.mem_cons_of_mem _ hfound, hline⟩

/-- No line holds the newline that ends it. -/
theorem newline_not_mem_of_mem_lines {line : List Char} (h : line ∈ lines s) : '\n' ∉ line := by
  obtain ⟨piece, hpiece, rfl | rfl⟩ := exists_of_mem_terminated h
  · exact not_mem_of_mem_splitAt hpiece
  · exact fun hc => not_mem_of_mem_splitAt hpiece (mem_of_mem_dropReturn hc)

theorem map_dropReturn {pieces : List (List Char)}
    (h : ∀ piece ∈ pieces, piece.getLast? ≠ some '\r') : pieces.map dropReturn = pieces := by
  have hreturn : ∀ piece ∈ pieces, dropReturn piece = piece :=
    fun piece hpiece => if_neg (h piece hpiece)
  rw [List.map_congr_left hreturn, List.map_id']

/-- Lines come back as they were, if none ends like a part of a line break. -/
theorem lines_unlines {pieces : List (List Char)}
    (h : ∀ piece ∈ pieces, '\n' ∉ piece ∧ piece.getLast? ≠ some '\r') :
    lines (unlines pieces) = pieces := by
  rw [lines, splitAt_unlines fun piece hpiece => (h piece hpiece).1, terminated_concat_nil,
    map_dropReturn fun piece hpiece => (h piece hpiece).2]

/-- Without carriage returns, the pieces of a text are its lines, and an empty piece behind the last
newline. -/
theorem exists_splitAt_eq_lines (hreturn : '\r' ∉ s) :
    ∃ n, splitAt '\n' s = lines s ++ List.replicate n [] := by
  obtain ⟨pieces, last, hsplit⟩ := exists_splitAt '\n' s
  have hs : splitAt '\n' s = pieces ++ [last] := by simpa using hsplit [] List.not_mem_nil
  have hpieces : pieces.map dropReturn = pieces := by
    refine map_dropReturn fun piece hpiece hlast => hreturn ?_
    exact mem_of_mem_splitAt (hs ▸ List.mem_append_left _ hpiece) (List.mem_of_getLast? hlast)
  by_cases hlast : last = []
  · refine ⟨1, ?_⟩
    rw [lines, hs, hlast, terminated_concat_nil, hpieces, List.replicate_one]
  · refine ⟨0, ?_⟩
    rw [lines, hs, terminated_concat hlast, hpieces, List.replicate_zero, List.append_nil]

theorem terminated_eq_self {pieces : List (List Char)}
    (h : ∀ piece ∈ pieces, piece ≠ [] ∧ piece.getLast? ≠ some '\r') :
    lines.terminated pieces = pieces := by
  induction pieces with
  | nil => rfl
  | cons piece pieces ih =>
    obtain ⟨hne, hreturn⟩ := h piece (List.mem_cons_self ..)
    cases pieces with
    | nil => rw [lines.terminated, if_neg (by simpa using hne)]
    | cons next rest =>
      rw [terminated_cons (List.cons_ne_nil next rest), dropReturn, if_neg hreturn,
        ih fun p hp => h p (List.mem_cons_of_mem _ hp)]

section Headed

variable {first : List Char} {pieces : List (List Char)} (hfirst : '\n' ∉ first)
  (h : ∀ piece ∈ pieces, '\n' ∉ piece ∧ piece ≠ [] ∧ piece.getLast? ≠ some '\r')
include hfirst h

theorem newline_not_mem_headed : ∀ piece ∈ first :: pieces, '\n' ∉ piece := by
  intro piece hpiece
  rcases List.mem_cons.mp hpiece with rfl | hpiece
  · exact hfirst
  · exact (h piece hpiece).1

/-- Below any first line, lines come back as they were. -/
theorem drop_lines_join : (lines (join ['\n'] (first :: pieces))).drop 1 = pieces := by
  have hpieces : lines.terminated pieces = pieces :=
    terminated_eq_self fun piece hpiece => (h piece hpiece).2
  rw [lines, splitAt_join (List.cons_ne_nil _ _) (newline_not_mem_headed hfirst h)]
  cases pieces with
  | nil =>
    rw [lines.terminated]
    split <;> rfl
  | cons next rest =>
    rw [terminated_cons (List.cons_ne_nil _ _), List.drop_one, List.tail_cons, hpieces]

/-- The last line may have a newline of its own. -/
theorem drop_lines_join_newline :
    (lines (join ['\n'] (first :: pieces) ++ ['\n'])).drop 1 = pieces := by
  rw [← unlines_eq_join (List.cons_ne_nil _ _), lines,
    splitAt_unlines (newline_not_mem_headed hfirst h), terminated_concat_nil, List.map_cons,
    List.drop_one, List.tail_cons, map_dropReturn fun piece hpiece => (h piece hpiece).2.2]

end Headed

theorem join_isPrefix {front pieces : List (List Char)} (hne : front ≠ [])
    (h : front <+: pieces) : join [sep] front <+: join [sep] pieces := by
  induction front generalizing pieces with
  | nil => exact absurd rfl hne
  | cons piece front ih =>
    obtain ⟨rest, rfl⟩ := h
    cases front with
    | nil => cases rest <;> simp [join]
    | cons next front =>
      have hbegins := ih (by simp) (List.prefix_append (next :: front) rest)
      simp only [List.cons_append, join] at hbegins ⊢
      simpa using hbegins

end GoldenTree.Text
