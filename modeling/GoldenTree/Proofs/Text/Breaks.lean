import GoldenTree.Proofs.Text.Pieces
import GoldenTree.Text.LineBreak

/-! Line breaks once they are unified or escaped. A carriage return cuts a line where unifying
breaks puts a newline. -/
namespace GoldenTree.Text

variable {old first second c : Char} {new s t : List Char}

theorem mem_replaceChar (h : c ∈ replaceChar old new s) : c ∈ new ∨ (c ∈ s ∧ c ≠ old) := by
  obtain ⟨d, hd, hc⟩ := List.mem_flatMap.mp h
  split at hc
  · exact .inl hc
  · next hne =>
    obtain rfl := List.mem_singleton.mp hc
    exact .inr ⟨hd, hne⟩

theorem mem_replacePair (h : c ∈ replacePair first second new s) : c ∈ new ∨ c ∈ s := by
  fun_induction replacePair first second new s with
  | case1 => exact .inr h
  | case2 => exact .inr h
  | case3 d e r hpair ih =>
    rcases List.mem_append.mp h with h | h
    · exact .inl h
    · exact (ih h).imp_right fun h => List.mem_cons_of_mem _ (List.mem_cons_of_mem _ h)
  | case4 d e r hne ih =>
    rcases List.mem_cons.mp h with rfl | h
    · exact .inr List.mem_cons_self
    · exact (ih h).imp_right (List.mem_cons_of_mem _)

theorem replaceChar_of_not_mem (h : old ∉ s) : replaceChar old new s = s := by
  induction s with
  | nil => rfl
  | cons c s ih =>
    obtain ⟨hc, hs⟩ := not_or.mp (mt List.mem_cons.mpr h)
    rw [replaceChar_cons, if_neg (Ne.symm hc), ih hs, List.singleton_append]

theorem replaceChar_cons_of_ne (h : c ≠ old) (s : List Char) :
    replaceChar old new (c :: s) = c :: replaceChar old new s := by
  rw [replaceChar_cons, if_neg h, List.singleton_append]

theorem head?_replaceChar (hold : c ≠ old) (hfirst : c ≠ first) :
    (replaceChar old (first :: new) s).head? = some c ↔ s.head? = some c := by
  cases s with
  | nil => rfl
  | cons d s =>
    by_cases hd : d = old
    · subst hd
      simp [hold.symm, hfirst.symm]
    · rw [replaceChar_cons_of_ne hd, List.head?_cons, List.head?_cons]

section Cut

variable {p : Char → Bool} (hold : p old = false) (hfirst : p first = false)
include hold hfirst

/-- What ends at a character ends at what replaces it. -/
theorem takeWhile_replaceChar (s : List Char) :
    (replaceChar old (first :: new) s).takeWhile p = s.takeWhile p := by
  induction s with
  | nil => rfl
  | cons c s ih =>
    by_cases hc : c = old
    · subst hc
      simp [hold, hfirst]
    · rw [replaceChar_cons_of_ne hc, List.takeWhile_cons, List.takeWhile_cons, ih]

theorem dropWhile_replaceChar (s : List Char) :
    (replaceChar old (first :: new) s).dropWhile p =
      replaceChar old (first :: new) (s.dropWhile p) := by
  induction s with
  | nil => rfl
  | cons c s ih =>
    by_cases hc : c = old
    · subst hc
      simp [hold, hfirst]
    · rw [replaceChar_cons_of_ne hc, List.dropWhile_cons, List.dropWhile_cons, ih]
      split
      · rfl
      · rw [replaceChar_cons_of_ne hc]

end Cut

/-- What joins the pieces is replaced, and nothing in them. -/
theorem replaceChar_join {pieces : List (List Char)} (h : ∀ piece ∈ pieces, old ∉ piece) :
    replaceChar old new (join [old] pieces) = join new pieces := by
  induction pieces with
  | nil => rfl
  | cons piece pieces ih =>
    obtain ⟨hpiece, hpieces⟩ := List.forall_mem_cons.mp h
    cases pieces with
    | nil => exact replaceChar_of_not_mem hpiece
    | cons next rest =>
      rw [join_cons_cons, join_cons_cons, replaceChar_append, replaceChar_append,
        replaceChar_of_not_mem hpiece, ih hpieces, replaceChar_cons, if_pos rfl, replaceChar_nil,
        List.append_nil]

theorem replacePair_of_not_mem (h : first ∉ s ∨ second ∉ s) :
    replacePair first second new s = s := by
  fun_induction replacePair first second new s with
  | case1 => rfl
  | case2 => rfl
  | case3 c d r hpair ih => simp [hpair] at h
  | case4 c d r hne ih =>
    rw [ih (by rcases h with h | h <;> simp_all)]

theorem replacePair_append (h : s.getLast? ≠ some first ∨ t.head? ≠ some second) :
    replacePair first second new (s ++ t) =
      replacePair first second new s ++ replacePair first second new t := by
  fun_induction replacePair first second new s with
  | case1 => rfl
  | case2 c =>
    cases t with
    | nil => simp [replacePair]
    | cons d t =>
      have hpair : ¬(c = first ∧ d = second) := by
        rintro ⟨rfl, rfl⟩
        simp at h
      rw [List.singleton_append, replacePair, if_neg hpair, List.singleton_append]
  | case3 c d r hpair ih =>
    have hlast : r.getLast? ≠ some first ∨ t.head? ≠ some second := by
      cases r with
      | nil => simp
      | cons e r => simpa using h
    rw [List.cons_append, List.cons_append, replacePair, if_pos hpair, ih hlast, List.append_assoc]
  | case4 c d r hne ih =>
    have hlast : (d :: r).getLast? ≠ some first ∨ t.head? ≠ some second := by simpa using h
    simp [replacePair, hne, ← ih hlast]

theorem not_mem_unifyBreaks (s : List Char) : '\r' ∉ unifyBreaks s := by
  intro h
  rcases mem_replaceChar h with h | h
  · simp at h
  · exact h.2 rfl

theorem mem_unifyBreaks (h : c ∈ unifyBreaks s) : c = '\n' ∨ c ∈ s := by
  rcases mem_replaceChar h with h | ⟨h, -⟩
  · exact .inl (List.mem_singleton.mp h)
  · exact (mem_replacePair h).imp_left List.mem_singleton.mp

theorem unifyBreaks_of_not_mem (h : '\r' ∉ s) : unifyBreaks s = s := by
  rw [unifyBreaks, replacePair_of_not_mem (.inl h), replaceChar_of_not_mem h]

theorem unifyBreaks_append (h : s.getLast? ≠ some '\r' ∨ t.head? ≠ some '\n') :
    unifyBreaks (s ++ t) = unifyBreaks s ++ unifyBreaks t := by
  rw [unifyBreaks, replacePair_append h, replaceChar_append]
  rfl

theorem unifyBreaks_cons (h : c ≠ '\r') (s : List Char) :
    unifyBreaks (c :: s) = c :: unifyBreaks s := by
  have hone : unifyBreaks [c] = [c] := unifyBreaks_of_not_mem (by simpa using h.symm)
  have happend : unifyBreaks ([c] ++ s) = unifyBreaks [c] ++ unifyBreaks s :=
    unifyBreaks_append (.inl (by simpa using h))
  rwa [hone] at happend

theorem unifyBreaks_concat (hreturn : c ≠ '\r') (hnewline : c ≠ '\n') (s : List Char) :
    unifyBreaks (s ++ [c]) = unifyBreaks s ++ [c] := by
  rw [unifyBreaks_append (.inr (by simpa using hnewline)), unifyBreaks_cons hreturn]
  rfl

/-- What begins with a line break begins with a newline once breaks are unified. -/
theorem unifyBreaks_cons_break (h : c = '\n' ∨ c = '\r') (s : List Char) :
    ∃ t, unifyBreaks (c :: s) = '\n' :: t := by
  rcases h with rfl | rfl
  · exact ⟨_, unifyBreaks_append (s := ['\n']) (.inl (by decide))⟩
  · cases s with
    | nil => exact ⟨[], rfl⟩
    | cons d s =>
      by_cases hd : d = '\n'
      · subst hd
        exact ⟨unifyBreaks s, by simp [unifyBreaks, replacePair]⟩
      · exact ⟨unifyBreaks (d :: s), by simp [unifyBreaks, replacePair, hd]⟩

/-- On one line, a carriage return is what becomes a newline. -/
theorem splitAt_unifyBreaks (h : '\n' ∉ s) : splitAt '\n' (unifyBreaks s) = splitAt '\r' s := by
  rw [unifyBreaks, replacePair_of_not_mem (.inr h)]
  induction s with
  | nil => rfl
  | cons c s ih =>
    obtain ⟨hc, hs⟩ := not_or.mp (mt List.mem_cons.mpr h)
    rw [replaceChar_cons]
    split
    · next hreturn =>
      rw [List.singleton_append, splitAt, if_pos rfl, splitAt, if_pos hreturn, ih hs]
    · next hreturn =>
      rw [List.singleton_append, splitAt, if_neg (Ne.symm hc), splitAt, if_neg hreturn, ih hs]

/-- Lines are the same once every carriage return is gone from the line breaks. -/
theorem lines_replacePair (h : '\r' ∉ replacePair '\r' '\n' ['\n'] s) :
    lines (replacePair '\r' '\n' ['\n'] s) = lines s := by
  fun_induction replacePair '\r' '\n' ['\n'] s with
  | case1 => rfl
  | case2 => rfl
  | case3 c d r hpair ih =>
    obtain ⟨rfl, rfl⟩ := hpair
    rw [List.singleton_append, lines_newline, ih fun hmem => h (List.mem_append_right _ hmem),
      lines_return_newline]
  | case4 c d r hne ih =>
    obtain ⟨hc, hrest⟩ := not_or.mp (mt List.mem_cons.mpr h)
    by_cases hnewline : c = '\n'
    · subst hnewline
      rw [lines_newline, lines_newline, ih hrest]
    · rw [lines_cons hnewline (Ne.symm hc), lines_cons hnewline (Ne.symm hc), ih hrest]

theorem not_mem_escapeBreaks (s : List Char) : '\n' ∉ escapeBreaks s ∧ '\r' ∉ escapeBreaks s := by
  constructor
  · intro h
    rcases mem_replaceChar h with h | ⟨h, -⟩
    · simp at h
    · rcases mem_replaceChar h with h | h
      · simp at h
      · exact h.2 rfl
  · intro h
    rcases mem_replaceChar h with h | h
    · simp at h
    · exact h.2 rfl

/-- What is on one line stays as it is. -/
theorem escapeBreaks_of_not_mem (hnewline : '\n' ∉ s) (hreturn : '\r' ∉ s) :
    escapeBreaks s = s := by
  rw [escapeBreaks, replacePair_of_not_mem (.inl hreturn), replaceChar_of_not_mem hnewline,
    replaceChar_of_not_mem hreturn]

end GoldenTree.Text
