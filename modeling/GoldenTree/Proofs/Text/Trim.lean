import GoldenTree.Text.Blank
import Mathlib.Data.List.DropRight

/-! Trimmed text: it begins and ends with characters that are not blank, if it is not empty. -/
namespace GoldenTree.Text

variable {s : List Char} {c : Char}

/-- What may go at the end goes with what may go before it. -/
theorem dropEndWhile_append_of_pos {p : Char → Bool} {t : List Char} (h : ∀ c ∈ t, p c = true)
    (s : List Char) : dropEndWhile p (s ++ t) = dropEndWhile p s := by
  simp only [dropEndWhile, List.reverse_append]
  rw [List.dropWhile_append_of_pos fun c hc => h c (List.mem_reverse.mp hc)]

theorem dropEndWhile_append {p : Char → Bool} {front : List Char} (hc : p c = false)
    (t : List Char) : dropEndWhile p (front ++ [c] ++ t) = front ++ [c] ++ dropEndWhile p t := by
  have hstop : (front ++ [c]).reverse.dropWhile p = (front ++ [c]).reverse := by simp [hc]
  unfold dropEndWhile
  rw [List.reverse_append, List.dropWhile_append, hstop]
  split
  · next hempty =>
    rw [List.isEmpty_iff.mp hempty, List.reverse_reverse, List.reverse_nil, List.append_nil]
  · rw [List.reverse_append, List.reverse_reverse]

/-- What stays in the second part keeps the whole first part. -/
theorem dropEndWhile_append_of_not {p : Char → Bool} {t : List Char} (h : ∃ c ∈ t, p c = false)
    (s : List Char) : dropEndWhile p (s ++ t) = s ++ dropEndWhile p t := by
  have hkept : ¬ (t.reverse.dropWhile p).isEmpty = true := by simpa using h
  unfold dropEndWhile
  rw [List.reverse_append, List.dropWhile_append, if_neg hkept, List.reverse_append,
    List.reverse_reverse]

theorem exists_dropEndWhile (p : Char → Bool) (s : List Char) :
    ∃ dropped, s = dropEndWhile p s ++ dropped ∧ ∀ c ∈ dropped, p c = true := by
  refine ⟨(s.reverse.takeWhile p).reverse, ?_, ?_⟩
  · rw [dropEndWhile, ← List.reverse_append, List.takeWhile_append_dropWhile, List.reverse_reverse]
  · exact fun c hc => List.mem_takeWhile_imp (List.mem_reverse.mp hc)

theorem getLast?_dropEndWhile_not {p : Char → Bool} (h : (dropEndWhile p s).getLast? = some c) :
    p c = false := by
  have hlast := List.head?_dropWhile_not p s.reverse
  rw [dropEndWhile, List.getLast?_reverse] at h
  rwa [h] at hlast

theorem trimEnd_trimEnd (s : List Char) : trimEnd (trimEnd s) = trimEnd s :=
  List.rdropWhile_idempotent isBlank s

theorem mem_of_mem_trimEnd (h : c ∈ trimEnd s) : c ∈ s :=
  (List.rdropWhile_prefix isBlank s).subset h

theorem mem_of_mem_trim (h : c ∈ trim s) : c ∈ s :=
  (List.dropWhile_suffix isBlank).subset (mem_of_mem_trimEnd h)

theorem trim_eq_self_iff : trim s = s ↔ trimStart s = s ∧ trimEnd s = s := by
  constructor
  · intro h
    have hkept : s.length ≤ (trimStart s).length :=
      calc s.length = (trim s).length := by rw [h]
        _ ≤ (trimStart s).length := (List.rdropWhile_prefix isBlank _).length_le
    have hstart : trimStart s = s := (List.dropWhile_suffix isBlank).eq_of_length_le hkept
    rw [trim, hstart] at h
    exact ⟨hstart, h⟩
  · rintro ⟨hstart, hend⟩
    rw [trim, hstart, hend]

theorem trimStart_eq_self (h : ∃ c rest, s = c :: rest ∧ isBlank c = false) : trimStart s = s := by
  obtain ⟨c, rest, rfl, hc⟩ := h
  simp [trimStart, hc]

theorem trim_eq_self (hstart : ∃ c rest, s = c :: rest ∧ isBlank c = false)
    (hend : ∃ front c, s = front ++ [c] ∧ isBlank c = false) : trim s = s := by
  refine trim_eq_self_iff.mpr ⟨trimStart_eq_self hstart, ?_⟩
  obtain ⟨front, c, rfl, hc⟩ := hend
  rw [trimEnd, dropEndWhile_append_singleton, if_neg (by simp [hc])]

/-- Blank characters at the end are trimmed with what is blank before them. -/
theorem trim_append_of_blank {t : List Char} (h : ∀ c ∈ t, isBlank c = true) :
    trim (s ++ t) = trim s := by
  rw [trim, trim, trimStart, List.dropWhile_append]
  split
  · next hempty =>
    rw [List.dropWhile_eq_nil_iff.mpr h, trimStart, List.isEmpty_iff.mp hempty]
  · exact dropEndWhile_append_of_pos h _

theorem trimEnd_eq_nil_iff : trimEnd s = [] ↔ ∀ c ∈ s, isBlank c = true :=
  List.rdropWhile_eq_nil_iff

theorem trimEnd_ne_nil (hc : c ∈ s) (h : isBlank c = false) : trimEnd s ≠ [] := by
  intro hnil
  have hblank := trimEnd_eq_nil_iff.mp hnil c hc
  rw [h] at hblank
  cases hblank

theorem not_isBlank_of_trim {rest : List Char} (h : trim s = c :: rest) : isBlank c = false := by
  obtain ⟨behind, hbehind⟩ : c :: rest <+: trimStart s :=
    h ▸ List.rdropWhile_prefix isBlank (trimStart s)
  have hhead : (trimStart s).head? = some c := by
    rw [← hbehind, List.cons_append, List.head?_cons]
  have hc := List.head?_dropWhile_not isBlank s
  rwa [← trimStart, hhead] at hc

theorem trimStart_trim (s : List Char) : trimStart (trim s) = trim s := by
  cases htrim : trim s with
  | nil => rfl
  | cons c rest => exact trimStart_eq_self ⟨c, rest, rfl, not_isBlank_of_trim htrim⟩

theorem trim_trim (s : List Char) : trim (trim s) = trim s :=
  trim_eq_self_iff.mpr ⟨trimStart_trim s, trimEnd_trimEnd (trimStart s)⟩

theorem margin_eq_nil (h : trimStart s = s) : margin s = [] := by
  have hsplit := margin_append_trimStart s
  rw [h] at hsplit
  exact List.self_eq_append_left.mp hsplit.symm

/-- Blanks before a text without a margin are its margin. -/
theorem margin_append {t : List Char} (hs : ∀ c ∈ s, isBlank c = true) (ht : trimStart t = t) :
    margin (s ++ t) = s := by
  rw [margin, List.takeWhile_append_of_pos hs, ← margin, margin_eq_nil ht, List.append_nil]

theorem trimStart_append (hs : ∀ c ∈ s, isBlank c = true) (t : List Char) :
    trimStart (s ++ t) = trimStart t := List.dropWhile_append_of_pos hs

/-- White space at the end of a text is not seen by what is trimmed with the text before it. -/
theorem trimEnd_append_trimEnd (front s : List Char) :
    trimEnd (front ++ trimEnd s) = trimEnd (front ++ s) := by
  obtain ⟨dropped, hs, hdropped⟩ := exists_dropEndWhile isBlank s
  conv_rhs => rw [hs, ← List.append_assoc]
  exact (dropEndWhile_append_of_pos hdropped _).symm

/-- Trimmed at its end, a line with a text keeps its margin and its text. -/
theorem margin_trimEnd (h : ∃ c ∈ s, isBlank c = false) :
    margin (trimEnd s) = margin s ∧ trim (trimEnd s) = trim s := by
  obtain ⟨c, hmem, hc⟩ := h
  have hblank : ∀ d ∈ margin s, isBlank d = true := fun d hd => List.mem_takeWhile_imp hd
  have hkept : c ∈ trimStart s := by
    rw [← margin_append_trimStart s] at hmem
    refine (List.mem_append.mp hmem).resolve_left fun hmargin => ?_
    simp [hblank c hmargin] at hc
  have hcut : trimEnd s = margin s ++ trim s := by
    conv_lhs => rw [← margin_append_trimStart s]
    exact dropEndWhile_append_of_not ⟨c, hkept, hc⟩ (margin s)
  have hstart := trimStart_append hblank (trim s)
  rw [trimStart_trim] at hstart
  rw [hcut, margin_append hblank (trimStart_trim s), trim, hstart]
  exact ⟨rfl, trimEnd_trimEnd (trimStart s)⟩

theorem getLast?_ne_return (h : trimEnd s = s) : s.getLast? ≠ some '\r' := by
  intro hlast
  obtain ⟨front, rfl⟩ := List.getLast?_eq_some_iff.mp hlast
  have hdrop : trimEnd (front ++ ['\r']) = trimEnd front := by
    rw [trimEnd, dropEndWhile_append_singleton, if_pos (by decide), ← trimEnd]
  have hshorter : (trimEnd front).length ≤ front.length :=
    (List.rdropWhile_prefix isBlank front).length_le
  rw [← hdrop, h, List.length_append, List.length_singleton] at hshorter
  omega

section Indented

variable {n : Nat}

theorem isBlank_of_mem_replicate (h : c ∈ List.replicate n ' ') : isBlank c = true := by
  rw [List.eq_of_mem_replicate h]
  decide

/-- Spaces in front of a text without a margin are its margin. -/
theorem margin_replicate_append (h : trimStart s = s) :
    margin (List.replicate n ' ' ++ s) = List.replicate n ' ' :=
  margin_append (fun _ hc => isBlank_of_mem_replicate hc) h

theorem trimStart_replicate_append (n : Nat) (s : List Char) :
    trimStart (List.replicate n ' ' ++ s) = trimStart s :=
  trimStart_append (fun _ hc => isBlank_of_mem_replicate hc) s

end Indented

end GoldenTree.Text
