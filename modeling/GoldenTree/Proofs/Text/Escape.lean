import GoldenTree.Proofs.Text.Breaks

/-! Escaping line breaks in one pass. What one replacement leaves behind is nothing for the next, so
that the three of them do what a single look at each line break does. -/
namespace GoldenTree.Text

variable {c : Char} {s t : List Char}

/-- Between two parts that do not share a line break nothing is replaced. -/
theorem escapeBreaks_append (h : s.getLast? ≠ some '\r' ∨ t.head? ≠ some '\n') :
    escapeBreaks (s ++ t) = escapeBreaks s ++ escapeBreaks t := by
  rw [escapeBreaks, replacePair_append h, replaceChar_append, replaceChar_append]
  rfl

theorem escapeBreaks_cons (h : c ≠ '\r' ∨ s.head? ≠ some '\n') :
    escapeBreaks (c :: s) = escapeBreaks [c] ++ escapeBreaks s :=
  escapeBreaks_append (s := [c]) (by simpa using h)

theorem escapeBreaks_newline (s : List Char) :
    escapeBreaks ('\n' :: s) = '\\' :: 'n' :: escapeBreaks s :=
  escapeBreaks_cons (.inl (by decide))

theorem escapeBreaks_return (h : s.head? ≠ some '\n') :
    escapeBreaks ('\r' :: s) = '\\' :: 'r' :: escapeBreaks s :=
  escapeBreaks_cons (.inr h)

theorem escapeBreaks_return_newline (s : List Char) :
    escapeBreaks ('\r' :: '\n' :: s) = '\\' :: 'n' :: escapeBreaks s :=
  escapeBreaks_append (s := ['\r', '\n']) (.inl (by decide))

theorem escapeBreaks_other (hreturn : c ≠ '\r') (hnewline : c ≠ '\n') (s : List Char) :
    escapeBreaks (c :: s) = c :: escapeBreaks s := by
  have hone : escapeBreaks [c] = [c] :=
    escapeBreaks_of_not_mem (by simpa using hnewline.symm) (by simpa using hreturn.symm)
  rw [escapeBreaks_cons (.inl hreturn), hone, List.singleton_append]

theorem escapeBreaks_eq_once (s : List Char) : escapeBreaks s = escapeBreaksOnce s := by
  fun_induction escapeBreaksOnce s with
  | case1 => rfl
  | case2 r ih => rw [escapeBreaks_return_newline, ih]
  | case3 r ih => rw [escapeBreaks_newline, ih]
  | case4 r hnext ih =>
    have hhead : r.head? ≠ some '\n' := by
      intro h
      obtain ⟨r', rfl⟩ := List.head?_eq_some_iff.mp h
      exact hnext r' rfl
    rw [escapeBreaks_return hhead, ih]
  | case5 c r hpair hnewline hreturn ih => rw [escapeBreaks_other hreturn hnewline, ih]

theorem escapeBreaks_idem (s : List Char) : escapeBreaks (escapeBreaks s) = escapeBreaks s :=
  escapeBreaks_of_not_mem (not_mem_escapeBreaks s).1 (not_mem_escapeBreaks s).2

/-- A line break of two characters that is cut in two is escaped twice. -/
theorem length_escapeBreaks_cut (s t : List Char) :
    (escapeBreaks (s ++ ['\r']) ++ escapeBreaks ('\n' :: t)).length =
      (escapeBreaks ((s ++ ['\r']) ++ '\n' :: t)).length + 2 := by
  have hwhole : escapeBreaks ((s ++ ['\r']) ++ '\n' :: t) =
      escapeBreaks s ++ '\\' :: 'n' :: escapeBreaks t := by
    rw [List.append_assoc, List.singleton_append, escapeBreaks_append (.inr (by simp)),
      escapeBreaks_return_newline]
  have hfirst : escapeBreaks (s ++ ['\r']) = escapeBreaks s ++ ['\\', 'r'] :=
    escapeBreaks_append (.inr (by decide))
  rw [hwhole, hfirst, escapeBreaks_newline]
  simp only [List.length_append, List.length_cons, List.length_nil]
  omega

/-- Parts are escaped apart exactly if they do not share a line break. -/
theorem escapeBreaks_append_iff (s t : List Char) :
    escapeBreaks (s ++ t) = escapeBreaks s ++ escapeBreaks t ↔
      ¬(s.getLast? = some '\r' ∧ t.head? = some '\n') := by
  constructor
  · rintro happend ⟨hlast, hhead⟩
    obtain ⟨s, rfl⟩ := List.getLast?_eq_some_iff.mp hlast
    obtain ⟨t, rfl⟩ := List.head?_eq_some_iff.mp hhead
    have hcut := length_escapeBreaks_cut s t
    rw [← happend] at hcut
    omega
  · intro h
    exact escapeBreaks_append (not_and_or.mp h)

/-- Replacing the line breaks of two characters, then newlines, then carriage returns is one scan
from left to right. What comes out is on one line, is escaped already, and is put together from
escaped parts unless they are the two halves of a line break. -/
theorem escapeBreaks_scans (s : List Char) :
    escapeBreaks s = escapeBreaksOnce s ∧
    ('\n' ∉ escapeBreaks s ∧ '\r' ∉ escapeBreaks s) ∧
    escapeBreaks (escapeBreaks s) = escapeBreaks s ∧
    ∀ t, escapeBreaks (s ++ t) = escapeBreaks s ++ escapeBreaks t ↔
      ¬(s.getLast? = some '\r' ∧ t.head? = some '\n') :=
  ⟨escapeBreaks_eq_once s, not_mem_escapeBreaks s, escapeBreaks_idem s, escapeBreaks_append_iff s⟩

/-- Backslashes that stand there already are copied. -/
example : escapeBreaks "\r\r\n\n\\n\\".toList = "\\r\\n\\n\\n\\".toList := by decide

end GoldenTree.Text
