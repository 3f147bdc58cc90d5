import GoldenTree.Proofs.Disk.Resolution
import GoldenTree.Proofs.Text.Pieces
import Mathlib.Data.List.DropRight

/-! The parent of a path stands at its beginning, so whatever follows the path passes it. -/
namespace GoldenTree.Disk

open Text FileSystem

namespace Path

variable {p q : Path} {ps kept front : List (List Char)} {last body : List Char}

theorem trimPieces_isPrefix (ps : List (List Char)) : trimPieces ps <+: ps :=
  List.rdropWhile_prefix _ _

theorem getLast_trimPieces (h : trimPieces ps ≠ []) : (trimPieces ps).getLast h ≠ [] := by
  have hlast := List.rdropWhile_last_not
    (fun piece : List Char => piece.isEmpty || piece == ['.']) ps h
  intro hnil
  change (trimPieces ps).getLast h = [] at hnil
  change ¬((((trimPieces ps).getLast h).isEmpty || (trimPieces ps).getLast h == ['.']) = true)
    at hlast
  simp [hnil] at hlast

theorem getLast?_trimPieces (ps : List (List Char)) : (trimPieces ps).getLast? ≠ some [] := by
  intro h
  obtain ⟨front, hfront⟩ := List.getLast?_eq_some_iff.mp h
  have hne : trimPieces ps ≠ [] := by simp [hfront]
  apply getLast_trimPieces hne
  rw [List.getLast?_eq_some_getLast hne] at h
  exact Option.some.inj h

/-- What is kept of the pieces of a path for its parent is followed by a piece with a name. -/
theorem kept_isPrefix (ps : List (List Char)) (h : trimPieces (trimPieces ps).dropLast ≠ []) :
    ∃ rest last, trimPieces (trimPieces ps).dropLast ++ rest ++ [last] <+: ps ∧ last ≠ [] := by
  have hne : trimPieces ps ≠ [] := by
    intro hnil
    rw [hnil] at h
    exact h rfl
  obtain ⟨rest, hrest⟩ := trimPieces_isPrefix (trimPieces ps).dropLast
  refine ⟨rest, (trimPieces ps).getLast hne, ?_, getLast_trimPieces hne⟩
  rw [hrest, List.dropLast_append_getLast hne]
  exact trimPieces_isPrefix ps

theorem prefix_namePieces (h : front ++ [last] <+: p.pieces) (hlast : last ≠ []) :
    front ++ [last] <+: namePieces p := by
  obtain ⟨rest, hrest⟩ := h
  have hempty : last.isEmpty = false := by simpa using hlast
  have hstop : ((front ++ [last]).reverse).dropWhile List.isEmpty = (front ++ [last]).reverse := by
    simp [hempty]
  unfold namePieces
  rw [← hrest, List.reverse_append, List.dropWhile_append, hstop]
  split
  · simp only [List.reverse_reverse, List.prefix_refl]
  · rw [List.reverse_append, List.reverse_reverse]
    exact List.prefix_append _ _

/-- Joined again, what is kept has the same pieces. -/
theorem splitAt_join_kept (hne : kept ≠ []) (hlast : kept.getLast? ≠ some [])
    (h : kept <+: splitAt '/' body) : splitAt '/' (Text.join ['/'] kept) = kept ∧
      Text.join ['/'] kept ≠ [] ∧ Text.join ['/'] kept <+: body := by
  have hsplit : splitAt '/' (Text.join ['/'] kept) = kept :=
    splitAt_join hne fun piece hpiece => not_mem_of_mem_splitAt (h.subset hpiece)
  refine ⟨hsplit, ?_, ?_⟩
  · intro hnil
    rw [hnil] at hsplit
    exact hlast (by rw [← hsplit]; rfl)
  · have hbegins : Text.join ['/'] kept <+: Text.join ['/'] (splitAt '/' body) :=
      join_isPrefix hne h
    rwa [join_splitAt] at hbegins

/-- The parent is empty, or the working directory, or what the path begins with. -/
theorem parent?_isPrefix (h : p.parent? = some q) (hrel : p.isAbsolute = false) :
    q.text = "" ∨ q.text = "." ∨ (q.chars ≠ [] ∧ q.chars <+: p.chars ∧
      ∃ rest, rest ≠ [] ∧ namePieces p = q.pieces ++ rest) := by
  unfold parent? at h
  split at h
  · cases h
  · cases h
  · split at h
    · next body hchars => simp [isAbsolute, hchars] at hrel
    · next hchars =>
      obtain rfl := Option.some.inj h
      exact .inl rfl
    · next body hchars =>
      obtain rfl := Option.some.inj h
      have hkept := kept_isPrefix (splitAt '/' ('/' :: body))
      have hlast := getLast?_trimPieces (trimPieces (splitAt '/' ('/' :: body))).dropLast
      generalize trimPieces (trimPieces (splitAt '/' ('/' :: body))).dropLast = kept at *
      by_cases hne : kept = []
      · subst hne
        exact .inr (.inl rfl)
      · obtain ⟨rest, last, hbegins, hname⟩ := hkept hne
        obtain ⟨hsplit, -, hstart⟩ := splitAt_join_kept hne hlast
          (((List.prefix_append _ _).trans (List.prefix_append _ _)).trans hbegins)
        obtain ⟨piece, more, rfl⟩ := List.exists_cons_of_ne_nil hne
        rw [splitAt, if_pos rfl, List.cons_append, List.cons_append, List.cons_prefix_cons]
          at hbegins
        obtain ⟨rfl, hbegins⟩ := hbegins
        have hpieces : (['.'] :: (more ++ rest)) ++ [last] <+: p.pieces := by
          rw [pieces, hchars]
          simpa [splitAt] using hbegins
        obtain ⟨behind, hbehind⟩ := prefix_namePieces hpieces hname
        refine .inr (.inr ⟨by simp [chars], ?_, rest ++ [last] ++ behind, by simp, ?_⟩)
        · rw [hchars]
          simpa [chars] using hstart
        · rw [pieces, chars, String.toList_ofList, ← hbehind, List.singleton_append, splitAt,
            if_neg (by decide), hsplit]
          simp
    · next body hnot hdot hhere =>
      obtain rfl := Option.some.inj h
      have hkept := kept_isPrefix (splitAt '/' p.chars)
      have hlast := getLast?_trimPieces (trimPieces (splitAt '/' p.chars)).dropLast
      generalize trimPieces (trimPieces (splitAt '/' p.chars)).dropLast = kept at *
      by_cases hne : kept = []
      · subst hne
        exact .inl rfl
      · obtain ⟨rest, last, hbegins, hname⟩ := hkept hne
        obtain ⟨hsplit, hchars, hstart⟩ := splitAt_join_kept hne hlast
          (((List.prefix_append _ _).trans (List.prefix_append _ _)).trans hbegins)
        obtain ⟨more, hmore⟩ := prefix_namePieces hbegins hname
        refine .inr (.inr ⟨by simpa [chars] using hchars, by simpa [chars] using hstart,
          rest ++ [last] ++ more, by simp, ?_⟩)
        simp only [pieces, chars, String.toList_ofList, List.nil_append, hsplit, ← hmore,
          List.append_assoc]

end Path

end GoldenTree.Disk
