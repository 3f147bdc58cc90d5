import GoldenTree.Proofs.Grammar.Agreement
import GoldenTree.Proofs.Grammar.Scan
import GoldenTree.Proofs.Text.Breaks

/-! Sources with carriage returns before their newlines. Outside comments a carriage return and its
newline are one token where the newline alone was one before; a comment takes the carriage return
with it. Either way the tokens look alike, and what is reported does not change at all. -/
namespace GoldenTree

namespace Text

/-- The text with a carriage return before every newline. -/
def withReturns (s : List Char) : List Char := replaceChar '\n' ['\r', '\n'] s

/-- The source as it is checked out with line breaks of two characters. -/
def crlf (source : String) : String := String.ofList (withReturns source.toList)

end Text

namespace Grammar

open Text

variable {c : Char} {r s : List Char} {ps qs : List Piece} {text : List Char}

/-- A first piece that is neither a line break nor a comment stays as it is, whatever begins with a
carriage return where newlines were. -/
theorem nextPiece_replaceChar (hreturn : c ≠ '\r') (hnewline : c ≠ '\n')
    (hcomment : ¬(c = '/' ∧ r.head? = some '/')) (new : List Char) :
    nextPiece c (replaceChar '\n' ('\r' :: new) r) =
      ((nextPiece c r).1, replaceChar '\n' ('\r' :: new) (nextPiece c r).2) := by
  have hcomment' : ¬(c = '/' ∧ (replaceChar '\n' ('\r' :: new) r).head? = some '/') := by
    rwa [head?_replaceChar (by decide) (by decide)]
  have hinteger : continuesInteger '\n' = false ∧ continuesInteger '\r' = false := by decide
  have hword : continuesWord '\n' = false ∧ continuesWord '\r' = false := by decide +kernel
  unfold nextPiece
  simp only [hnewline, hreturn, hcomment, hcomment', if_false,
    takeWhile_replaceChar hinteger.1 hinteger.2, dropWhile_replaceChar hinteger.1 hinteger.2,
    takeWhile_replaceChar hword.1 hword.2, dropWhile_replaceChar hword.1 hword.2]
  split
  · rfl
  · split
    · rfl
    · split
      · rfl
      · split <;> rfl

/-- How pieces change when their newlines get carriage returns: the newline takes its carriage
return, or the comment before it does. -/
inductive Returned : List Piece → List Piece → Prop
  | nil : Returned [] []
  | same (piece : Piece) {ps qs : List Piece} (others : Returned ps qs) :
      Returned (piece :: ps) (piece :: qs)
  | newline {ps qs : List Piece} (others : Returned ps qs) :
      Returned (.token .newline ['\n'] :: ps) (.token .newline ['\r', '\n'] :: qs)
  | comment (text : List Char) {ps qs : List Piece} (others : Returned ps qs) :
      Returned (.skipped text :: .token .newline ['\n'] :: ps)
        (.skipped (text ++ ['\r']) :: .token .newline ['\n'] :: qs)

theorem Returned.refl (ps : List Piece) : Returned ps ps := by
  induction ps with
  | nil => exact .nil
  | cons piece ps ih => exact .same piece ih

theorem pieces_newline (s : List Char) :
    pieces ('\n' :: s) = .token .newline ['\n'] :: pieces s ∧
      pieces ('\r' :: '\n' :: s) = .token .newline ['\r', '\n'] :: pieces s :=
  ⟨pieces_cons _ _, pieces_cons _ _⟩

/-- Behind a comment, the newline stays as it is. -/
theorem Returned.of_comment (hinside : '\n' ∉ text)
    (h : Returned (pieces ('\n' :: s)) (pieces (withReturns ('\n' :: s)))) :
    Returned (pieces ('/' :: '/' :: text ++ '\n' :: s))
      (pieces (withReturns ('/' :: '/' :: text ++ '\n' :: s))) := by
  have hbreak : withReturns ('\n' :: s) = '\r' :: '\n' :: withReturns s := rfl
  have hreturns : withReturns ('/' :: '/' :: text ++ '\n' :: s) =
      '/' :: '/' :: (text ++ ['\r']) ++ '\n' :: withReturns s := by
    rw [withReturns, replaceChar_append, ← withReturns, ← withReturns, hbreak,
      withReturns, replaceChar_of_not_mem (by simpa using hinside)]
    simp
  have hbegins : Begins ('/' :: '/' :: text ++ '\n' :: s) (.skipped ('/' :: '/' :: text))
      ('\n' :: s) := .comment hinside (by simp)
  have hbegins' : Begins ('/' :: '/' :: (text ++ ['\r']) ++ '\n' :: withReturns s)
      (.skipped ('/' :: '/' :: (text ++ ['\r']))) ('\n' :: withReturns s) :=
    .comment (by simpa using hinside) (by simp)
  rw [hbreak, (pieces_newline _).1, (pieces_newline _).2] at h
  rw [hreturns, pieces_of_begins hbegins, pieces_of_begins hbegins', (pieces_newline _).1,
    (pieces_newline _).1]
  cases h with
  | newline others => exact .comment ('/' :: '/' :: text) others

/-- The pieces of a text with carriage returns. -/
theorem returned_pieces (s : List Char) (h : '\r' ∉ s) :
    Returned (pieces s) (pieces (withReturns s)) := by
  fun_induction pieces s with
  | case1 =>
    rw [withReturns, replaceChar_nil, pieces_nil]
    exact .nil
  | case2 c r ih =>
    obtain ⟨hreturn, hr⟩ := not_or.mp (mt List.mem_cons.mpr h)
    have hrest : '\r' ∉ (nextPiece c r).2 := by
      intro hmem
      rw [← text_append_nextPiece c r] at h
      exact h (List.mem_append_right _ hmem)
    have hothers := ih hrest
    rw [← pieces_cons]
    by_cases hnewline : c = '\n'
    · subst hnewline
      have hbreak : withReturns ('\n' :: r) = '\r' :: '\n' :: withReturns r := rfl
      rw [hbreak, (pieces_newline _).1, (pieces_newline _).2]
      exact .newline hothers
    by_cases hcomment : c = '/' ∧ r.head? = some '/'
    · obtain ⟨rfl, hslash⟩ := hcomment
      obtain ⟨t, rfl⟩ := List.head?_eq_some_iff.mp hslash
      by_cases hclosed : '\n' ∈ t
      · obtain ⟨text, rest, rfl, hinside⟩ := List.eq_append_cons_of_mem hclosed
        rw [← List.cons_append, nextPiece_of_comment hinside (by simp)] at hothers
        exact .of_comment hinside hothers
      · rw [withReturns, replaceChar_of_not_mem (by simpa using hclosed)]
        exact .refl _
    · rw [withReturns, replaceChar_cons_of_ne hnewline, pieces_cons, pieces_cons,
        nextPiece_replaceChar (Ne.symm hreturn) hnewline hcomment]
      exact .same _ hothers

/-- A newline token shows its line, but neither its column nor its text. -/
theorem coarse_newline {p q : Position} (hline : p.line = q.line) {word : List Char}
    (hword : word = ['\n'] ∨ word = ['\r', '\n']) :
    (⟨Symbol.newline.code, String.ofList word, p⟩ : Token).coarse =
      (⟨Symbol.newline.code, String.ofList ['\n'], q⟩ : Token).coarse := by
  rcases hword with rfl | rfl
  · simp only [Token.coarse, hline]
  · simp only [Token.coarse, String.toList_ofList, hline]
    rfl

/-- The carriage returns show neither in the tokens nor in what is reported. -/
theorem Returned.place (h : Returned ps qs) (p : Position) :
    (place p qs).1.map Token.coarse = (place p ps).1.map Token.coarse ∧
      (place p qs).2 = (place p ps).2 := by
  induction h generalizing p with
  | nil => exact ⟨rfl, rfl⟩
  | same piece _ ih =>
    obtain ⟨htokens, herrors⟩ := ih (p.advance piece.text)
    cases piece <;> simp [Grammar.place, htokens, herrors]
  | newline _ ih =>
    have hbehind : p.advance ['\r', '\n'] = p.advance ['\n'] := rfl
    obtain ⟨htokens, herrors⟩ := ih (p.advance ['\n'])
    simp only [Grammar.place, Piece.text, hbehind, List.map_cons, htokens, herrors,
      coarse_newline (rfl : p.line = p.line) (.inr rfl), and_self]
  | comment text _ ih =>
    have hline : (p.advance (text ++ ['\r'])).line = (p.advance text).line := by
      rw [Position.advance_append]
      rfl
    have hbehind : (p.advance (text ++ ['\r'])).advance ['\n'] =
        (p.advance text).advance ['\n'] := by
      rw [Position.advance_append]
      rfl
    obtain ⟨htokens, herrors⟩ := ih ((p.advance text).advance ['\n'])
    simp only [Grammar.place, Piece.text, hbehind, List.map_cons, htokens, herrors,
      coarse_newline hline (.inl rfl), and_self]

/-- The tokens of a source with carriage returns look like those of the source without, and the same
errors are reported at the same places. -/
theorem tokenize_crlf {source : String} (h : '\r' ∉ source.toList) :
    (tokenize (crlf source)).1.map Token.coarse = (tokenize source).1.map Token.coarse ∧
      (tokenize (crlf source)).2 = (tokenize source).2 := by
  rw [tokenize, crlf, String.toList_ofList]
  exact (returned_pieces source.toList h).place .start

end Grammar

end GoldenTree
