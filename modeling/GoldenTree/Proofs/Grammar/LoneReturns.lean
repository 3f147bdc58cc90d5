import GoldenTree.Proofs.Grammar.Returns
import GoldenTree.Proofs.Grammar.Words

/-! Sources with carriage returns for newlines. Outside comments such a line break is a token as it
was before. No comment ends there: the first one takes all that is behind it. -/
namespace GoldenTree

namespace Text

/-- The text with a carriage return for every newline. -/
def loneReturns (s : List Char) : List Char := replaceChar '\n' ['\r'] s

/-- The source with line breaks of a carriage return each. -/
def cr (source : String) : String := String.ofList (loneReturns source.toList)

theorem newline_not_mem_loneReturns (s : List Char) : '\n' ∉ loneReturns s := by
  intro h
  rcases mem_replaceChar h with h | h
  · simp at h
  · exact h.2 rfl

end Text

namespace Grammar

open Text

/-- Two slashes and what is skipped with them. -/
def Piece.isComment : Piece → Bool
  | .skipped ('/' :: _) => true
  | _ => false

/-- The pieces before the first comment. -/
def uncommented (ps : List Piece) : List Piece := ps.takeWhile fun piece => !piece.isComment

/-- No piece but the last is a comment. -/
def CommentLast (ps : List Piece) : Prop := ∀ piece ∈ ps.dropLast, piece.isComment = false

variable {c : Char} {r s : List Char} {ps qs : List Piece} {piece : Piece}

theorem uncommented_cons (h : piece.isComment = false) (ps : List Piece) :
    uncommented (piece :: ps) = piece :: uncommented ps := List.takeWhile_cons_of_pos (by simp [h])

theorem uncommented_comment (h : piece.isComment = true) (ps : List Piece) :
    uncommented (piece :: ps) = [] := List.takeWhile_cons_of_neg (by simp [h])

theorem commentLast_cons_iff (h : piece.isComment = false) :
    CommentLast (piece :: ps) ↔ CommentLast ps := by
  cases ps with
  | nil => simp [CommentLast]
  | cons next ps => simp [CommentLast, h]

theorem commentLast_comment_iff (h : piece.isComment = true) :
    CommentLast (piece :: ps) ↔ ps = [] := by
  cases ps with
  | nil => simp [CommentLast]
  | cons next ps => simp [CommentLast, h]

theorem words_comment (h : piece.isComment = true) (ps : List Piece) :
    words (piece :: ps) = words ps ∧ unknowns (piece :: ps) = unknowns ps := by
  cases piece with
  | skipped text => exact ⟨rfl, rfl⟩
  | token s word => cases h
  | unknown c => cases h

/-- How pieces change when their newlines become carriage returns: a comment is the last piece from
then on, where there may have been a newline behind it. -/
inductive Lone : List Piece → List Piece → Prop
  | nil : Lone [] []
  | same {piece : Piece} (plain : piece.isComment = false) {ps qs : List Piece}
      (others : Lone ps qs) : Lone (piece :: ps) (piece :: qs)
  | newline {ps qs : List Piece} (others : Lone ps qs) :
      Lone (.token .newline ['\n'] :: ps) (.token .newline ['\r'] :: qs)
  | comment {short long : Piece} (hshort : short.isComment = true) (hlong : long.isComment = true)
      {ps : List Piece} (behind : ps = [] ∨ ∃ others, ps = .token .newline ['\n'] :: others) :
      Lone (short :: ps) [long]

theorem isComment_nextPiece (h : ¬(c = '/' ∧ r.head? = some '/')) :
    (nextPiece c r).1.isComment = false := by
  have htext := text_append_nextPiece c r
  generalize hnext : nextPiece c r = next at *
  obtain ⟨piece, rest⟩ := next
  rcases nextPiece_cases hnext with ⟨s, word, rfl, -⟩ | ⟨rfl, rfl | rfl⟩ | ⟨text, rfl, -⟩ | ⟨rfl, -⟩
  · rfl
  · rfl
  · rfl
  · obtain ⟨rfl, rfl⟩ := List.cons.inj htext
    exact absurd ⟨rfl, rfl⟩ h
  · rfl

theorem pieces_return (h : '\n' ∉ r) :
    pieces ('\r' :: r) = .token .newline ['\r'] :: pieces r := by
  have hnext : nextPiece '\r' r = (.token .newline ['\r'], r) := by
    cases r with
    | nil => rfl
    | cons d r =>
      have hd : d ≠ '\n' := fun heq => h (heq ▸ List.mem_cons_self)
      simp [nextPiece, hd]
  rw [pieces_cons, hnext]

/-- What stands behind a comment is nothing or begins with a newline. -/
theorem pieces_of_closed (h : ∀ d ∈ s.head?, d = '\n') :
    pieces s = [] ∨ ∃ others, pieces s = .token .newline ['\n'] :: others := by
  cases s with
  | nil => exact .inl pieces_nil
  | cons d s =>
    obtain rfl := h d rfl
    exact .inr ⟨_, (pieces_newline s).1⟩

/-- The pieces of a text with carriage returns for newlines. -/
theorem lone_pieces (s : List Char) (h : '\r' ∉ s) : Lone (pieces s) (pieces (loneReturns s)) := by
  fun_induction pieces s with
  | case1 =>
    rw [loneReturns, replaceChar_nil, pieces_nil]
    exact .nil
  | case2 c r ih =>
    obtain ⟨hreturn, hr⟩ := not_or.mp (mt List.mem_cons.mpr h)
    have hrest : '\r' ∉ (nextPiece c r).2 := by
      intro hmem
      rw [← text_append_nextPiece c r] at h
      exact h (List.mem_append_right _ hmem)
    have hothers := ih hrest
    by_cases hnewline : c = '\n'
    · subst hnewline
      have hbreak : loneReturns ('\n' :: r) = '\r' :: loneReturns r := rfl
      rw [hbreak, pieces_return (newline_not_mem_loneReturns r)]
      exact .newline hothers
    by_cases hcomment : c = '/' ∧ r.head? = some '/'
    · obtain ⟨rfl, hslash⟩ := hcomment
      obtain ⟨t, rfl⟩ := List.head?_eq_some_iff.mp hslash
      have hslashes : loneReturns ('/' :: '/' :: t) = '/' :: '/' :: loneReturns t ++ [] := by
        rw [List.append_nil]
        rfl
      have hbegins : Begins ('/' :: '/' :: loneReturns t ++ [])
          (.skipped ('/' :: '/' :: loneReturns t)) [] :=
        .comment (newline_not_mem_loneReturns t) (by simp)
      rw [hslashes, pieces_of_begins hbegins, pieces_nil]
      exact .comment rfl rfl (pieces_of_closed fun d hd => eq_newline_of_dropWhile hd)
    · rw [loneReturns, replaceChar_cons_of_ne hnewline, pieces_cons,
        nextPiece_replaceChar (Ne.symm hreturn) hnewline hcomment]
      exact .same (isComment_nextPiece hcomment) hothers

/-- Types and messages are those before the first comment. -/
theorem Lone.uncommented_eq (h : Lone ps qs) :
    (words qs).map Prod.fst = (words (uncommented ps)).map Prod.fst ∧
      unknowns qs = unknowns (uncommented ps) := by
  induction h with
  | nil => exact ⟨rfl, rfl⟩
  | same plain _ ih =>
    obtain ⟨hwords, hunknowns⟩ := ih
    rw [uncommented_cons plain, words_cons, words_cons, unknowns_cons, unknowns_cons, hunknowns,
      List.map_append, List.map_append, hwords]
    exact ⟨rfl, rfl⟩
  | newline _ ih =>
    obtain ⟨hwords, hunknowns⟩ := ih
    rw [uncommented_cons rfl]
    exact ⟨congrArg (List.cons _) hwords, hunknowns⟩
  | comment hshort hlong _ =>
    obtain ⟨hwords, hunknowns⟩ := words_comment hlong []
    rw [uncommented_comment hshort, hwords, hunknowns]
    exact ⟨rfl, rfl⟩

/-- A newline behind the first comment would be missed. -/
theorem Lone.commentLast_iff (h : Lone ps qs) :
    (words (uncommented ps)).length = (words ps).length ↔ CommentLast ps := by
  induction h with
  | nil => simp [CommentLast, uncommented]
  | same plain _ ih =>
    rw [uncommented_cons plain, commentLast_cons_iff plain, ← ih, words_cons, words_cons,
      List.length_append, List.length_append, Nat.add_left_cancel_iff]
  | newline _ ih =>
    rw [uncommented_cons rfl, commentLast_cons_iff rfl, ← ih]
    exact Nat.succ_inj
  | comment hshort _ behind =>
    rw [uncommented_comment hshort, (words_comment hshort _).1, commentLast_comment_iff hshort]
    rcases behind with rfl | ⟨others, rfl⟩
    · exact ⟨fun _ => rfl, fun _ => rfl⟩
    · simp [words_cons, Piece.word?]

theorem CommentLast.uncommented_eq (h : CommentLast ps) :
    words (uncommented ps) = words ps ∧ unknowns (uncommented ps) = unknowns ps := by
  induction ps with
  | nil => exact ⟨rfl, rfl⟩
  | cons piece ps ih =>
    cases hcomment : piece.isComment with
    | true =>
      obtain rfl := (commentLast_comment_iff hcomment).mp h
      obtain ⟨hwords, hunknowns⟩ := words_comment hcomment []
      rw [uncommented_comment hcomment, hwords, hunknowns]
      exact ⟨rfl, rfl⟩
    | false =>
      obtain ⟨hwords, hunknowns⟩ := ih ((commentLast_cons_iff hcomment).mp h)
      rw [uncommented_cons hcomment, words_cons, words_cons, unknowns_cons, unknowns_cons, hwords,
        hunknowns]
      exact ⟨rfl, rfl⟩

theorem map_type_place (p : Position) (ps : List Piece) :
    (place p ps).1.map Token.type =
      ((words ps).map Prod.fst).map Symbol.code ++ [Token.endType] := by
  have hpairs := congrArg (List.map Prod.fst) (map_place p ps)
  rw [List.map_map, List.map_append, List.map_map] at hpairs
  rw [List.map_map]
  exact hpairs

/-- With carriage returns for newlines, a source has the tokens and errors of what stands before its
first comment. These are of the same types, and as many, as those of the source itself just if no
comment is followed by anything. -/
theorem tokenize_cr {source : String} (h : '\r' ∉ source.toList) :
    (tokenize (cr source)).1.map Token.type =
      (place .start (uncommented (pieces source.toList))).1.map Token.type ∧
    (tokenize (cr source)).2.map SyntaxError.message =
      (place .start (uncommented (pieces source.toList))).2.map SyntaxError.message ∧
    ((tokenize (cr source)).1.map Token.type = (tokenize source).1.map Token.type ∧
        (tokenize (cr source)).2.length = (tokenize source).2.length ↔
      CommentLast (pieces source.toList)) := by
  have hlone := lone_pieces source.toList h
  obtain ⟨hwords, hunknown⟩ := hlone.uncommented_eq
  have hcr : tokenize (cr source) = place .start (pieces (loneReturns source.toList)) := by
    rw [tokenize, cr, String.toList_ofList]
  rw [hcr, tokenize]
  generalize pieces source.toList = ps at *
  generalize pieces (loneReturns source.toList) = qs at *
  have htypes : (place .start qs).1.map Token.type =
      (place .start (uncommented ps)).1.map Token.type := by
    rw [map_type_place, map_type_place, hwords]
  have hmessages : (place .start qs).2.map SyntaxError.message =
      (place .start (uncommented ps)).2.map SyntaxError.message := by
    rw [map_message_place, map_message_place, hunknown]
  refine ⟨htypes, hmessages, fun halike => ?_, fun hlast => ?_⟩
  · have hsame := halike.1
    rw [htypes, map_type_place, map_type_place] at hsame
    have hlength := congrArg List.length (List.append_cancel_right hsame)
    exact hlone.commentLast_iff.mp (by simpa using hlength)
  · obtain ⟨hwords', hunknown'⟩ := hlast.uncommented_eq
    refine ⟨by rw [htypes, map_type_place, map_type_place, hwords'], ?_⟩
    have hlength := congrArg List.length hmessages
    rw [map_message_place _ (uncommented ps), hunknown', ← map_message_place .start] at hlength
    simpa using hlength

/-- A comment on a line of its own, and a name on the lines around it. -/
def commentedLine : String := "a\n//\nb"

theorem tokenize_cr_commentedLine :
    '\r' ∉ commentedLine.toList ∧
    (tokenize (cr commentedLine)).1.map Token.type = [12, 11, Token.endType] ∧
    (tokenize (cr commentedLine)).2.map SyntaxError.message = [] ∧
    ((tokenize (cr commentedLine)).1.map Token.type = (tokenize commentedLine).1.map Token.type ∧
        (tokenize (cr commentedLine)).2.length = (tokenize commentedLine).2.length ↔
      CommentLast (pieces commentedLine.toList)) := by
  have hreturn : '\r' ∉ commentedLine.toList := by decide
  obtain ⟨htypes, hmessages, hiff⟩ := tokenize_cr hreturn
  exact ⟨hreturn, htypes.trans (by decide +kernel), hmessages.trans (by decide +kernel), hiff⟩

/-- A carriage return behind a comment is no line break. -/
theorem comment_passes_return :
    ¬ ∀ source : String, '\r' ∉ source.toList →
      (tokenize (cr source)).1.map Token.type = (tokenize source).1.map Token.type ∧
      (tokenize (cr source)).2.length = (tokenize source).2.length := by
  intro h
  exact absurd (h "//\na" (by decide)).1 (by decide +kernel)

end Grammar

end GoldenTree
