import GoldenTree.Proofs.Grammar.Scan
import GoldenTree.Proofs.Text.Pieces

/-! The words of a source text, without the places where they stand. No word holds a space, so that
words with spaces between them are read as they were. -/
namespace GoldenTree.Grammar

open Text

namespace Piece

/-- The symbol and the text of a token. -/
def word? : Piece → Option (Symbol × List Char)
  | token symbol text => some (symbol, text)
  | skipped _ => none
  | unknown _ => none

/-- A character that is reported. -/
def unknown? : Piece → Option Char
  | unknown c => some c
  | token .. => none
  | skipped _ => none

end Piece

/-- The words among pieces, each with its symbol. -/
def words (ps : List Piece) : List (Symbol × List Char) := ps.filterMap Piece.word?

/-- The characters among pieces that begin nothing. -/
def unknowns (ps : List Piece) : List Char := ps.filterMap Piece.unknown?

variable {s : Symbol} {word rest : List Char} {ws : List (Symbol × List Char)}

@[simp] theorem words_nil : words [] = [] := rfl

@[simp] theorem unknowns_nil : unknowns [] = [] := rfl

theorem words_cons (piece : Piece) (ps : List Piece) :
    words (piece :: ps) = piece.word?.toList ++ words ps := by
  cases piece <;> rfl

theorem unknowns_cons (piece : Piece) (ps : List Piece) :
    unknowns (piece :: ps) = piece.unknown?.toList ++ unknowns ps := by
  cases piece <;> rfl

/-- Types and texts of tokens are those of the words; the end of input stands behind them. -/
theorem map_place (p : Position) (ps : List Piece) :
    (place p ps).1.map (fun t => (t.type, t.text)) =
      (words ps).map (fun w => (w.1.code, String.ofList w.2)) ++ [(Token.endType, "<EOF>")] := by
  induction ps generalizing p with
  | nil => rfl
  | cons piece ps ih =>
    have hothers := ih (p.advance piece.text)
    cases piece with
    | token symbol text => exact congrArg (List.cons _) hothers
    | skipped text => exact hothers
    | unknown c => exact hothers

theorem map_message_place (p : Position) (ps : List Piece) :
    (place p ps).2.map SyntaxError.message = (unknowns ps).map fun c =>
      String.join ["token recognition error at: '", String.singleton c, "'"] := by
  induction ps generalizing p with
  | nil => rfl
  | cons piece ps ih =>
    have hothers := ih (p.advance piece.text)
    cases piece with
    | token symbol text => exact hothers
    | skipped text => exact hothers
    | unknown c => exact congrArg (List.cons _) hothers

theorem Begins.isLexeme {source : List Char} (h : Begins source (.token s word) rest) :
    IsLexeme s word := by
  cases h with
  | token lexeme _ => exact lexeme

theorem isLexeme_of_mem_words {source : List Char} {w : Symbol × List Char}
    (h : w ∈ words (pieces source)) : IsLexeme w.1 w.2 := by
  fun_induction pieces source with
  | case1 => cases h
  | case2 c r ih =>
    have front := begins_nextPiece c r
    generalize (nextPiece c r).1 = piece at front h
    cases piece with
    | token s word =>
      rcases List.mem_cons.mp h with rfl | h
      · exact front.isLexeme
      · exact ih h
    | skipped text => exact ih h
    | unknown c => exact ih h

theorem space_not_mem_of_isLexeme (h : IsLexeme s word) : ' ' ∉ word := by
  obtain ⟨c, r, rfl⟩ := List.exists_cons_of_ne_nil (ne_nil_of_isLexeme h)
  have hstarts : startsWord ' ' = false ∧ isDigit ' ' = false := by decide +kernel
  have hcontinues : continuesWord ' ' = false ∧ continuesInteger ' ' = false := by decide +kernel
  rw [List.mem_cons, not_or]
  rcases isLexeme_cons_iff.mp h with ⟨hc, rfl⟩ | ⟨-, ⟨rfl, rfl⟩ | ⟨rfl, rfl | rfl⟩⟩ |
    ⟨-, hc, hr⟩ | ⟨-, hc, hr⟩
  · refine ⟨?_, List.not_mem_nil⟩
    rintro rfl
    cases hc
  · decide
  · decide
  · decide
  · refine ⟨?_, fun hmem => ?_⟩
    · rintro rfl
      rw [hstarts.2] at hc
      cases hc
    · exact absurd (hr _ hmem) (by rw [hcontinues.2]; decide)
  · refine ⟨?_, fun hmem => ?_⟩
    · rintro rfl
      rw [hstarts.1] at hc
      cases hc
    · exact absurd (hr _ hmem) (by rw [hcontinues.1]; decide)

/-- No word goes on behind a space. -/
theorem begins_word (h : IsLexeme s word) (hrest : ∀ c ∈ rest.head?, c = ' ') :
    Begins (word ++ rest) (.token s word) rest := by
  refine .token h fun s' longer hlexeme hlonger => Nat.le_of_not_lt fun hlength => ?_
  have hword : word <+: longer :=
    List.prefix_of_prefix_length_le (List.prefix_append ..) hlonger (Nat.le_of_lt hlength)
  obtain ⟨more, rfl⟩ := hword
  have hmore : more <+: rest := (List.prefix_append_right_inj word).mp hlonger
  cases more with
  | nil => simp at hlength
  | cons c more =>
    obtain ⟨others, rfl⟩ := hmore
    obtain rfl := hrest c rfl
    exact space_not_mem_of_isLexeme hlexeme (by simp)

theorem pieces_word (h : IsLexeme s word) : pieces word = [.token s word] := by
  have front : Begins (word ++ []) (.token s word) [] := begins_word h (by simp)
  rw [List.append_nil] at front
  rw [pieces_of_begins front, pieces_nil]

theorem pieces_word_space (h : IsLexeme s word) (rest : List Char) :
    pieces (word ++ ' ' :: rest) = .token s word :: .skipped [' '] :: pieces rest := by
  have front : Begins (word ++ ' ' :: rest) (.token s word) (' ' :: rest) :=
    begins_word h (by simp)
  have space : Begins (' ' :: rest) (.skipped [' ']) rest := .blank (.inl rfl)
  rw [pieces_of_begins front, pieces_of_begins space]

/-- Words with a space between any two of them are all that such a text has. -/
theorem pieces_join_words (h : ∀ w ∈ ws, IsLexeme w.1 w.2) :
    words (pieces (join [' '] (ws.map Prod.snd))) = ws ∧
      unknowns (pieces (join [' '] (ws.map Prod.snd))) = [] := by
  induction ws with
  | nil => simp [join]
  | cons w ws ih =>
    obtain ⟨hw, hws⟩ := List.forall_mem_cons.mp h
    cases ws with
    | nil =>
      rw [List.map_singleton, join, pieces_word hw]
      exact ⟨rfl, rfl⟩
    | cons next ws =>
      obtain ⟨hwords, hunknown⟩ := ih hws
      have hjoin : join [' '] ((w :: next :: ws).map Prod.snd) =
          w.2 ++ ' ' :: join [' '] ((next :: ws).map Prod.snd) := by
        simp [join_cons_cons]
      rw [hjoin, pieces_word_space hw]
      exact ⟨congrArg (List.cons w) hwords, hunknown⟩

/-- The texts of tokens with spaces between them, but for the end of input. -/
def spaced (tokens : List Token) : String :=
  " ".intercalate ((tokens.filter fun t => !t.isEnd).map Token.text)

theorem toList_spaced_tokenize (source : String) :
    (spaced (tokenize source).1).toList =
      join [' '] ((words (pieces source.toList)).map Prod.snd) := by
  obtain ⟨inner, p, htokens, hinner⟩ := (scan_tokenize source).exists_ending
  have hpairs := map_place .start (pieces source.toList)
  rw [← tokenize, htokens, List.map_append] at hpairs
  have htexts : inner.map Token.text =
      (words (pieces source.toList)).map fun w => String.ofList w.2 := by
    have hfront := congrArg (List.map Prod.snd) (List.append_cancel_right hpairs)
    rwa [List.map_map, List.map_map] at hfront
  have hfilter : (inner ++ [Token.ending p]).filter (fun t => !t.isEnd) = inner := by
    have hall : inner.filter (fun t => !t.isEnd) = inner := by
      simpa using fun t ht => (hinner t ht).1
    simp [hall]
  have hchars : (String.toList ∘ fun w : Symbol × List Char => String.ofList w.2) = Prod.snd :=
    funext fun _ => String.toList_ofList
  rw [spaced, htokens, hfilter, htexts, toList_intercalate, List.map_map, hchars]
  rfl

/-- Tokens that are written with spaces between them are read again as they were, and nothing is
reported. -/
theorem tokenize_spaced (source : String) :
    (tokenize (spaced (tokenize source).1)).2 = [] ∧
    (tokenize (spaced (tokenize source).1)).1.map (fun t => (t.type, t.text)) =
      (tokenize source).1.map fun t => (t.type, t.text) := by
  have hlexemes : ∀ w ∈ words (pieces source.toList), IsLexeme w.1 w.2 :=
    fun w => isLexeme_of_mem_words
  obtain ⟨hwords, hunknown⟩ := pieces_join_words hlexemes
  have hagain : tokenize (spaced (tokenize source).1) =
      place .start (pieces (join [' '] ((words (pieces source.toList)).map Prod.snd))) := by
    rw [tokenize, toList_spaced_tokenize]
  rw [hagain]
  constructor
  · have hmessages := map_message_place .start
      (pieces (join [' '] ((words (pieces source.toList)).map Prod.snd)))
    rw [hunknown] at hmessages
    exact List.map_eq_nil_iff.mp hmessages
  · rw [map_place, hwords, tokenize, map_place]

end GoldenTree.Grammar
