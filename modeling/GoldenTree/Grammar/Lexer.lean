import GoldenTree.Grammar.Symbol
import GoldenTree.Text.Letter

/-! Source text cut into tokens. The text is first cut into pieces that lose no character; each
token and each error then takes the position at which its piece begins. -/
namespace GoldenTree.Grammar

open Text

/-- A piece of source text: a token, a space, tab or comment that is skipped, or one character
that begins nothing. -/
inductive Piece where
  | token (symbol : Symbol) (text : List Char)
  | skipped (text : List Char)
  | unknown (c : Char)
  deriving Repr, DecidableEq

namespace Piece

def text : Piece → List Char
  | token _ text => text
  | skipped text => text
  | unknown c => [c]

end Piece

def punctuation? : Char → Option Symbol
  | '(' => some .leftParen
  | ')' => some .rightParen
  | '{' => some .leftBrace
  | '}' => some .rightBrace
  | ',' => some .comma
  | ':' => some .colon
  | ';' => some .semicolon
  | '=' => some .assign
  | _ => none

def isDigit (c : Char) : Bool := '0' ≤ c && c ≤ '9'

def continuesInteger (c : Char) : Bool := isDigit c || c == '_'

def startsWord (c : Char) : Bool := isLetter c || c == '_'

def continuesWord (c : Char) : Bool := isLetterOrNumber c || c == '_'

def wordSymbol (word : List Char) : Symbol :=
  if word = ['f', 'u', 'n'] then .funKeyword
  else if word = ['v', 'a', 'l'] then .valKeyword
  else .identifier

/-- The first piece of `c :: r` and what follows it. -/
def nextPiece (c : Char) (r : List Char) : Piece × List Char :=
  if c = ' ' ∨ c = '\t' then (.skipped [c], r)
  else if c = '\n' then (.token .newline [c], r)
  else if c = '\r' then
    match r with
    | '\n' :: r => (.token .newline [c, '\n'], r)
    | r => (.token .newline [c], r)
  else if c = '/' ∧ r.head? = some '/' then
    (.skipped (c :: r.takeWhile (· ≠ '\n')), r.dropWhile (· ≠ '\n'))
  else match punctuation? c with
    | some symbol => (.token symbol [c], r)
    | none =>
      if isDigit c then
        (.token .integer (c :: r.takeWhile continuesInteger), r.dropWhile continuesInteger)
      else if startsWord c then
        let word := c :: r.takeWhile continuesWord
        (.token (wordSymbol word) word, r.dropWhile continuesWord)
      else (.unknown c, r)

theorem text_append_nextPiece (c : Char) (r : List Char) :
    (nextPiece c r).1.text ++ (nextPiece c r).2 = c :: r := by
  unfold nextPiece
  repeat' split
  all_goals simp_all [Piece.text]

theorem text_nextPiece_ne_nil (c : Char) (r : List Char) : (nextPiece c r).1.text ≠ [] := by
  unfold nextPiece
  repeat' split
  all_goals simp [Piece.text]

theorem length_nextPiece (c : Char) (r : List Char) :
    (nextPiece c r).2.length < (c :: r).length := by
  rw [← text_append_nextPiece c r, List.length_append]
  have := List.length_pos_iff.2 (text_nextPiece_ne_nil c r)
  omega

/-- The pieces of a source text. -/
def pieces : List Char → List Piece
  | [] => []
  | c :: r => (nextPiece c r).1 :: pieces (nextPiece c r).2
termination_by s => s.length
decreasing_by exact length_nextPiece c r

@[simp] theorem pieces_nil : pieces [] = [] := by rw [pieces]

theorem pieces_cons (c : Char) (r : List Char) :
    pieces (c :: r) = (nextPiece c r).1 :: pieces (nextPiece c r).2 := by rw [pieces]

theorem flatMap_text_pieces (s : List Char) : (pieces s).flatMap Piece.text = s := by
  fun_induction pieces s with
  | case1 => rfl
  | case2 c r ih => simp [ih, text_append_nextPiece]

/-- The tokens and errors of consecutive pieces that begin at `p`, and the final token. -/
def place (p : Position) : List Piece → List Token × List SyntaxError
  | [] => ([.ending p], [])
  | piece :: rest =>
    let (tokens, errors) := place (p.advance piece.text) rest
    match piece with
    | .token symbol text => (⟨symbol.code, String.ofList text, p⟩ :: tokens, errors)
    | .skipped _ => (tokens, errors)
    | .unknown c =>
      let message := String.join ["token recognition error at: '", String.singleton c, "'"]
      (tokens, ⟨p, message⟩ :: errors)

/-- The tokens of a source text, the last of which is the end of input, and its errors. -/
def tokenize (source : String) : List Token × List SyntaxError :=
  place .start (pieces source.toList)

end GoldenTree.Grammar
