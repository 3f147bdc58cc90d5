import GoldenTree.Grammar.Lexer
import GoldenTree.Proofs.Cut
import Mathlib.Data.List.TakeWhile

/-! The words of the symbols, and what a text begins with: the longest word there is, or else a
blank, a comment or a character that begins nothing. These rules leave no choice. -/
namespace GoldenTree.Grammar

open Text

/-- The words of a symbol. A keyword is no identifier. -/
def IsLexeme : Symbol → List Char → Prop
  | .funKeyword, word => word = ['f', 'u', 'n']
  | .valKeyword, word => word = ['v', 'a', 'l']
  | .leftParen, word => word = ['(']
  | .rightParen, word => word = [')']
  | .leftBrace, word => word = ['{']
  | .rightBrace, word => word = ['}']
  | .comma, word => word = [',']
  | .colon, word => word = [':']
  | .semicolon, word => word = [';']
  | .assign, word => word = ['=']
  | .newline, word => word = ['\n'] ∨ word = ['\r'] ∨ word = ['\r', '\n']
  | .identifier, word => (∃ c r, word = c :: r ∧ startsWord c = true ∧
      ∀ d ∈ r, continuesWord d = true) ∧ word ≠ ['f', 'u', 'n'] ∧ word ≠ ['v', 'a', 'l']
  | .integer, word => ∃ c r, word = c :: r ∧ isDigit c = true ∧ ∀ d ∈ r, continuesInteger d = true
  | .endOfInput, _ => False
  | .other _, _ => False

/-- What a text begins with, and what is left behind it. -/
inductive Begins : List Char → Piece → List Char → Prop
  | token {symbol : Symbol} {word rest : List Char} (lexeme : IsLexeme symbol word)
      (longest : ∀ s w, IsLexeme s w → w <+: word ++ rest → w.length ≤ word.length) :
      Begins (word ++ rest) (.token symbol word) rest
  | blank {c : Char} {rest : List Char} (hc : c = ' ' ∨ c = '\t') :
      Begins (c :: rest) (.skipped [c]) rest
  | comment {text rest : List Char} (inside : '\n' ∉ text) (closed : ∀ c ∈ rest.head?, c = '\n') :
      Begins ('/' :: '/' :: text ++ rest) (.skipped ('/' :: '/' :: text)) rest
  | unknown {c : Char} {rest : List Char} (noToken : ∀ s w, IsLexeme s w → ¬w <+: c :: rest)
      (noBlank : c ≠ ' ' ∧ c ≠ '\t') (noComment : ¬['/', '/'] <+: c :: rest) :
      Begins (c :: rest) (.unknown c) rest

variable {c : Char} {r word rest : List Char} {s s' : Symbol} {piece : Piece}

/-! First characters. Each belongs to one kind of word. -/

theorem le_of_startsWord (h : startsWord c = true) : 0x41 ≤ c.toNat := by
  have hletters : ∀ range ∈ letterRanges, 0x41 ≤ range.1 := by decide +kernel
  simp only [startsWord, isLetter, inRanges, Bool.or_eq_true, List.any_eq_true, Bool.and_eq_true,
    decide_eq_true_eq, beq_iff_eq] at h
  rcases h with ⟨range, hrange, hlow, -⟩ | rfl
  · exact Nat.le_trans (hletters range hrange) hlow
  · decide

theorem range_of_isDigit (h : isDigit c = true) : 0x30 ≤ c.toNat ∧ c.toNat ≤ 0x39 := by
  simpa [isDigit, Char.le_def, UInt32.le_iff_toNat_le] using h

theorem not_startsWord_of_isDigit (h : isDigit c = true) : startsWord c = false := by
  rw [Bool.eq_false_iff]
  intro hword
  have hlow := le_of_startsWord hword
  have hhigh := (range_of_isDigit h).2
  omega

/-- The characters that neither a number nor a name begins with, as far as anything else does. -/
def plainChars : List Char :=
  [' ', '\t', '\n', '\r', '/', '(', ')', '{', '}', ',', ':', ';', '=']

-- Letters are looked at one by one, whatever is imported.
attribute [local instance (2000)] List.decidableBAll

theorem not_starts_of_mem : ∀ c ∈ plainChars, startsWord c = false ∧ isDigit c = false := by
  decide +kernel

theorem mem_of_punctuation? (h : punctuation? c = some s) :
    c ∈ plainChars ∧ c ∉ [' ', '\t', '\n', '\r', '/'] := by
  unfold punctuation? at h
  split at h
  all_goals first | decide | cases h

theorem punctuation?_of_not_mem (h : c ∉ plainChars) : punctuation? c = none := by
  cases hc : punctuation? c with
  | none => rfl
  | some s => exact absurd (mem_of_punctuation? hc).1 h

theorem not_mem_of_isDigit (h : isDigit c = true) : c ∉ plainChars := by
  intro hmem
  rw [(not_starts_of_mem c hmem).2] at h
  cases h

theorem not_mem_of_startsWord (h : startsWord c = true) : c ∉ plainChars := by
  intro hmem
  rw [(not_starts_of_mem c hmem).1] at h
  cases h

/-- How a word begins tells what it consists of. -/
theorem isLexeme_cons_iff : IsLexeme s (c :: r) ↔
    (punctuation? c = some s ∧ r = []) ∨
    (s = .newline ∧ (c = '\n' ∧ r = [] ∨ c = '\r' ∧ (r = [] ∨ r = ['\n']))) ∨
    (s = .integer ∧ isDigit c = true ∧ ∀ d ∈ r, continuesInteger d = true) ∨
    (s = wordSymbol (c :: r) ∧ startsWord c = true ∧ ∀ d ∈ r, continuesWord d = true) := by
  constructor
  · intro h
    cases s with
    | endOfInput => exact h.elim
    | other code => exact h.elim
    | newline =>
      refine .inr (.inl ⟨rfl, ?_⟩)
      simpa [IsLexeme, and_or_left] using h
    | integer =>
      obtain ⟨c, r, hword, hc, hr⟩ := h
      obtain ⟨rfl, rfl⟩ := List.cons.inj hword
      exact .inr (.inr (.inl ⟨rfl, hc, hr⟩))
    | identifier =>
      obtain ⟨⟨c, r, hword, hc, hr⟩, hfun, hval⟩ := h
      obtain ⟨rfl, rfl⟩ := List.cons.inj hword
      exact .inr (.inr (.inr ⟨by simp [wordSymbol, hfun, hval], hc, hr⟩))
    | funKeyword =>
      obtain ⟨rfl, rfl⟩ := List.cons.inj h
      exact .inr (.inr (.inr (by decide +kernel)))
    | valKeyword =>
      obtain ⟨rfl, rfl⟩ := List.cons.inj h
      exact .inr (.inr (.inr (by decide +kernel)))
    | _ =>
      obtain ⟨rfl, rfl⟩ := List.cons.inj h
      exact .inl ⟨rfl, rfl⟩
  · rintro (⟨hc, rfl⟩ | ⟨rfl, hbreak⟩ | ⟨rfl, hc, hr⟩ | ⟨rfl, hc, hr⟩)
    · unfold punctuation? at hc
      split at hc
      all_goals cases hc
      all_goals rfl
    · simpa [IsLexeme, and_or_left] using hbreak
    · exact ⟨c, r, rfl, hc, hr⟩
    · unfold wordSymbol
      split
      · assumption
      · split
        · assumption
        · exact ⟨⟨c, r, rfl, hc, hr⟩, ‹_›, ‹_›⟩

theorem ne_nil_of_isLexeme (h : IsLexeme s word) : word ≠ [] := by
  rintro rfl
  cases s <;> simp [IsLexeme] at h

/-! The first piece of a text, by its first character. -/

theorem nextPiece_of_not_mem (h : c ∉ [' ', '\t', '\n', '\r', '/']) : nextPiece c r =
    match punctuation? c with
    | some symbol => (.token symbol [c], r)
    | none =>
      if isDigit c then
        (.token .integer (c :: r.takeWhile continuesInteger), r.dropWhile continuesInteger)
      else if startsWord c then
        (.token (wordSymbol (c :: r.takeWhile continuesWord)) (c :: r.takeWhile continuesWord),
          r.dropWhile continuesWord)
      else (.unknown c, r) := by
  simp only [List.mem_cons, List.not_mem_nil, or_false, not_or] at h
  obtain ⟨hspace, htab, hnewline, hreturn, hslash⟩ := h
  have hblank : ¬(c = ' ' ∨ c = '\t') := not_or.mpr ⟨hspace, htab⟩
  have hcomment : ¬(c = '/' ∧ r.head? = some '/') := fun h => hslash h.1
  unfold nextPiece
  exact (if_neg hblank).trans ((if_neg hnewline).trans ((if_neg hreturn).trans (if_neg hcomment)))

theorem nextPiece_of_punctuation? (h : punctuation? c = some s) :
    nextPiece c r = (.token s [c], r) := by
  rw [nextPiece_of_not_mem (mem_of_punctuation? h).2, h]

theorem nextPiece_of_isDigit (h : isDigit c = true) : nextPiece c r =
    (.token .integer (c :: r.takeWhile continuesInteger), r.dropWhile continuesInteger) := by
  have hplain := not_mem_of_isDigit h
  rw [nextPiece_of_not_mem fun hmem => hplain (List.mem_append_left _ hmem),
    punctuation?_of_not_mem hplain]
  simp only [h, if_true]

theorem nextPiece_of_startsWord (h : startsWord c = true) : nextPiece c r =
    (.token (wordSymbol (c :: r.takeWhile continuesWord)) (c :: r.takeWhile continuesWord),
      r.dropWhile continuesWord) := by
  have hplain := not_mem_of_startsWord h
  have hdigit : isDigit c = false := by
    rw [Bool.eq_false_iff]
    intro hc
    rw [not_startsWord_of_isDigit hc] at h
    cases h
  rw [nextPiece_of_not_mem fun hmem => hplain (List.mem_append_left _ hmem),
    punctuation?_of_not_mem hplain]
  simp only [hdigit, h, if_true, Bool.false_eq_true, if_false]

theorem length_le_takeWhile {p : Char → Bool} {front s : List Char} (h : front <+: s)
    (hp : ∀ c ∈ front, p c = true) : front.length ≤ (s.takeWhile p).length := by
  obtain ⟨rest, rfl⟩ := h
  rw [List.takeWhile_append_of_pos hp, List.length_append]
  exact Nat.le_add_right _ _

/-- Where a text begins with a word, its first piece is a token that is no shorter. -/
theorem nextPiece_of_isLexeme (h : IsLexeme s word) (hword : word <+: c :: r) :
    ∃ symbol text rest, nextPiece c r = (.token symbol text, rest) ∧
      word.length ≤ text.length ∧ (word = text → s = symbol) := by
  obtain ⟨d, front, rfl⟩ := List.exists_cons_of_ne_nil (ne_nil_of_isLexeme h)
  obtain ⟨rfl, hfront⟩ := List.cons_prefix_cons.mp hword
  rcases isLexeme_cons_iff.mp h with ⟨hd, rfl⟩ | ⟨rfl, hbreak⟩ | ⟨rfl, hd, hall⟩ | ⟨rfl, hd, hall⟩
  · exact ⟨_, _, _, nextPiece_of_punctuation? hd, Nat.le_refl _, fun _ => rfl⟩
  · rcases hbreak with ⟨rfl, rfl⟩ | ⟨rfl, rfl | rfl⟩
    · exact ⟨_, _, _, rfl, Nat.le_refl _, fun _ => rfl⟩
    · cases r with
      | nil => exact ⟨_, _, _, rfl, Nat.le_refl _, fun _ => rfl⟩
      | cons d r =>
        by_cases hd : d = '\n'
        · subst hd
          exact ⟨_, _, _, rfl, by decide, fun _ => rfl⟩
        · exact ⟨.newline, ['\r'], d :: r, by simp [nextPiece, hd], Nat.le_refl _, fun _ => rfl⟩
    · obtain ⟨rest, rfl⟩ := hfront
      exact ⟨_, _, _, rfl, Nat.le_refl _, fun _ => rfl⟩
  · exact ⟨_, _, _, nextPiece_of_isDigit hd, Nat.succ_le_succ (length_le_takeWhile hfront hall),
      fun _ => rfl⟩
  · exact ⟨_, _, _, nextPiece_of_startsWord hd, Nat.succ_le_succ (length_le_takeWhile hfront hall),
      fun heq => by rw [heq]⟩

/-- A comment goes on to the end of its line. -/
theorem eq_newline_of_dropWhile (h : c ∈ (r.dropWhile (· ≠ '\n')).head?) : c = '\n' := by
  have hstop := List.head?_dropWhile_not (fun d : Char => decide (d ≠ '\n')) r
  rw [Option.mem_def.mp h] at hstop
  simpa using hstop

/-- What a first piece is, apart from being the longest. -/
theorem nextPiece_cases (h : nextPiece c r = (piece, rest)) :
    (∃ s word, piece = .token s word ∧ IsLexeme s word) ∨
    (piece = .skipped [c] ∧ (c = ' ' ∨ c = '\t')) ∨
    (∃ text, piece = .skipped ('/' :: '/' :: text) ∧ '\n' ∉ text ∧ ∀ d ∈ rest.head?, d = '\n') ∨
    (piece = .unknown c ∧ (c ≠ ' ' ∧ c ≠ '\t') ∧ ¬['/', '/'] <+: c :: r) := by
  unfold nextPiece at h
  repeat' split at h
  all_goals obtain ⟨rfl, rfl⟩ := Prod.mk.inj h
  · next hblank => exact .inr (.inl ⟨rfl, hblank⟩)
  · next hnewline => exact .inl ⟨_, _, rfl, .inl (by rw [hnewline])⟩
  · next hreturn _ _ => exact .inl ⟨_, _, rfl, .inr (.inr (by rw [hreturn]))⟩
  · next hreturn _ _ => exact .inl ⟨_, _, rfl, .inr (.inl (by rw [hreturn]))⟩
  · next hcomment =>
    obtain ⟨rfl, hslash⟩ := hcomment
    obtain ⟨t, rfl⟩ := List.head?_eq_some_iff.mp hslash
    refine .inr (.inr (.inl ⟨t.takeWhile (· ≠ '\n'), rfl, ?_, ?_⟩))
    · intro hmem
      simpa using List.mem_takeWhile_imp hmem
    · exact fun d hd => eq_newline_of_dropWhile hd
  · next hsymbol => exact .inl ⟨_, _, rfl, isLexeme_cons_iff.mpr (.inl ⟨hsymbol, rfl⟩)⟩
  · next hdigit =>
    exact .inl ⟨_, _, rfl, isLexeme_cons_iff.mpr
      (.inr (.inr (.inl ⟨rfl, hdigit, fun d => List.mem_takeWhile_imp⟩)))⟩
  · next hword =>
    exact .inl ⟨_, _, rfl, isLexeme_cons_iff.mpr
      (.inr (.inr (.inr ⟨rfl, hword, fun d => List.mem_takeWhile_imp⟩)))⟩
  · next hblank _ _ hcomment _ _ _ _ =>
    refine .inr (.inr (.inr ⟨rfl, not_or.mp hblank, fun hslashes => hcomment ?_⟩))
    obtain ⟨t, ht⟩ := hslashes
    obtain ⟨rfl, rfl⟩ := List.cons.inj ht
    exact ⟨rfl, rfl⟩

/-- The first piece is what a text begins with. -/
theorem begins_nextPiece (c : Char) (r : List Char) :
    Begins (c :: r) (nextPiece c r).1 (nextPiece c r).2 := by
  have htext := text_append_nextPiece c r
  have hlonger : ∀ s w, IsLexeme s w → w <+: c :: r → ∃ symbol text rest,
      nextPiece c r = (.token symbol text, rest) ∧
        w.length ≤ text.length ∧ (w = text → s = symbol) :=
    fun s w hlexeme hw => nextPiece_of_isLexeme hlexeme hw
  generalize hnext : nextPiece c r = next at *
  obtain ⟨piece, rest⟩ := next
  rw [← htext] at hlonger ⊢
  rcases nextPiece_cases hnext with ⟨s, word, rfl, hlexeme⟩ | ⟨rfl, hblank⟩ |
    ⟨text, rfl, hinside, hclosed⟩ | ⟨rfl, hblank, hcomment⟩
  · refine .token hlexeme fun s w hs hw => ?_
    obtain ⟨_, _, _, heq, hle, -⟩ := hlonger s w hs hw
    cases heq
    exact hle
  · exact .blank hblank
  · exact .comment hinside hclosed
  · refine .unknown (fun s w hs hw => ?_) hblank ?_
    · obtain ⟨_, _, _, heq, -⟩ := hlonger s w hs hw
      cases heq
    · rwa [← htext] at hcomment

theorem nextPiece_of_token (hlexeme : IsLexeme s word)
    (hlongest : ∀ s' w, IsLexeme s' w → w <+: word ++ rest → w.length ≤ word.length)
    (hs : word ++ rest = c :: r) : nextPiece c r = (.token s word, rest) := by
  obtain ⟨symbol, text, behind, hnext, hle, hsymbol⟩ :=
    nextPiece_of_isLexeme hlexeme (c := c) (r := r) ⟨rest, hs⟩
  have htext : text ++ behind = word ++ rest := by
    have happend := text_append_nextPiece c r
    rw [hnext] at happend
    exact happend.trans hs.symm
  have hlexeme' : IsLexeme symbol text := by
    rcases nextPiece_cases hnext with ⟨s, word, heq, h⟩ | ⟨heq, -⟩ | ⟨t, heq, -⟩ | ⟨heq, -⟩
    · cases heq
      exact h
    all_goals cases heq
  have hlength : text.length = word.length :=
    Nat.le_antisymm (hlongest symbol text hlexeme' ⟨behind, htext⟩) hle
  obtain ⟨rfl, rfl⟩ := List.append_inj htext hlength
  rw [hnext, hsymbol rfl]

theorem nextPiece_of_comment {text : List Char} (hinside : '\n' ∉ text)
    (hclosed : ∀ d ∈ rest.head?, d = '\n') :
    nextPiece '/' ('/' :: text ++ rest) = (.skipped ('/' :: '/' :: text), rest) := by
  have hall : ∀ d ∈ '/' :: text, decide (d ≠ '\n') = true := by
    intro d hd
    rcases List.mem_cons.mp hd with rfl | hd
    · decide
    · exact decide_eq_true fun heq => hinside (heq ▸ hd)
  have hstop : ∀ d ∈ rest.head?, decide (d ≠ '\n') = false := by
    intro d hd
    simpa using hclosed d hd
  unfold nextPiece
  rw [takeWhile_append_stop hall hstop, dropWhile_append_stop hall hstop]
  rfl

theorem nextPiece_of_unknown (hlexeme : ∀ s w, IsLexeme s w → ¬w <+: c :: r)
    (hblank : c ≠ ' ' ∧ c ≠ '\t') (hcomment : ¬['/', '/'] <+: c :: r) :
    nextPiece c r = (.unknown c, r) := by
  have htext := text_append_nextPiece c r
  generalize hnext : nextPiece c r = next at *
  obtain ⟨piece, rest⟩ := next
  rcases nextPiece_cases hnext with ⟨s, word, rfl, h⟩ | ⟨rfl, h⟩ | ⟨text, rfl, -⟩ | ⟨rfl, -⟩
  · exact absurd ⟨rest, htext⟩ (hlexeme s word h)
  · exact absurd h (not_or.mpr hblank)
  · exact absurd ⟨text ++ rest, htext⟩ hcomment
  · obtain rfl : rest = r := (List.cons.inj htext).2
    rfl

/-- A text begins with nothing but its first piece. -/
theorem begins_iff : Begins (c :: r) piece rest ↔ nextPiece c r = (piece, rest) := by
  constructor
  · intro h
    generalize hs : c :: r = s at h
    cases h with
    | token lexeme longest => exact nextPiece_of_token lexeme longest hs.symm
    | blank hc =>
      obtain ⟨rfl, rfl⟩ := List.cons.inj hs
      simp [nextPiece, hc]
    | comment inside closed =>
      obtain ⟨rfl, rfl⟩ := List.cons.inj hs
      exact nextPiece_of_comment inside closed
    | unknown noToken noBlank noComment =>
      obtain ⟨rfl, rfl⟩ := List.cons.inj hs
      exact nextPiece_of_unknown noToken noBlank noComment
  · intro h
    have hbegins := begins_nextPiece c r
    rwa [h] at hbegins

end GoldenTree.Grammar
