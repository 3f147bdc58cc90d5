import GoldenTree.Unicode.Property

/-! Conditions on a place in a text, which depend on the characters before and behind it. -/
namespace GoldenTree

open Text

namespace Pattern

/-- The characters on both sides of a place; at an end of the text there is none. -/
structure Place where
  before? : Option Char
  behind? : Option Char
  deriving Repr, DecidableEq

inductive Look where
  | textStart
  | textEnd
  | lineStart
  | lineEnd
  /-- Lines may also end in a carriage return, alone or before a line feed. -/
  | anyLineStart
  | anyLineEnd
  | wordBoundary (ascii : Bool)
  | noWordBoundary (ascii : Bool)
  | wordStart (ascii : Bool)
  | wordEnd (ascii : Bool)
  /-- No word goes on to this place. -/
  | noWordBefore (ascii : Bool)
  /-- No word goes on from this place. -/
  | noWordBehind (ascii : Bool)
  deriving Repr, DecidableEq

def wordTable : Array (Nat × Nat) := Unicode.wordChars.table

/-- Whether words consist of the character. -/
def isWordChar (ascii : Bool) (c : Char) : Bool :=
  if ascii then c.isAlphanum || c == '_' else searchRanges wordTable c.toNat

def Look.holds (p : Place) : Look → Bool
  | textStart => p.before?.isNone
  | textEnd => p.behind?.isNone
  | lineStart => p.before?.isNone || p.before? == some '\n'
  | lineEnd => p.behind?.isNone || p.behind? == some '\n'
  | anyLineStart =>
    p.before?.isNone || p.before? == some '\n' ||
      p.before? == some '\r' && p.behind? != some '\n'
  | anyLineEnd =>
    p.behind?.isNone || p.behind? == some '\r' ||
      p.behind? == some '\n' && p.before? != some '\r'
  | wordBoundary ascii => p.before?.any (isWordChar ascii) != p.behind?.any (isWordChar ascii)
  | noWordBoundary ascii => p.before?.any (isWordChar ascii) == p.behind?.any (isWordChar ascii)
  | wordStart ascii => !p.before?.any (isWordChar ascii) && p.behind?.any (isWordChar ascii)
  | wordEnd ascii => p.before?.any (isWordChar ascii) && !p.behind?.any (isWordChar ascii)
  | noWordBefore ascii => !p.before?.any (isWordChar ascii)
  | noWordBehind ascii => !p.behind?.any (isWordChar ascii)

end Pattern

end GoldenTree
