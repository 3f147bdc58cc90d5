import GoldenTree.Text.CharSet

/-! UTF-8 of a range of characters, as sequences of byte ranges. Every sequence stands for the
characters whose bytes lie in its ranges one by one. -/
namespace GoldenTree.Text

/-- A closed range of bytes. -/
abbrev ByteRange := Nat × Nat

/-- The bytes of a code point. -/
def utf8Bytes (n : Nat) : List Nat :=
  if n < 0x80 then [n]
  else if n < 0x800 then [0xC0 + n / 0x40, 0x80 + n % 0x40]
  else if n < 0x10000 then [0xE0 + n / 0x1000, 0x80 + n / 0x40 % 0x40, 0x80 + n % 0x40]
  else [0xF0 + n / 0x40000, 0x80 + n / 0x1000 % 0x40, 0x80 + n / 0x40 % 0x40, 0x80 + n % 0x40]

/-- Where to cut a range whose characters end in the same number of free bytes: at the end of the
first block of `size` code points if that is not whole, else before the last one. -/
def cutBlocks? (low high size : Nat) : Option Nat :=
  if low / size = high / size then none
  else if low % size ≠ 0 then some ((low / size + 1) * size - 1)
  else if high % size ≠ size - 1 then some (high / size * size - 1)
  else none

/-- The last code point of the front part if a range has to be cut: at the surrogates, where the
number of bytes changes, and where a byte in front changes before those behind it are through. -/
def cutRange? (low high : Nat) : Option Nat :=
  let limits := [0x7F, 0x7FF, 0xFFFF]
  (limits.find? fun n => low ≤ n && n < high).or
    (if high < 0x80 then none
    else [0x40, 0x1000, 0x40000].findSome? (cutBlocks? low high))

/-- The sequences of a range without surrogates, in order; it is cut at most `fuel` times over. -/
def plainSequences : (fuel low high : Nat) → List (List ByteRange)
  | 0, _, _ => []
  | fuel + 1, low, high =>
    match cutRange? low high with
    | some n => plainSequences fuel low n ++ plainSequences fuel (n + 1) high
    | none => [(utf8Bytes low).zip (utf8Bytes high)]

/-- The sequences of a range, in order. -/
def rangeSequences (r : Nat × Nat) : List (List ByteRange) :=
  let parts := CharSet.cut r [(0xD800, 0xDFFF)]
  parts.flatMap fun p => plainSequences 32 p.1 p.2

def CharSet.sequences (s : CharSet) : List (List ByteRange) := s.ranges.flatMap rangeSequences

end GoldenTree.Text
