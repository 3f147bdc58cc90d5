import GoldenTree.Digest.Hex
import GoldenTree.Pattern.Flags

/-! What stands behind a backslash in a pattern: a character, a class or a condition. -/
namespace GoldenTree.Pattern

open Text

inductive Escape where
  | char (c : Char)
  | set (s : CharSet)
  | look (l : Look)
  deriving Repr, DecidableEq

/-- What was read and what is left to read; nothing if the pattern is malformed. -/
abbrev Reading (α : Type) := Option (α × List Char)

/-- The value of a hexadecimal digit of either case. -/
def hexDigit? (c : Char) : Option Nat := Digest.hexValue? c.toLower

/-- Up to `count` hexadecimal digits and their value behind that of those before. -/
def readHexDigits (f : Flags) : (count value : Nat) → List Char → Reading Nat
  | 0, value, s => some (value, s)
  | count + 1, value, s =>
    match f.skip s with
    | [] => none
    | c :: s => (hexDigit? c).bind fun d => readHexDigits f count (16 * value + d) s

/-- What stands before a closing brace, without blanks and comments that count for nothing. -/
def readBraced (f : Flags) (comment : Bool) : List Char → Reading (List Char)
  | [] => none
  | c :: s =>
    if comment then readBraced f (c ≠ '\n') s
    else if f.verbose && isBlank c then readBraced f false s
    else if f.verbose && c == '#' then readBraced f true s
    else if c = '\x7d' then some ([], s)
    else (readBraced f false s).map fun (cs, s) => (c :: cs, s)

/-- The number that hexadecimal digits write. -/
def hexNumber? (digits : List Char) : Option Nat :=
  if digits.isEmpty then none else digits.foldlM (fun n c => (hexDigit? c).map (16 * n + ·)) 0

/-- The character with a code point. -/
def charAt? (n : Nat) : Option Char :=
  if n < 0xD800 ∨ (0xDFFF < n ∧ n < 0x110000) then some (Char.ofNat n) else none

/-- A code point of `width` digits, or of any number of digits in braces. Two digits alone can also
write a byte. -/
def readCodePoint (f : Flags) (width : Nat) (s : List Char) : Option (Escape × List Char) :=
  match f.skip s with
  | '\x7b' :: s => do
    let (digits, s) ← readBraced f false s
    return (.char (← (hexNumber? digits).bind charAt?), s)
  | s => do
    let (n, s) ← readHexDigits f width 0 s
    if width = 2 ∧ 0x7F < n ∧ !f.unicode then none
    return (.char (← charAt? n), s)

/-- Splits a text where a part of it begins first, and drops that part. -/
def splitFirst? (part : List Char) : List Char → Option (List Char × List Char)
  | [] => none
  | c :: cs =>
    if part.isPrefixOf (c :: cs) then some ([], (c :: cs).drop part.length)
    else (splitFirst? part cs).map fun (before, behind) => (c :: before, behind)

/-- The class that is described in the braces, negated or not. -/
def describedClass? (f : Flags) (negated : Bool) (description : List Char) : Option CharSet :=
  match splitFirst? ['!', '='] description with
  | some (property, value) => f.namedClass? (!negated) (Unicode.classOfValue? property value)
  | none =>
    match (splitFirst? [':'] description).or (splitFirst? ['='] description) with
    | some (property, value) => f.namedClass? negated (Unicode.classOfValue? property value)
    | none => f.namedClass? negated (Unicode.classOfName? description)

/-- A Unicode class: a letter, or a description in braces. -/
def readClassName (f : Flags) (negated : Bool) (s : List Char) : Option (Escape × List Char) :=
  match f.skip s with
  | [] => none
  | '\x7b' :: s => do
    let (description, s) ← readBraced f false s
    return (.set (← describedClass? f negated description), s)
  | c :: s => (f.namedClass? negated (Unicode.classOfName? [c])).map fun set => (.set set, s)

/-- Whether the name of a word condition may hold the character. -/
def isConditionChar (c : Char) : Bool := c.isAlpha || c == '-'

/-- A word condition. Braces can name a special one; braces with anything but a name are left to be
read as a count. -/
def readWordBoundary (f : Flags) (s : List Char) : Option (Escape × List Char) :=
  let ascii := !f.unicode
  match s with
  | '\x7b' :: r =>
    match f.skip r with
    | [] => none
    | c :: _ =>
      if isConditionChar c then do
        let (name, s) ← readBraced f false r
        match String.ofList name with
        | "start" => some (.look (.wordStart ascii), s)
        | "end" => some (.look (.wordEnd ascii), s)
        | "start-half" => some (.look (.noWordBefore ascii), s)
        | "end-half" => some (.look (.noWordBehind ascii), s)
        | _ => none
      else some (.look (.wordBoundary ascii), s)
  | s => some (.look (.wordBoundary ascii), s)

/-- Characters that a backslash turns into themselves. -/
def isEscapable (c : Char) : Bool :=
  c.toNat < 0x80 && !c.isAlphanum && c != '<' && c != '>'

/-- Reads on behind a backslash. -/
def readEscape (f : Flags) (s : List Char) : Reading Escape :=
  match s with
  | [] => none
  | c :: r =>
    match c with
    | 'x' => readCodePoint f 2 r
    | 'u' => readCodePoint f 4 r
    | 'U' => readCodePoint f 8 r
    | 'p' => readClassName f false r
    | 'P' => readClassName f true r
    | 'a' => some (.char '\x07', r)
    | 'f' => some (.char '\x0C', r)
    | 't' => some (.char '\t', r)
    | 'n' => some (.char '\n', r)
    | 'r' => some (.char '\r', r)
    | 'v' => some (.char '\x0B', r)
    | 'A' => some (.look .textStart, r)
    | 'z' => some (.look .textEnd, r)
    | 'b' => readWordBoundary f r
    | 'B' => some (.look (.noWordBoundary !f.unicode), r)
    | '<' => some (.look (.wordStart !f.unicode), r)
    | '>' => some (.look (.wordEnd !f.unicode), r)
    | c =>
      if isEscapable c then some (.char c, r) else (f.shortClass? c).map fun set => (.set set, r)

end GoldenTree.Pattern
