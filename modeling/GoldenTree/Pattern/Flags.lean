import GoldenTree.Pattern.Expr
import GoldenTree.Text.Blank
import GoldenTree.Unicode.ClassName
import GoldenTree.Unicode.Folding

/-! Flags, and what characters and classes mean under them. Without Unicode a class holds bytes.
Patterns select valid texts only, so a class of bytes may hold no byte that is not ASCII. -/
namespace GoldenTree.Pattern

open Text

/-- Settings that a group can change. -/
structure Flags where
  ignoreCase : Bool
  /-- Lines begin and end inside the text too. -/
  multiLine : Bool
  /-- A dot stands for line breaks too. -/
  dotNewline : Bool
  /-- Repetitions are lazy unless they say the opposite. -/
  lazily : Bool
  unicode : Bool
  /-- Lines may also end in a carriage return. -/
  carriageReturn : Bool
  /-- Blanks and comments in the pattern count for nothing. -/
  verbose : Bool
  deriving Repr, DecidableEq

namespace Flags

def standard : Flags := ⟨false, false, false, false, true, false, false⟩

/-- Drops blanks and comments, in one of which reading begins if `comment` says so. -/
def dropComments : (comment : Bool) → List Char → List Char
  | _, [] => []
  | true, c :: cs => dropComments (c ≠ '\n') cs
  | false, c :: cs =>
    if isBlank c then dropComments false cs
    else if c = '#' then dropComments true cs
    else c :: cs

/-- What follows where reading goes on. -/
def skip (f : Flags) (s : List Char) : List Char := if f.verbose then dropComments false s else s

/-- Adds the other case of the letters in a set. -/
def addAsciiCase (s : CharSet) : CharSet :=
  let lower := s.intersection (.span 0x61 0x7A)
  let upper := s.intersection (.span 0x41 0x5A)
  .ofRanges (s.ranges ++ lower.ranges.map (fun r => (r.1 - 0x20, r.2 - 0x20)) ++
    upper.ranges.map (fun r => (r.1 + 0x20, r.2 + 0x20)))

/-- The set as it is to be matched, where case may count for nothing. -/
def fold (f : Flags) (s : CharSet) : CharSet :=
  if !f.ignoreCase then s else if f.unicode then Unicode.foldCase s else addAsciiCase s

/-- The opposite of a set. That of a set of ASCII bytes would hold others. -/
def complement? (f : Flags) (s : CharSet) : Option CharSet :=
  if f.unicode then some s.complement else none

/-- The set of a class, which may be negated. -/
def classSet? (f : Flags) (negated : Bool) (s : CharSet) : Option CharSet :=
  if negated then f.complement? (f.fold s) else some (f.fold s)

/-- The meaning of a character that stands for itself. -/
def literal (f : Flags) (c : Char) : Expr :=
  if f.ignoreCase then .ofSet (f.fold (.single c)) else .literal [c]

/-- The meaning of a dot. -/
def dot? (f : Flags) : Option Expr :=
  let breaks : CharSet :=
    if f.dotNewline then .empty
    else if f.carriageReturn then .ofChars ['\n', '\r']
    else .ofChars ['\n']
  (f.complement? breaks).map .chars

def start (f : Flags) : Look :=
  if !f.multiLine then .textStart else if f.carriageReturn then .anyLineStart else .lineStart

def finish (f : Flags) : Look :=
  if !f.multiLine then .textEnd else if f.carriageReturn then .anyLineEnd else .lineEnd

/-- The set that a letter behind a backslash stands for; a capital letter stands for the opposite
of the small one. -/
def shortClass? (f : Flags) (c : Char) : Option CharSet :=
  let ascii (rs : List (Nat × Nat)) (s : CharSet) : CharSet := if f.unicode then s else .ofRanges rs
  let digit := ascii [(0x30, 0x39)] Unicode.decimalChars
  let blank := ascii [(0x09, 0x0D), (0x20, 0x20)] Unicode.blankChars
  let word := ascii [(0x30, 0x39), (0x41, 0x5A), (0x5F, 0x5F), (0x61, 0x7A)] Unicode.wordChars
  match c with
  | 'd' => some digit
  | 'D' => f.complement? digit
  | 's' => some blank
  | 'S' => f.complement? blank
  | 'w' => some word
  | 'W' => f.complement? word
  | _ => none

/-- The set of a Unicode class, which has a name. -/
def namedClass? (f : Flags) (negated : Bool) (s? : Option CharSet) : Option CharSet :=
  if f.unicode then s?.bind (f.classSet? negated) else none

/-- Changes the setting of one letter. -/
def set? (f : Flags) (c : Char) (on : Bool) : Option Flags :=
  match c with
  | 'i' => some { f with ignoreCase := on }
  | 'm' => some { f with multiLine := on }
  | 's' => some { f with dotNewline := on }
  | 'U' => some { f with lazily := on }
  | 'u' => some { f with unicode := on }
  | 'R' => some { f with carriageReturn := on }
  | 'x' => some { f with verbose := on }
  | _ => none

def setAll? (f : Flags) (on : Bool) : List Char → Option Flags
  | [] => some f
  | c :: cs => (f.set? c on).bind fun f => f.setAll? on cs

/-- Sets what letters say; those behind a dash are switched off. No letter may come twice, nor a
dash, and no dash may stand at the end. -/
def change? (f : Flags) (letters : List Char) : Option Flags :=
  if letters.eraseDups ≠ letters ∨ letters.getLast? = some '-' then none
  else
    let on := letters.takeWhile (· ≠ '-')
    let off := (letters.dropWhile (· ≠ '-')).drop 1
    (f.setAll? true on).bind fun f => f.setAll? false off

end Flags

end GoldenTree.Pattern
