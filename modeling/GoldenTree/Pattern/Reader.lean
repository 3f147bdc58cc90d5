import GoldenTree.Pattern.Bracket
import GoldenTree.Text.Letter

/-! How patterns are written: literals, classes, conditions, groups with flags, alternatives and
repetitions. -/
namespace GoldenTree.Pattern

open Text

/-- How deep a pattern may be nested. -/
def nestLimit : Nat := 250

/-- A part of a pattern. -/
structure Part where
  expr : Expr
  /-- How deep the parts in it are nested. -/
  depth : Nat
  /-- Flags that a part sets for what follows leave nothing to be repeated. -/
  repeatable : Bool
  deriving Repr, DecidableEq

namespace Part

/-- A part that encloses others. -/
def enclosing? (expr : Expr) (depth : Nat) : Option Part :=
  if depth < nestLimit then some ⟨expr, depth + 1, true⟩ else none

/-- Parts side by side; several are nested one level deeper than one alone. -/
def joined? (join : List Expr → Expr) : List Part → Option Part
  | [] => some ⟨.empty, 0, true⟩
  | [p] => some p
  | ps => enclosing? (join (ps.map (·.expr))) ((ps.map (·.depth)).foldl max 0)

end Part

/-- A group that is still open, or the pattern as a whole. -/
structure Level where
  /-- The number of the group, if it has one. -/
  number? : Option Nat
  /-- The flags to go on with behind the group. -/
  outside : Flags
  /-- The finished alternatives, the last first. -/
  branches : List Part
  /-- The parts of the alternative that is being read, the last first. -/
  parts : List Part
  deriving Repr, DecidableEq

namespace Level

def new (number? : Option Nat) (outside : Flags) : Level := ⟨number?, outside, [], []⟩

def add (l : Level) (p : Part) : Level := { l with parts := p :: l.parts }

/-- Ends the alternative that is being read. -/
def branch? (l : Level) : Option Level :=
  (Part.joined? Expr.sequence l.parts.reverse).map fun p =>
    { l with branches := p :: l.branches, parts := [] }

/-- All alternatives. -/
def whole? (l : Level) : Option Part :=
  l.branch?.bind fun l => Part.joined? Expr.choice l.branches.reverse

/-- The closed group. -/
def close? (l : Level) : Option Part :=
  l.whole?.bind fun p =>
    Part.enclosing? (match l.number? with
      | some n => .group n p.expr
      | none => p.expr) p.depth

/-- Repeats the last part. -/
def repeat? (l : Level) (least : Nat) (most? : Option Nat) (lazily : Bool) : Option Level :=
  match l.parts with
  | p :: ps =>
    if p.repeatable then
      (Part.enclosing? (p.expr.times least most? lazily) p.depth).map fun p =>
        { l with parts := p :: ps }
    else none
  | [] => none

end Level

/-- What is known between two steps of reading. -/
structure Reader where
  flags : Flags
  level : Level
  /-- The groups and the pattern around the level, the inmost first. -/
  outer : List Level
  /-- How many groups have a number. -/
  groups : Nat
  names : List (List Char)
  deriving Repr, DecidableEq

/-- The result of a step. -/
abbrev Step := Reading Reader

namespace Reader

def new : Reader := ⟨.standard, .new none .standard, [], 0, []⟩

def add (r : Reader) (e : Expr) (depth : Nat) : Reader :=
  { r with level := r.level.add ⟨e, depth, true⟩ }

/-- Opens a group. -/
def enter (r : Reader) (number? : Option Nat) (inside : Flags) : Reader :=
  { r with flags := inside, level := .new number? r.flags, outer := r.level :: r.outer }

/-- Opens a group with the next number. -/
def enterNumbered (r : Reader) : Reader :=
  { r.enter (some (r.groups + 1)) r.flags with groups := r.groups + 1 }

/-- Closes the inmost group. -/
def leave? (r : Reader) : Option Reader :=
  match r.outer with
  | [] => none
  | l :: outer =>
    r.level.close?.map fun p => { r with flags := r.level.outside, level := l.add p, outer }

def isNameStart (c : Char) : Bool := isLetter c || c == '_'

def isNameChar (c : Char) : Bool :=
  isLetterOrNumber c || ['_', '.', '[', ']'].contains c

/-- The name of a group behind its opening bracket. -/
def readName (r : Reader) (s : List Char) : Step :=
  let name := s.takeWhile (· ≠ '>')
  match s.dropWhile (· ≠ '>') with
  | [] => none
  | _ :: s =>
    if name.head?.any isNameStart && name.all isNameChar && !r.names.contains name then
      some ({ r.enterNumbered with names := name :: r.names }, s)
    else none

/-- Flags, for what follows in the group or for a group of their own. -/
def readFlags (r : Reader) (s : List Char) : Step :=
  let isFlag := fun c => c ≠ ')' && c ≠ ':'
  let letters := s.takeWhile isFlag
  match s.dropWhile isFlag, r.flags.change? letters with
  | ')' :: s, some flags =>
    if letters.isEmpty then none
    else some ({ r with flags, level := r.level.add ⟨.empty, 0, false⟩ }, s)
  | ':' :: s, some flags => some (r.enter none flags, s)
  | _, _ => none

/-- A group behind its parenthesis. What looks around is no group. -/
def readOpening (r : Reader) (s : List Char) : Step :=
  match r.flags.skip s with
  | '?' :: 'P' :: '<' :: s => r.readName s
  | '?' :: '<' :: '=' :: _ => none
  | '?' :: '<' :: '!' :: _ => none
  | '?' :: '<' :: s => r.readName s
  | '?' :: s => r.readFlags s
  | s => some (r.enterNumbered, s)

/-- Whether a repetition is lazy, and what is behind the sign for that. -/
def readLazy (r : Reader) (s : List Char) : Bool × List Char :=
  match s with
  | '?' :: s => (!r.flags.lazily, s)
  | s => (r.flags.lazily, s)

/-- Repeats the last part as the sign that was read says. -/
def readRepetition (r : Reader) (least : Nat) (most? : Option Nat) (s : List Char) : Step :=
  let (lazily, s) := r.readLazy s
  (r.level.repeat? least most? lazily).map fun level => ({ r with level }, s)

-- The power of naturals is the same one whatever is imported.
attribute [local instance (2000)] instPowNat

/-- One more than the greatest number of repetitions. -/
def countBound : Nat := 2 ^ (32 : Nat)

/-- Decimal digits behind the number that those before them write; blanks and comments between
them count for nothing in a verbose pattern. -/
def readDigits (f : Flags) (comment : Bool) (n? : Option Nat) : List Char → Option Nat × List Char
  | [] => (n?, [])
  | c :: s =>
    if comment then readDigits f (c ≠ '\n') n? s
    else if f.verbose && isBlank c then readDigits f false n? s
    else if f.verbose && c == '#' then readDigits f true n? s
    else if c.isDigit then
      readDigits f false (some (10 * n?.getD 0 + (c.toNat - '0'.toNat))) s
    else (n?, c :: s)

/-- A number of repetitions, which blanks may surround. -/
def readCount (f : Flags) (s : List Char) : Reading Nat :=
  match readDigits f false none (trimStart s) with
  | (some n, s) => if n < countBound then some (n, f.skip (trimStart s)) else none
  | (none, _) => none

/-- The bounds of a counted repetition behind its opening brace. -/
def readBounds (f : Flags) (s : List Char) : Option ((Nat × Option Nat) × List Char) := do
  let (least, s) ← readCount f (f.skip s)
  match s with
  | '\x7d' :: s => return ((least, some least), f.skip s)
  | ',' :: s =>
    match f.skip s with
    | '\x7d' :: s => return ((least, none), f.skip s)
    | s =>
      match ← readCount f s with
      | (most, '\x7d' :: s) =>
        if least ≤ most then return ((least, some most), f.skip s) else none
      | _ => none
  | _ => none

/-- What a part that is neither a group nor a class in brackets means. -/
def readAtom (r : Reader) (c : Char) (s : List Char) : Step :=
  let f := r.flags
  match c with
  | '.' => f.dot?.map fun e => (r.add e 0, s)
  | '^' => some (r.add (.look f.start) 0, s)
  | '$' => some (r.add (.look f.finish) 0, s)
  | '\\' => (readEscape f s).map fun (read, s) =>
      (r.add (match read with
        | .char c => f.literal c
        | .set set => .ofSet set
        | .look l => .look l) 0, s)
  | c => some (r.add (f.literal c) 0, s)

/-- Reads on behind a character; `fuel` is more than the number of characters left. -/
def step (r : Reader) (fuel : Nat) (c : Char) (s : List Char) : Step :=
  match c with
  | '(' => r.readOpening s
  | ')' => r.leave?.map (·, s)
  | '|' => r.level.branch?.map fun level => ({ r with level }, s)
  | '[' => (readClass r.flags fuel s).bind fun (n, s) =>
      if n.depth ≤ nestLimit then some (r.add (.ofSet n.set) n.depth, s) else none
  | '?' => r.readRepetition 0 (some 1) s
  | '*' => r.readRepetition 0 none s
  | '+' => r.readRepetition 1 none s
  | '\x7b' => (readBounds r.flags s).bind fun ((least, most?), s) => r.readRepetition least most? s
  | c => r.readAtom c s

/-- Reads up to the end, where all groups have to be closed. -/
def readAll : (fuel : Nat) → Reader → List Char → Option Expr
  | 0, _, _ => none
  | fuel + 1, r, s =>
    match r.flags.skip s with
    | [] => if r.outer.isEmpty then r.level.whole?.map (·.expr) else none
    | c :: s =>
      match r.step fuel c s with
      | some (r, s) => readAll fuel r s
      | none => none

end Reader

/-- The meaning of a written pattern; nothing if it is malformed. -/
def Expr.read? (s : String) : Option Expr := Reader.new.readAll (s.length + 1) s.toList

end GoldenTree.Pattern
