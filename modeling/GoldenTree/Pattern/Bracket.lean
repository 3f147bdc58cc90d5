import GoldenTree.Pattern.Escape

/-! Classes in brackets: characters, ranges and classes side by side, joined by set operations,
which all bind alike and to the left. -/
namespace GoldenTree.Pattern

open Text

inductive SetOperation where
  | intersection
  | difference
  | symmetricDifference
  deriving Repr, DecidableEq

def SetOperation.apply (op : SetOperation) (a b : CharSet) : CharSet :=
  match op with
  | intersection => a.intersection b
  | difference => a.difference b
  | symmetricDifference => a.symmetricDifference b

/-- A class and how deep the brackets and operations in it are nested. -/
structure Nested where
  set : CharSet
  depth : Nat
  deriving Repr, DecidableEq

/-- Members of a class that stand side by side. -/
structure Members where
  ranges : List (Nat × Nat)
  count : Nat
  depth : Nat
  deriving Repr, DecidableEq

namespace Members

def none : Members := ⟨[], 0, 0⟩

def add (m : Members) (s : CharSet) (depth : Nat) : Members :=
  ⟨s.ranges ++ m.ranges, m.count + 1, max m.depth depth⟩

/-- All members as one class. Several of them are nested one level deeper than one alone. -/
def nested (m : Members) : Nested :=
  ⟨.ofRanges m.ranges, if m.count ≤ 1 then m.depth else m.depth + 1⟩

end Members

/-- A bracket that is still open: whether it is negated, the operation that waits for its right
side, and the members read since. -/
structure Bracket where
  negated : Bool
  left? : Option (Nested × SetOperation)
  members : Members
  deriving Repr, DecidableEq

namespace Bracket

def add (b : Bracket) (s : CharSet) (depth : Nat) : Bracket :=
  { b with members := b.members.add s depth }

/-- The class read so far, with the waiting operation applied. -/
def nested (f : Flags) (b : Bracket) : Nested :=
  let right := b.members.nested
  match b.left? with
  | none => right
  | some (left, op) =>
    ⟨op.apply (f.fold left.set) (f.fold right.set), max left.depth right.depth + 1⟩

/-- Lets an operation wait for its right side. -/
def operate (f : Flags) (b : Bracket) (op : SetOperation) : Bracket :=
  { b with left? := some (b.nested f, op), members := .none }

/-- The class of the closed bracket. -/
def close? (f : Flags) (b : Bracket) : Option Nested :=
  let inner := b.nested f
  (f.classSet? b.negated inner.set).map fun set => ⟨set, inner.depth + 1⟩

end Bracket

/-- Dashes at the front of a class, which stand for themselves. -/
def readDashes (f : Flags) (b : Bracket) : (fuel : Nat) → List Char → Bracket × List Char
  | 0, s => (b, s)
  | fuel + 1, s =>
    match s with
    | '-' :: r => readDashes f (b.add (.single '-') 0) fuel (f.skip r)
    | s => (b, s)

/-- The front of a class behind its opening bracket. A closing bracket that comes first stands for
itself. -/
def openBracket (f : Flags) (fuel : Nat) (s : List Char) : Bracket × List Char :=
  let s := f.skip s
  let (negated, s) := match s with
    | '^' :: r => (true, f.skip r)
    | s => (false, s)
  let (b, s) := readDashes f ⟨negated, none, .none⟩ fuel s
  match s with
  | ']' :: r => if b.members.count = 0 then (b.add (.single ']') 0, r) else (b, s)
  | s => (b, s)

/-- The named classes of ASCII characters. -/
def asciiClasses : List (String × List (Nat × Nat)) :=
  [("alnum", [(0x30, 0x39), (0x41, 0x5A), (0x61, 0x7A)]),
   ("alpha", [(0x41, 0x5A), (0x61, 0x7A)]),
   ("ascii", [(0x00, 0x7F)]),
   ("blank", [(0x09, 0x09), (0x20, 0x20)]),
   ("cntrl", [(0x00, 0x1F), (0x7F, 0x7F)]),
   ("digit", [(0x30, 0x39)]),
   ("graph", [(0x21, 0x7E)]),
   ("lower", [(0x61, 0x7A)]),
   ("print", [(0x20, 0x7E)]),
   ("punct", [(0x21, 0x2F), (0x3A, 0x40), (0x5B, 0x60), (0x7B, 0x7E)]),
   ("space", [(0x09, 0x0D), (0x20, 0x20)]),
   ("upper", [(0x41, 0x5A)]),
   ("word", [(0x30, 0x39), (0x41, 0x5A), (0x5F, 0x5F), (0x61, 0x7A)]),
   ("xdigit", [(0x30, 0x39), (0x41, 0x46), (0x61, 0x66)])]

/-- A named class behind its opening bracket, if there is one, and whether it is negated. -/
def asciiClass? (s : List Char) : Option ((Bool × CharSet) × List Char) :=
  match s with
  | ':' :: r =>
    let (negated, r) := match r with
      | '^' :: r => (true, r)
      | r => (false, r)
    let name := String.ofList (r.takeWhile (· ≠ ':'))
    match r.dropWhile (· ≠ ':'), asciiClasses.lookup name with
    | ':' :: ']' :: r, some ranges => some ((negated, ⟨ranges⟩), r)
    | _, _ => none
  | _ => none

/-- The character behind a dash, which tells whether the dash makes a range. In a verbose pattern
blanks are looked over, and the sign that begins a comment, but not the comment. -/
def peekBehind (f : Flags) (s : List Char) : Option Char :=
  if f.verbose then
    let shown := match s.dropWhile isBlank with
      | '#' :: r => r.dropWhile isBlank
      | r => r
    shown.head?.or s.head?
  else s.head?

/-- A character or a class, the members that a range or a bracket consists of. -/
def readMember (f : Flags) (s : List Char) : Reading Escape :=
  match s with
  | [] => none
  | '\\' :: s =>
    match readEscape f s with
    | some (.look _, _) => none
    | some (.char c, s) => if f.unicode || c.toNat < 0x80 then some (.char c, s) else none
    | read => read
  | c :: s => if f.unicode || c.toNat < 0x80 then some (.char c, s) else none

/-- A member or a range of characters. -/
def readRange (f : Flags) (s : List Char) : Option (CharSet × List Char) := do
  let (low, s) ← readMember f s
  match low, f.skip s with
  | low, '-' :: r =>
    if [some ']', some '-'].contains (peekBehind f r) then
      match low with
      | .char c => return (.single c, '-' :: r)
      | .set set => return (set, '-' :: r)
      | .look _ => none
    else
      match low, ← readMember f (f.skip r) with
      | .char low, (.char high, s) =>
        if low ≤ high then return (.span low.toNat high.toNat, s) else none
      | _, _ => none
  | .char c, s => return (.single c, s)
  | .set set, s => return (set, s)
  | .look _, _ => none

/-- Reads on in an open bracket up to its end; `outer` are the brackets that it is in, the inmost
first. -/
def readBracket (f : Flags) : (fuel : Nat) → Bracket → (outer : List Bracket) → List Char →
    Reading Nested
  | 0, _, _, _ => none
  | fuel + 1, b, outer, s =>
    match f.skip s with
    | [] => none
    | '[' :: r =>
      match asciiClass? r with
      | some ((negated, set), r) =>
        match f.classSet? negated set with
        | some set => readBracket f fuel (b.add set 0) outer r
        | none => none
      | none =>
        let (inner, r) := openBracket f fuel r
        readBracket f fuel inner (b :: outer) r
    | ']' :: r =>
      match b.close? f, outer with
      | none, _ => none
      | some nested, [] => some (nested, r)
      | some nested, b :: outer => readBracket f fuel (b.add nested.set nested.depth) outer r
    | '&' :: '&' :: r => readBracket f fuel (b.operate f .intersection) outer r
    | '-' :: '-' :: r => readBracket f fuel (b.operate f .difference) outer r
    | '~' :: '~' :: r => readBracket f fuel (b.operate f .symmetricDifference) outer r
    | s =>
      match readRange f s with
      | some (set, r) => readBracket f fuel (b.add set 0) outer r
      | none => none

/-- A class behind its opening bracket; `fuel` is more than the number of characters left. -/
def readClass (f : Flags) (fuel : Nat) (s : List Char) : Reading Nested :=
  let (b, r) := openBracket f fuel s
  readBracket f fuel b [] r

end GoldenTree.Pattern
