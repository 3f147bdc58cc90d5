import GoldenTree.Pattern.Expr
import GoldenTree.Text.Utf8Range
import Std.Data.HashMap

/-! How much room a machine over bytes takes that matches an expression, forwards or backwards.
Every state takes the same room, and more for each of its transitions or alternatives. Patterns
whose machines take too much room are refused. -/
namespace GoldenTree.Pattern

open Text

-- The power of naturals is the same one whatever is imported.
attribute [local instance (2000)] instPowNat

/-- The most bytes that a machine may take. -/
def roomLimit : Nat := 10 * 2 ^ (20 : Nat)

/-- The part of a machine laid out so far. States are numbered in order. -/
structure Layout where
  states : Nat
  bytes : Nat
  deriving Repr, DecidableEq

namespace Layout

def new : Layout := ⟨0, 0⟩

/-- Adds a state that takes some bytes more than the least. -/
def state (l : Layout) (more : Nat) : Layout := ⟨l.states + 1, l.bytes + 32 + more⟩

/-- Adds alternatives to a state that has any number of them. -/
def alternatives (l : Layout) (count : Nat) : Layout := { l with bytes := l.bytes + 4 * count }

/-- Leads the end of a part on to the next state. An open end is a state with alternatives, which
gets one more. -/
def connect (l : Layout) (isOpen : Bool) : Layout := if isOpen then l.alternatives 1 else l

/-- Adds a state with a number of transitions by byte ranges. -/
def choices (l : Layout) (count : Nat) : Layout := l.state (8 * count)

def isFull (l : Layout) : Bool := roomLimit < l.bytes

end Layout

/-- What is laid out for an expression behind other parts, and whether its end is open. -/
abbrev Placing := Layout → Bool × Layout

/-- Mixes a number into a hash. -/
def mixHash (h : UInt64) (n : Nat) : UInt64 := (h ^^^ UInt64.ofNat n) * 1099511628211

/-- The hash of no numbers. -/
def emptyHash : UInt64 := 14695981039346656037

/-- The place among `places` at which something made of numbers is remembered. -/
def hashPlace (places : Nat) (ns : List Nat) : Nat :=
  (ns.foldl mixHash emptyHash).toNat % places

/-- States that are remembered by what they were made of. What comes to the same place drives out
what was there. -/
structure Memory where
  places : Nat
  held : Std.HashMap Nat (List Nat × Nat)

namespace Memory

def new (places : Nat) : Memory := ⟨places, ∅⟩

def find? (m : Memory) (ns : List Nat) : Option Nat :=
  match m.held[hashPlace m.places ns]? with
  | some (held, state) => if held = ns then some state else none
  | none => none

def store (m : Memory) (ns : List Nat) (state : Nat) : Memory :=
  { m with held := m.held.insert (hashPlace m.places ns) (ns, state) }

end Memory

/-- Sequences in groups that begin with the same byte range, with what follows it. -/
def groupSequences (seqs : List (List ByteRange)) : List (ByteRange × List (List ByteRange)) :=
  (seqs.splitBy fun a b => a.head? == b.head?).filterMap fun group =>
    (group.head?.bind List.head?).map fun r => (r, group.map List.tail)

/-- The state for sequences that lead to the state `target`; equal states are made once as far as
they are remembered. Sequences have at most `fuel` byte ranges. -/
def placeSequences (target : Nat) : (fuel : Nat) → List (List ByteRange) → Memory × Layout →
    Nat × Memory × Layout
  | 0, _, (m, l) => (target, m, l)
  | fuel + 1, seqs, (m, l) =>
    if seqs.all List.isEmpty then (target, m, l)
    else
      let (key, m, l) := (groupSequences seqs).foldl (fun (key, m, l) (r, rests) =>
        let (next, m, l) := placeSequences target fuel rests (m, l)
        (next :: r.2 :: r.1 :: key, m, l)) ([], m, l)
      let key := key.reverse
      match m.find? key with
      | some state => (state, m, l)
      | none => (l.states, m.store key l.states, l.choices (key.length / 3))

/-- A set of characters, read forwards. -/
def placeForwards (s : CharSet) : Placing := fun l =>
  let target := l.states
  let (_, _, l) := placeSequences target 4 s.sequences (.new 10000, l.state 0)
  (false, l)

/-- One sequence read backwards, that is from its front, where the machine ends. -/
def placeBackwards (seq : List ByteRange) (target : Nat) (m : Memory) (l : Layout) :
    Memory × Layout :=
  let (_, m, l) := seq.foldl (fun (source, m, l) r =>
    match m.find? [source, r.1, r.2] with
    | some state => (state, m, l)
    | none => (l.states, m.store [source, r.1, r.2] l.states, l.state 0)) (target, m, l)
  (m, l.alternatives 1)

/-- A set of characters, read in either direction. One of ASCII characters needs a single step. -/
def placeSet (backwards : Bool) (s : CharSet) : Placing := fun l =>
  if s.isAscii then (false, (l.state 0).choices s.ranges.length)
  else if backwards then
    let target := l.states + 1
    let (_, l) := s.sequences.foldl (fun (m, l) seq => placeBackwards seq target m l)
      (Memory.new 1000, (l.state 0).state 0)
    (false, l)
  else placeForwards s l

/-- One part behind the other. -/
def placeBoth (a b : Placing) : Placing := fun l =>
  let (isOpen, l) := a l
  let (isOpen', l) := b l
  (isOpen', l.connect isOpen)

/-- A part again and again behind another with a given end; stops when there is no room left. -/
def placeMore (a : Placing) : (count : Nat) → Placing → Placing
  | 0, before => before
  | count + 1, before => fun l =>
    let (isOpen, l) := before l
    if l.isFull then (isOpen, l) else placeMore a count (placeBoth (fun l => (isOpen, l)) a) l

/-- A part a fixed number of times. -/
def placeTimes (a : Placing) : (count : Nat) → Placing
  | 0 => fun l => (false, l.state 0)
  | count + 1 => placeMore a count a

/-- A part up to a number of times behind another with a given end, each time with a way out. -/
def placeUpTo (a : Placing) : (count : Nat) → (isOpen : Bool) → Placing
  | 0, isOpen => fun l => (false, l.connect isOpen)
  | count + 1, isOpen => fun l =>
    if l.isFull then (isOpen, l)
    else
      let (isOpen', l) := a (l.state 0)
      placeUpTo a count isOpen' ((l.connect isOpen).alternatives 2)

/-- A repeated part. `hungry` says that it takes at least a character each time. -/
def placeRepeated (a : Placing) (hungry : Bool) (least : Nat) (most? : Option Nat) : Placing :=
  match least, most? with
  | 0, some 1 => fun l =>
    let (isOpen, l) := a (l.state 0)
    (false, ((l.state 0).alternatives 2).connect isOpen)
  | 0, none => fun l =>
    if hungry then
      let (isOpen, l) := a (l.state 0)
      (true, (l.alternatives 1).connect isOpen)
    else
      let (isOpen, l) := a l
      (false, ((((l.state 0).state 0).state 0).alternatives 4).connect isOpen)
  | 1, none => fun l =>
    let (isOpen, l) := a l
    (true, ((l.state 0).alternatives 1).connect isOpen)
  | least, none => fun l =>
    let (isOpen, l) := placeBoth (placeTimes a (least - 1)) a l
    (true, ((l.state 0).alternatives 1).connect isOpen)
  | least, some most => fun l =>
    if least = most then placeTimes a least l
    else
      let (isOpen, l) := placeTimes a least l
      placeUpTo a (most - least) isOpen (l.state 0)

/-- One branch of a choice behind the state where it begins. -/
def placeBranch (a : Placing) (l : Layout) : Layout :=
  let (isOpen, l) := a l
  (l.alternatives 1).connect isOpen

/-- A choice between branches. -/
def placeChoice : List Placing → Placing
  | [] => fun l => (false, l)
  | [a] => a
  | a :: b :: rest => fun l =>
    let l := ((placeBranch b (placeBranch a l)).state 0).state 0
    (false, rest.foldl (fun l a => placeBranch a l) l)

/-- Byte strings between which empty ones stand, without the latter. -/
def splitAtEmpty : List (List Nat) → List (List (List Nat))
  | [] => [[]]
  | [] :: strings => [] :: splitAtEmpty strings
  | s :: strings =>
    match splitAtEmpty strings with
    | first :: rest => (s :: first) :: rest
    | [] => [[s]]

/-- A choice among byte strings of at most `fuel` bytes, letter by letter. Of strings that begin
alike those before the end of another come first, so there is a state for every run of them. -/
def placeStrings : (fuel : Nat) → List (List Nat) → Layout → Layout
  | 0, _, l => l
  | fuel + 1, strings, l =>
    if strings.all List.isEmpty then l
    else
      let front := strings.takeWhile List.isEmpty
      let runs := splitAtEmpty (front.take 1 ++ strings.dropWhile List.isEmpty)
      let l := runs.foldl (fun l run =>
        let heads := (run.filterMap List.head?).eraseDups
        let l := heads.foldl (fun l c =>
          placeStrings fuel (run.filterMap fun s => if s.head? = some c then s.tail? else none) l) l
        match heads.length with
        | 0 => l
        | 1 => (l.state 0).alternatives 1
        | n => (l.choices n).alternatives 1) l
      (l.state 0).alternatives (runs.length - 1)

/-- A branch of a choice, and its bytes if it is a literal. -/
structure Branch where
  bytes? : Option (List Nat)
  placing : Placing

/-- All branches together. Literals share what they begin with. -/
def placeBranches (backwards : Bool) (branches : List Branch) : Placing :=
  match branches with
  | [b] => b.placing
  | branches =>
    match branches.mapM (·.bytes?) with
    | some strings => fun l =>
      let strings := if backwards then strings.map List.reverse else strings
      (false, placeStrings ((strings.map List.length).foldl max 0 + 1) strings (l.state 0))
    | none => placeChoice (branches.map (·.placing))

def literalBytes (cs : List Char) : List Nat := cs.flatMap fun c => utf8Bytes c.toNat

/-- The characters of a literal. -/
def Expr.literal? : Expr → Option (List Char)
  | literal cs => some cs
  | _ => none

/-- A choice has its branches, and any other expression is one branch. -/
def Expr.placings (backwards : Bool) : Expr → List Branch
  | empty => [⟨none, fun l => (false, l.state 0)⟩]
  | literal cs =>
    [⟨some (literalBytes cs), fun l => (false, (literalBytes cs).foldl (fun l _ => l.state 0) l)⟩]
  | chars set => [⟨none, placeSet backwards set⟩]
  | look _ => [⟨none, fun l => (false, l.state 0)⟩]
  | repeated e least most? _ =>
    let a := placeBranches backwards (e.placings backwards)
    [⟨none, placeRepeated a (e.minLength?.any (0 < ·)) least most?⟩]
  | group _ e =>
    let a := placeBranches backwards (e.placings backwards)
    [⟨none, if backwards then a else fun l =>
      let (isOpen, l) := a (l.state 0)
      (false, (l.state 0).connect isOpen)⟩]
  | both a b =>
    let a := placeBranches backwards (a.placings backwards)
    let b := placeBranches backwards (b.placings backwards)
    [⟨none, if backwards then placeBoth b a else placeBoth a b⟩]
  | either a b =>
    ⟨a.literal?.map literalBytes, placeBranches backwards (a.placings backwards)⟩ ::
      b.placings backwards

/-- The whole machine: a part that passes over what comes before a match unless matches begin where
the text does, the expression, and the state for success. -/
def Expr.layout (backwards : Bool) (e : Expr) : Layout :=
  let anchored := if backwards then e.endsText else e.startsText
  let front : Placing := if anchored then fun l => (false, l.state 0)
    else placeRepeated (fun l => (false, (l.state 0).choices 1)) true 0 none
  let whole := Expr.group 0 e
  let (isOpen, l) := front .new
  let (isOpen', l) := placeBranches backwards (whole.placings backwards) l
  ((l.state 0).connect isOpen').connect isOpen

/-- Whether machines for both directions find room. -/
def Expr.fits (e : Expr) : Bool := !(e.layout false).isFull && !(e.layout true).isFull

end GoldenTree.Pattern
