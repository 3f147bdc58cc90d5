import GoldenTree.Text.Lines

/-! Paths with the slash as separator. The text of a path is kept as it was written; what it
names is read off its components. -/
namespace GoldenTree.Disk

open Text

structure Path where
  text : String
  deriving Repr, DecidableEq

/-- A part of a path. Only a leading `.` counts as a part. -/
inductive Component where
  | root
  | here
  | up
  | name (name : String)
  deriving Repr, DecidableEq

def Component.text : Component → String
  | root => "/"
  | here => "."
  | up => ".."
  | name n => n

namespace Path

def chars (p : Path) : List Char := p.text.toList

def isAbsolute (p : Path) : Bool := p.chars.head? = some '/'

/-- What stands between the slashes. -/
def pieces (p : Path) : List (List Char) := splitAt '/' p.chars

/-- The component of one piece; empty pieces and dots are none. -/
def component? (piece : List Char) : Option Component :=
  if piece = [] ∨ piece = ['.'] then none
  else if piece = ['.', '.'] then some .up
  else some (.name (String.ofList piece))

def components (p : Path) : List Component :=
  let first : List Component :=
    if p.isAbsolute then [.root] else if p.pieces.head? = some ['.'] then [.here] else []
  first ++ p.pieces.filterMap component?

/-- The last component, if it is a name. -/
def fileName? (p : Path) : Option String :=
  match p.components.getLast? with
  | some (.name n) => some n
  | _ => none

/-- What stands before the last dot and what stands behind it; a dot at the very beginning does
not count. -/
def splitName (name : List Char) : List Char × Option (List Char) :=
  let behind := name.reverse.takeWhile (· ≠ '.')
  let before := name.take (name.length - behind.length - 1)
  if behind.length = name.length ∨ before = [] then (name, none) else (before, some behind.reverse)

/-- The file name up to its last dot. -/
def stem? (p : Path) : Option String :=
  p.fileName?.map fun n => String.ofList (splitName n.toList).1

/-- The file name behind its last dot. -/
def extension? (p : Path) : Option String :=
  p.fileName?.bind fun n => (splitName n.toList).2.map String.ofList

/-- Drops what is no component from the end. -/
def trimPieces (pieces : List (List Char)) : List (List Char) :=
  (pieces.reverse.dropWhile fun piece => piece.isEmpty || piece == ['.']).reverse

/-- The path without its last component, as it was written. The root and the empty path have no
parent. -/
def parent? (p : Path) : Option Path :=
  let parent := fun (start body : List Char) =>
    let kept := trimPieces (trimPieces (splitAt '/' body)).dropLast
    some ⟨String.ofList (start ++ join ['/'] kept)⟩
  match p.components.getLast? with
  | none | some .root => none
  | some _ =>
    match p.chars with
    | '/' :: body => parent ['/'] body
    | ['.'] => some ⟨""⟩
    | '.' :: '/' :: body => parent ['.'] ('/' :: body)
    | body => parent [] body

/-- The path, its parent, the parent of that and so on, as many as `fuel` allows. -/
def climb : (fuel : Nat) → Path → List Path
  | 0, _ => []
  | fuel + 1, p => p :: (p.parent?.map (climb fuel)).getD []

/-- The path and all that lead to it, the longest first. Every step takes a character away. -/
def ancestors (p : Path) : List Path := climb (p.chars.length + 1) p

/-- Goes on from `p` along `q`; an absolute `q` starts anew. -/
def join (p q : Path) : Path :=
  if q.isAbsolute then q
  else if p.chars = [] ∨ p.chars.getLast? = some '/' then ⟨p.text ++ q.text⟩
  else ⟨p.text ++ "/" ++ q.text⟩

/-- The path with another file name. -/
def withFileName (p : Path) (name : String) : Path :=
  match p.fileName?, p.parent? with
  | some _, some parent => parent.join ⟨name⟩
  | _, _ => p.join ⟨name⟩

/-- Joins the parts one after the other, beginning with nothing. -/
def ofParts (parts : List String) : Path := parts.foldl (fun p part => p.join ⟨part⟩) ⟨""⟩

/-- The path with a suffix at the end of its text. -/
def addSuffix (p : Path) (suffix : String) : Path := ⟨p.text ++ suffix⟩

end Path

end GoldenTree.Disk
