import GoldenTree.Disk.Path
import GoldenTree.Text.Utf8

/-! A file system as one value. Places are lists of names below the working directory; nothing
exists outside it, so that an absolute path leads nowhere, and so does one that climbs out of it. An
operation takes the value and gives the new one or the error that leaves it as it was; only making
many directories can fail half-way and then gives both.

What the value leaves out is what one user at one time does not meet in a directory of their own.
There are no links, so that a place is reached by its names alone. There are no permissions, locks
or quotas: a write fails for what stands in its way and for nothing else, and a file that can be read
can be written. Whoever handles a refused write to such a file handles a case that does not arise
here. -/
namespace GoldenTree.Disk

open Text

inductive IoError where
  | notFound
  | alreadyExists
  | notDirectory
  | isDirectory
  | nameTooLong
  | nulInName
  | notUtf8
  deriving Repr, DecidableEq

def IoError.message : IoError → String
  | notFound => "No such file or directory (os error 2)"
  | alreadyExists => "File exists (os error 17)"
  | notDirectory => "Not a directory (os error 20)"
  | isDirectory => "Is a directory (os error 21)"
  | nameTooLong => "File name too long (os error 36)"
  | nulInName => "file name contained an unexpected NUL byte"
  | notUtf8 => "stream did not contain valid UTF-8"

-- Contents are compared in the same way whatever is imported.
attribute [local instance (2000)] ByteArray.instDecidableEq

inductive Entry where
  | directory
  | file (bytes : ByteArray)
  deriving DecidableEq

/-- The names that lead from the working directory to an entry. -/
abbrev Place := List String

structure FileSystem where
  entries : List (Place × Entry)
  deriving DecidableEq

namespace FileSystem

def empty : FileSystem := ⟨[]⟩

/-- The entry at a place. The working directory is always there. -/
def get? (fs : FileSystem) (place : Place) : Option Entry :=
  if place = [] then some .directory
  else (fs.entries.find? (·.1 = place)).map (·.2)

/-- Puts an entry at a place. -/
def put (fs : FileSystem) (place : Place) (entry : Entry) : FileSystem :=
  ⟨(place, entry) :: fs.entries.filter (·.1 ≠ place)⟩

/-- Removes an entry and everything below it. -/
def erase (fs : FileSystem) (place : Place) : FileSystem :=
  ⟨fs.entries.filter fun e => !place.isPrefixOf e.1⟩

@[simp] theorem get?_nil (fs : FileSystem) : fs.get? [] = some .directory := rfl

theorem get?_put_self (fs : FileSystem) {place : Place} (entry : Entry) (h : place ≠ []) :
    (fs.put place entry).get? place = some entry := by simp [get?, put, h]

theorem get?_put_ne (fs : FileSystem) {place other : Place} (entry : Entry) (h : other ≠ place) :
    (fs.put place entry).get? other = fs.get? other := by
  have aux : (fs.entries.filter (·.1 ≠ place)).find? (·.1 = other)
      = fs.entries.find? (·.1 = other) := by
    rw [List.find?_filter]
    congr 1
    funext e
    by_cases he : e.1 = other <;> simp [he, h]
  simp only [get?, put, List.find?_cons, Ne.symm h, decide_false, aux]

/-- The most bytes that a name may have. -/
def nameLimit : Nat := 255

/-- The number of bytes from which on a path is too long. -/
def pathLimit : Nat := 4096

/-- Follows one piece of a path from a place, which has to be a directory. -/
def follow (fs : FileSystem) (place : Place) (piece : List Char) : Except IoError Place :=
  match fs.get? place with
  | none => .error .notFound
  | some (.file _) => .error .notDirectory
  | some .directory =>
    if piece = [] ∨ piece = ['.'] then .ok place
    else if piece = ['.', '.'] then
      if place = [] then .error .notFound else .ok place.dropLast
    else if nameLimit < (String.ofList piece).utf8ByteSize then .error .nameTooLong
    else .ok (place ++ [String.ofList piece])

/-- Follows the pieces of a path; only the place of the last may be missing. -/
def followAll (fs : FileSystem) (p : Path) (pieces : List (List Char)) : Except IoError Place :=
  if p.chars.contains '\x00' then .error .nulInName
  else if pathLimit ≤ p.text.utf8ByteSize then .error .nameTooLong
  else if p.chars = [] ∨ p.isAbsolute then .error .notFound
  else pieces.foldlM fs.follow []

/-- The place of a path; only its last name may be missing. -/
def locate (fs : FileSystem) (p : Path) : Except IoError Place := fs.followAll p p.pieces

/-- The place and the entry of a path. -/
def find (fs : FileSystem) (p : Path) : Except IoError (Place × Entry) := do
  let place ← fs.locate p
  match fs.get? place with
  | some entry => .ok (place, entry)
  | none => .error .notFound

def pathExists (fs : FileSystem) (p : Path) : Bool := (fs.find p).isOk

def isDirectory (fs : FileSystem) (p : Path) : Bool :=
  match fs.find p with
  | .ok (_, .directory) => true
  | _ => false

def isFile (fs : FileSystem) (p : Path) : Bool :=
  match fs.find p with
  | .ok (_, .file _) => true
  | _ => false

def read (fs : FileSystem) (p : Path) : Except IoError ByteArray := do
  match ← fs.find p with
  | (_, .file bytes) => .ok bytes
  | (_, .directory) => .error .isDirectory

def readText (fs : FileSystem) (p : Path) : Except IoError String := do
  match ofUtf8? (← fs.read p) with
  | some text => .ok text
  | none => .error .notUtf8

/-- The pieces of a path without the slashes at its end. -/
def namePieces (p : Path) : List (List Char) := (p.pieces.reverse.dropWhile List.isEmpty).reverse

/-- Whether the last piece is a dot or two and so names no entry of its own. -/
def endsInDots (pieces : List (List Char)) : Bool :=
  pieces.getLast? = some ['.'] ∨ pieces.getLast? = some ['.', '.']

/-- The place of a file that is to be written. A path that ends in a slash or in dots names a
directory. -/
def target (fs : FileSystem) (p : Path) : Except IoError Place := do
  let place ← fs.followAll p (namePieces p)
  if p.pieces.getLast? = some [] ∨ endsInDots (namePieces p) ∨
      fs.get? place = some .directory then
    throw .isDirectory
  return place

/-- Writes a file anew. -/
def write (fs : FileSystem) (p : Path) (bytes : ByteArray) : Except IoError FileSystem := do
  return fs.put (← fs.target p) (.file bytes)

def writeText (fs : FileSystem) (p : Path) (text : String) : Except IoError FileSystem :=
  fs.write p text.toUTF8

/-- Makes sure that a file exists and leaves the content it has. -/
def touch (fs : FileSystem) (p : Path) : Except IoError FileSystem := do
  let place ← fs.target p
  match fs.get? place with
  | some _ => return fs
  | none => return fs.put place (.file .empty)

/-- Makes one directory; the one it is in has to be there. -/
def makeDirectory (fs : FileSystem) (p : Path) : Except IoError FileSystem := do
  let place ← fs.followAll p (namePieces p)
  if endsInDots (namePieces p) ∨ (fs.get? place).isSome then throw .alreadyExists
  return fs.put place .directory

/-- Makes sure that the directory of a path is there; if one that leads to it is missing,
`prepare` is tried once to make those. -/
def ensureDirectory (fs : FileSystem) (p : Path)
    (prepare : FileSystem → Except IoError Unit × FileSystem) :
    Except IoError Unit × FileSystem :=
  let settle := fun (fs : FileSystem) (made : Except IoError FileSystem) =>
    match made with
    | .ok fs => (.ok (), fs)
    | .error e => if e = .alreadyExists ∧ fs.isDirectory p then (.ok (), fs) else (.error e, fs)
  match fs.makeDirectory p with
  | .error .notFound =>
    match prepare fs with
    | (.ok (), fs) => settle fs (fs.makeDirectory p)
    | failed => failed
  | made => settle fs made

/-- Makes the directory of the first path, each of which leads to the one before it. -/
def makeChain : List Path → FileSystem → Except IoError Unit × FileSystem
  | [], fs => (.ok (), fs)
  | p :: parents, fs => fs.ensureDirectory p (makeChain parents)

/-- Makes a directory and all that lead to it. Those already made stay when one fails. -/
def makeDirectories (fs : FileSystem) (p : Path) : Except IoError Unit × FileSystem :=
  makeChain (p.ancestors.takeWhile fun p => p.parent?.isSome) fs

def remove (fs : FileSystem) (p : Path) : Except IoError FileSystem := do
  return fs.erase (← fs.find p).1

end FileSystem

end GoldenTree.Disk
