import GoldenTree.Disk.FileSystem

/-! Walks through everything below a path, depth first, the entries of each directory in the order
of their names. -/
namespace GoldenTree.Disk

/-- An entry met on a walk: its path, which begins with the path walked, and the names that lead
to it from there. -/
structure Walked where
  path : Path
  names : List String
  entry : Entry

def Walked.isFile (w : Walked) : Bool :=
  match w.entry with
  | .file _ => true
  | .directory => false

/-- The last name of the path. -/
def Walked.fileName (w : Walked) : String := w.path.fileName?.getD w.path.text

/-- A path that cannot be walked. -/
structure WalkError where
  path : Path
  cause : IoError
  deriving Repr, DecidableEq

def WalkError.message (e : WalkError) : String :=
  String.join ["IO error for operation on ", e.path.text, ": ", e.cause.message]

namespace FileSystem

/-- Everything below a place with the names that lead there. In the order of these lists of names
a directory comes before what is in it, and that before the next entry beside it. -/
def below (fs : FileSystem) (place : Place) : List (List String × Entry) :=
  let inside := fs.entries.filterMap fun e =>
    match place.isPrefixOf? e.1 with
    | some (name :: names) => some (name :: names, e.2)
    | _ => none
  inside.mergeSort fun a b => decide (¬ b.1 < a.1)

def walk (fs : FileSystem) (root : Path) : Except WalkError (List Walked) :=
  match fs.find root with
  | .error cause => .error ⟨root, cause⟩
  | .ok (place, entry) =>
    let self : Walked := ⟨root, [], entry⟩
    match entry with
    | .file _ => .ok [self]
    | .directory => .ok (self :: (fs.below place).map fun (names, entry) =>
        ⟨names.foldl (fun p name => p.join ⟨name⟩) root, names, entry⟩)

end FileSystem

end GoldenTree.Disk
