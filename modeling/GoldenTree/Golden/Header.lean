import GoldenTree.Digest.Hex
import GoldenTree.Disk.FileSystem
import GoldenTree.Golden.Marker
import GoldenTree.Text.Affix
import GoldenTree.Text.Blank

/-! Golden headers. The first line of a golden file names the source and records its digest and an
optional marker. -/
namespace GoldenTree.Golden

open Digest Text

structure Header where
  hash : String
  marker : Option Marker
  deriving Repr, DecidableEq

namespace Header

/-- The digits of a digest. -/
def hashLength : Nat := 32

/-- The end of a header line with the given marker. -/
def markerSuffix (m : Marker) : List Char := " (".toList ++ m.name.toList ++ [')']

/-- A header line without its marker, and the marker. -/
def splitMarker (line : List Char) : List Char × Option Marker :=
  (Marker.all.findSome? fun m => (before? (markerSuffix m) line).map (·, some m)).getD (line, none)

/-- Whether a text is a digest. -/
def isHash (s : List Char) : Bool := s.length == hashLength && s.all isHexDigit

/-- Whether a name ends like a source file: some character, then `kt` or `kts`. -/
def namesSource (name : List Char) : Bool :=
  match (before? ['k', 't', 's'] name).orElse fun _ => before? ['k', 't'] name with
  | some start => !start.isEmpty && !start.contains '\n'
  | none => false

/-- Whether the part before the digest opens a header. -/
def opensHeader (s : List Char) : Bool :=
  match (before? " - ".toList s).bind (after? "File: ".toList) with
  | some name => namesSource name
  | none => false

/-- Reads a header line. Any other line is no header. -/
def parse? (line : List Char) : Option Header :=
  let (body, marker) := splitMarker line
  let cut := body.length - hashLength
  let hash := body.drop cut
  if isHash hash && opensHeader (body.take cut) then some ⟨String.ofList hash, marker⟩ else none

/-- The first line of a text, without the line break or carriage returns at its end. -/
def firstLine (s : List Char) : List Char :=
  dropEndWhile (fun c => c == '\n' || c == '\r') (s.takeWhile (· ≠ '\n'))

/-- The header of a golden text, if it has one. -/
def ofText? (s : String) : Option Header := parse? (firstLine s.toList)

/-- The header of the bytes of a golden file. Only the first line has to be UTF-8. -/
def ofBytes (bytes : ByteArray) : Except Disk.IoError (Option Header) :=
  match ofUtf8? bytes with
  | some text => .ok (ofText? text)
  | none =>
    match ofUtf8? ⟨(bytes.toList.takeWhile (· ≠ 0x0A)).toArray⟩ with
    | some line => .ok (ofText? line)
    | none => .error .notUtf8

/-- Reads the header of a golden file. -/
def read (fs : Disk.FileSystem) (golden : Disk.Path) : Except Disk.IoError (Option Header) := do
  ofBytes (← fs.read golden)

/-- Whether the header was recorded for another version of the source. -/
def isStale (h : Header) (hash : String) : Bool := h.hash != hash

/-- What stands behind the hash. A muted case is never written. -/
def markerText : Option Marker → String
  | some .mute | none => ""
  | some m => String.join [" (", m.name, ")"]

/-- The header line above a tree. -/
def render (fileName hash : String) (marker : Option Marker) : String :=
  String.join ["File: ", fileName, " - ", hash, markerText marker]

end Header

end GoldenTree.Golden
