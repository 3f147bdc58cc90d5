import GoldenTree.Text.CharSet

/-! Tables of character sets. A set is written in letters: two numbers for every range, the
distance from the last character before and the length less one. A number has digits to the base
26, of which only the last is a capital letter. -/
namespace GoldenTree.Unicode

open Text

/-- The numbers written in some letters, of which `n` is begun. -/
def unpackNumbers (n : Nat) : List Char → List Nat
  | [] => []
  | c :: cs =>
    if 'a' ≤ c then unpackNumbers (26 * n + (c.toNat - 'a'.toNat)) cs
    else (26 * n + (c.toNat - 'A'.toNat)) :: unpackNumbers 0 cs

/-- The ranges that distances and lengths give behind a character. -/
def unpackRanges (last : Nat) : List Nat → List (Nat × Nat)
  | distance :: length :: ns =>
    (last + distance, last + distance + length) :: unpackRanges (last + distance + length) ns
  | _ => []

def unpack (s : String) : CharSet := ⟨unpackRanges 0 (unpackNumbers 0 s.toList)⟩

/-- A set of characters and the names that it goes by. -/
structure NamedSet where
  /-- In simple form: small letters without blanks, dashes and underscores. -/
  names : List String
  packed : String
  deriving Repr, DecidableEq

def NamedSet.chars (n : NamedSet) : CharSet := unpack n.packed

def findNamed (sets : List NamedSet) (name : String) : Option CharSet :=
  (sets.find? (·.names.contains name)).map (·.chars)

end GoldenTree.Unicode
