/-! Bytes written as pairs of lower-case hexadecimal digits. -/
namespace GoldenTree.Digest

def hexDigit (n : Nat) : Char :=
  if n < 10 then Char.ofNat ('0'.toNat + n) else Char.ofNat ('a'.toNat + (n - 10))

def hexByte (b : UInt8) : List Char := [hexDigit (b.toNat / 16), hexDigit (b.toNat % 16)]

def hex (bytes : List UInt8) : String := String.ofList (bytes.flatMap hexByte)

def isHexDigit (c : Char) : Bool :=
  ('0' ≤ c && c ≤ '9') || ('a' ≤ c && c ≤ 'f')

@[simp] theorem length_hexByte (b : UInt8) : (hexByte b).length = 2 := rfl

theorem isHexDigit_hexDigit : ∀ n < 16, isHexDigit (hexDigit n) = true := by decide

theorem length_toList_hex (bytes : List UInt8) : (hex bytes).toList.length = 2 * bytes.length := by
  induction bytes with
  | nil => rfl
  | cons b bytes ih => simp [hex] at ih ⊢; omega

theorem isHexDigit_of_mem_hex {bytes : List UInt8} {c : Char} (h : c ∈ (hex bytes).toList) :
    isHexDigit c = true := by
  simp only [hex, String.toList_ofList, List.mem_flatMap, hexByte, List.mem_cons,
    List.not_mem_nil, or_false] at h
  obtain ⟨b, -, rfl | rfl⟩ := h
  · exact isHexDigit_hexDigit _ (by have := b.toNat_lt; omega)
  · exact isHexDigit_hexDigit _ (Nat.mod_lt _ (by decide))

/-- The value of one digit. -/
def hexValue? (c : Char) : Option Nat :=
  if '0' ≤ c && c ≤ '9' then some (c.toNat - '0'.toNat)
  else if 'a' ≤ c && c ≤ 'f' then some (c.toNat - 'a'.toNat + 10)
  else none

/-- Reads pairs of digits; a lone digit or any other character is refused. -/
def unhex? : List Char → Option (List UInt8)
  | [] => some []
  | [_] => none
  | c :: d :: r => do
    let high ← hexValue? c
    let low ← hexValue? d
    let rest ← unhex? r
    return UInt8.ofNat (16 * high + low) :: rest

end GoldenTree.Digest
