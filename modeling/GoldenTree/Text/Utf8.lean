/-! Bytes read as text. Strict reading refuses bytes that are not UTF-8; lenient reading puts the
replacement character for each longest piece that begins no well-formed character. -/
namespace GoldenTree.Text

/-- What follows a first byte: the bounds of the second byte and how many bytes come after it. -/
structure Lead where
  low : Nat
  high : Nat
  more : Nat

/-- The lead bytes of two, three and four byte characters. -/
def lead? (b : Nat) : Option Lead :=
  if 0xC2 ≤ b && b ≤ 0xDF then some ⟨0x80, 0xBF, 0⟩
  else if b == 0xE0 then some ⟨0xA0, 0xBF, 1⟩
  else if b == 0xED then some ⟨0x80, 0x9F, 1⟩
  else if 0xE1 ≤ b && b ≤ 0xEF then some ⟨0x80, 0xBF, 1⟩
  else if b == 0xF0 then some ⟨0x90, 0xBF, 2⟩
  else if 0xF1 ≤ b && b ≤ 0xF3 then some ⟨0x80, 0xBF, 2⟩
  else if b == 0xF4 then some ⟨0x80, 0x8F, 2⟩
  else none

def isContinuation (b : Nat) : Bool := 0x80 ≤ b && b ≤ 0xBF

def replacement : Char := '\uFFFD'

/-- The lenient reading, byte by byte. -/
def decodeLossy : List UInt8 → List Char
  | [] => []
  | b₀ :: r₀ =>
    if b₀.toNat < 0x80 then Char.ofNat b₀.toNat :: decodeLossy r₀
    else match lead? b₀.toNat with
      | none => replacement :: decodeLossy r₀
      | some lead => match r₀ with
        | [] => [replacement]
        | b₁ :: r₁ =>
          if ¬(lead.low ≤ b₁.toNat ∧ b₁.toNat ≤ lead.high) then
            replacement :: decodeLossy (b₁ :: r₁)
          else
            let head₁ := b₀.toNat % 0x40 * 0x40 + b₁.toNat % 0x40
            if lead.more = 0 then Char.ofNat (head₁ % 0x800) :: decodeLossy r₁
            else match r₁ with
              | [] => [replacement]
              | b₂ :: r₂ =>
                if ¬isContinuation b₂.toNat then replacement :: decodeLossy (b₂ :: r₂)
                else
                  let head₂ := head₁ * 0x40 + b₂.toNat % 0x40
                  if lead.more = 1 then Char.ofNat (head₂ % 0x10000) :: decodeLossy r₂
                  else match r₂ with
                    | [] => [replacement]
                    | b₃ :: r₃ =>
                      if ¬isContinuation b₃.toNat then replacement :: decodeLossy (b₃ :: r₃)
                      else
                        Char.ofNat ((head₂ * 0x40 + b₃.toNat % 0x40) % 0x200000) :: decodeLossy r₃

/-- The bytes as text if they are UTF-8. -/
def ofUtf8? (bytes : ByteArray) : Option String := String.fromUTF8? bytes

/-- The bytes as text, with replacement characters for what is not UTF-8. -/
def ofUtf8Lossy (bytes : ByteArray) : String :=
  match ofUtf8? bytes with
  | some text => text
  | none => String.ofList (decodeLossy bytes.toList)

@[simp] theorem ofUtf8?_toUTF8 (s : String) : ofUtf8? s.toUTF8 = some s := by
  simp only [ofUtf8?, String.fromUTF8?, Option.dite_none_right_eq_some]
  exact ⟨s.isValidUTF8, rfl⟩

@[simp] theorem ofUtf8Lossy_toUTF8 (s : String) : ofUtf8Lossy s.toUTF8 = s := by
  simp only [ofUtf8Lossy, ofUtf8?_toUTF8]

end GoldenTree.Text
