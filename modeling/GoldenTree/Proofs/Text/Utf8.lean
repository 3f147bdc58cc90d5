import GoldenTree.Text.Utf8
import Mathlib.Tactic.Common
import Mathlib.Tactic.IntervalCases

/-! Bytes that are UTF-8: those of the text that they are read as. No text has a byte from 0xF8
on. Read leniently, bytes of characters are these characters, whatever comes behind them. -/
namespace GoldenTree.Text

variable {bytes : ByteArray} {b : UInt8} {c : Char}

theorem toUTF8_of_ofUtf8? {text : String} (h : ofUtf8? bytes = some text) :
    text.toUTF8 = bytes := by
  simp only [ofUtf8?, String.fromUTF8?, Option.dite_none_right_eq_some] at h
  obtain ⟨hvalid, htext⟩ := h
  rw [← Option.some.inj htext]
  rfl

theorem toNat_lt_of_mem_utf8EncodeChar (h : b ∈ String.utf8EncodeChar c) : b.toNat < 0xF8 := by
  have hsmall : ∀ n : Nat, n < 0xF8 → (UInt8.ofNat n).toNat < 0xF8 := by
    intro n hn
    rw [UInt8.toNat_ofNat']
    omega
  unfold String.utf8EncodeChar at h
  dsimp only at h
  split at h
  · obtain rfl := List.mem_singleton.mp h
    exact hsmall _ (by omega)
  · split at h
    · simp only [List.mem_cons, List.not_mem_nil, or_false] at h
      rcases h with rfl | rfl <;> exact hsmall _ (by omega)
    · split at h
      · simp only [List.mem_cons, List.not_mem_nil, or_false] at h
        rcases h with rfl | rfl | rfl <;> exact hsmall _ (by omega)
      · simp only [List.mem_cons, List.not_mem_nil, or_false] at h
        rcases h with rfl | rfl | rfl | rfl <;> exact hsmall _ (by omega)

theorem ofUtf8?_eq_none (hb : b ∈ bytes.data.toList) (h : 0xF8 ≤ b.toNat) :
    ofUtf8? bytes = none := by
  refine Option.eq_none_iff_forall_ne_some.mpr fun text htext => ?_
  obtain rfl := toUTF8_of_ofUtf8? htext
  rw [String.toUTF8_eq_toByteArray, ← String.ofList_toList (s := text), String.toByteArray_ofList,
    List.utf8Encode, List.toList_data_toByteArray] at hb
  obtain ⟨c, -, hc⟩ := List.mem_flatMap.mp hb
  have hlt := toNat_lt_of_mem_utf8EncodeChar hc
  omega

/-! Reading a character back from its bytes. -/

theorem lead?_two {n : Nat} (hlow : 0xC2 ≤ n) (hhigh : n ≤ 0xDF) :
    lead? n = some ⟨0x80, 0xBF, 0⟩ := by
  simp [lead?, hlow, hhigh]

theorem lead?_three {n : Nat} (hlow : 0xE0 ≤ n) (hhigh : n ≤ 0xEF) :
    lead? n = some ⟨if n = 0xE0 then 0xA0 else 0x80, if n = 0xED then 0x9F else 0xBF, 1⟩ := by
  interval_cases n <;> rfl

theorem lead?_four {n : Nat} (hlow : 0xF0 ≤ n) (hhigh : n ≤ 0xF4) :
    lead? n = some ⟨if n = 0xF0 then 0x90 else 0x80, if n = 0xF4 then 0x8F else 0xBF, 2⟩ := by
  interval_cases n <;> rfl

section Bytes

variable {b₀ b₁ b₂ b₃ : UInt8} {lead : Lead} (rest : List UInt8)

theorem decodeLossy_two (hlarge : 0x80 ≤ b₀.toNat) (h₀ : lead? b₀.toNat = some lead)
    (hmore : lead.more = 0) (h₁ : lead.low ≤ b₁.toNat ∧ b₁.toNat ≤ lead.high) :
    decodeLossy (b₀ :: b₁ :: rest) =
      Char.ofNat ((b₀.toNat % 0x40 * 0x40 + b₁.toNat % 0x40) % 0x800) :: decodeLossy rest := by
  rw [decodeLossy, if_neg (Nat.not_lt.mpr hlarge), h₀]
  simp [h₁, hmore]

theorem decodeLossy_three (hlarge : 0x80 ≤ b₀.toNat) (h₀ : lead? b₀.toNat = some lead)
    (hmore : lead.more = 1) (h₁ : lead.low ≤ b₁.toNat ∧ b₁.toNat ≤ lead.high)
    (h₂ : isContinuation b₂.toNat) :
    decodeLossy (b₀ :: b₁ :: b₂ :: rest) =
      Char.ofNat (((b₀.toNat % 0x40 * 0x40 + b₁.toNat % 0x40) * 0x40 + b₂.toNat % 0x40) % 0x10000)
        :: decodeLossy rest := by
  rw [decodeLossy, if_neg (Nat.not_lt.mpr hlarge), h₀]
  simp [h₁, hmore, h₂]

theorem decodeLossy_four (hlarge : 0x80 ≤ b₀.toNat) (h₀ : lead? b₀.toNat = some lead)
    (hmore : lead.more = 2) (h₁ : lead.low ≤ b₁.toNat ∧ b₁.toNat ≤ lead.high)
    (h₂ : isContinuation b₂.toNat) (h₃ : isContinuation b₃.toNat) :
    decodeLossy (b₀ :: b₁ :: b₂ :: b₃ :: rest) =
      Char.ofNat ((((b₀.toNat % 0x40 * 0x40 + b₁.toNat % 0x40) * 0x40 + b₂.toNat % 0x40) * 0x40 +
        b₃.toNat % 0x40) % 0x200000) :: decodeLossy rest := by
  rw [decodeLossy, if_neg (Nat.not_lt.mpr hlarge), h₀]
  simp [h₁, hmore, h₂, h₃]

end Bytes

theorem toNat_ofNat_of_lt {n : Nat} (h : n < 0x100) : (UInt8.ofNat n).toNat = n := by
  rw [UInt8.toNat_ofNat']
  omega

theorem isContinuation_ofNat (n : Nat) : isContinuation (UInt8.ofNat (n % 64 + 128)).toNat := by
  rw [toNat_ofNat_of_lt (by omega), isContinuation, Bool.and_eq_true, decide_eq_true_eq,
    decide_eq_true_eq]
  omega

/-- The bytes of a character are read as this character. -/
theorem decodeLossy_utf8EncodeChar (c : Char) (rest : List UInt8) :
    decodeLossy (String.utf8EncodeChar c ++ rest) = c :: decodeLossy rest := by
  have hvalid : c.toNat < 0xD800 ∨ 0xDFFF < c.toNat ∧ c.toNat < 0x110000 := c.valid
  have hchar : ∀ n, n = c.toNat → Char.ofNat n = c := by
    rintro n rfl
    exact Char.ofNat_toNat c
  unfold String.utf8EncodeChar
  rw [Char.toNat_val]
  generalize c.toNat = v at hvalid hchar
  dsimp only
  -- one, two, three or four bytes; surrogates and numbers that are too large would break the bounds
  -- of the second byte
  split
  · have h₀ : (UInt8.ofNat v).toNat = v := toNat_ofNat_of_lt (by omega)
    rw [List.singleton_append, decodeLossy, h₀, if_pos (by omega), hchar v rfl]
  split
  · have h₀ := toNat_ofNat_of_lt (n := v / 64 % 32 + 192) (by omega)
    have h₁ := toNat_ofNat_of_lt (n := v % 64 + 128) (by omega)
    have hlead := lead?_two (n := v / 64 % 32 + 192) (by omega) (by omega)
    rw [← h₀] at hlead
    have hbounds : 0x80 ≤ (UInt8.ofNat (v % 64 + 128)).toNat ∧
        (UInt8.ofNat (v % 64 + 128)).toNat ≤ 0xBF := by omega
    simp only [List.cons_append, List.nil_append]
    rw [decodeLossy_two rest (by omega) hlead rfl hbounds, h₀, h₁, hchar _ (by omega)]
  split
  · have h₀ := toNat_ofNat_of_lt (n := v / 4096 % 16 + 224) (by omega)
    have h₁ := toNat_ofNat_of_lt (n := v / 64 % 64 + 128) (by omega)
    have h₂ := toNat_ofNat_of_lt (n := v % 64 + 128) (by omega)
    have hlead := lead?_three (n := v / 4096 % 16 + 224) (by omega) (by omega)
    rw [← h₀] at hlead
    simp only [List.cons_append, List.nil_append]
    rw [decodeLossy_three rest (by omega) hlead rfl (by dsimp only; split <;> split <;> omega)
      (isContinuation_ofNat _), h₀, h₁, h₂, hchar _ (by omega)]
  · have h₀ := toNat_ofNat_of_lt (n := v / 262144 % 8 + 240) (by omega)
    have h₁ := toNat_ofNat_of_lt (n := v / 4096 % 64 + 128) (by omega)
    have h₂ := toNat_ofNat_of_lt (n := v / 64 % 64 + 128) (by omega)
    have h₃ := toNat_ofNat_of_lt (n := v % 64 + 128) (by omega)
    have hlead := lead?_four (n := v / 262144 % 8 + 240) (by omega) (by omega)
    rw [← h₀] at hlead
    simp only [List.cons_append, List.nil_append]
    rw [decodeLossy_four rest (by omega) hlead rfl (by dsimp only; split <;> split <;> omega)
      (isContinuation_ofNat _) (isContinuation_ofNat _), h₀, h₁, h₂, h₃, hchar _ (by omega)]

/-! Reading bytes leniently. Bytes of characters are read as these, so that the lenient reading is
the strict one where there is a strict one. -/

theorem toList_loop (bytes : ByteArray) (i : Nat) (done : List UInt8) :
    ByteArray.toList.loop bytes i done = done.reverse ++ bytes.data.toList.drop i := by
  fun_induction ByteArray.toList.loop bytes i done with
  | case1 i done h ih =>
    have hi : i < bytes.data.toList.length := h
    rw [ih, List.drop_eq_getElem_cons hi]
    simp [ByteArray.get!, h]
  | case2 i done h =>
    rw [List.drop_eq_nil_of_le (Nat.le_of_not_lt h), List.append_nil]

theorem toList_eq_data_toList (bytes : ByteArray) : bytes.toList = bytes.data.toList :=
  toList_loop bytes 0 []

theorem toList_toUTF8 (text : String) :
    text.toUTF8.toList = text.toList.flatMap String.utf8EncodeChar := by
  rw [toList_eq_data_toList, String.toUTF8_eq_toByteArray]
  conv => lhs; rw [← String.ofList_toList (s := text)]
  rw [String.toByteArray_ofList, List.utf8Encode, List.toList_data_toByteArray]

theorem decodeLossy_append (text : List Char) (rest : List UInt8) :
    decodeLossy (text.flatMap String.utf8EncodeChar ++ rest) = text ++ decodeLossy rest := by
  induction text with
  | nil => rfl
  | cons c text ih =>
    rw [List.flatMap_cons, List.append_assoc, decodeLossy_utf8EncodeChar, ih, List.cons_append]

theorem toList_ofUtf8Lossy (bytes : ByteArray) :
    (ofUtf8Lossy bytes).toList = decodeLossy bytes.toList := by
  rw [ofUtf8Lossy]
  cases h : ofUtf8? bytes with
  | none => exact String.toList_ofList
  | some text =>
    have hdecode := decodeLossy_append text.toList []
    rw [List.append_nil, ← toList_toUTF8, toUTF8_of_ofUtf8? h] at hdecode
    rw [hdecode]
    exact (List.append_nil _).symm

/-- The bytes before the first line break. -/
def firstBytes (bytes : ByteArray) : ByteArray :=
  ⟨(bytes.toList.takeWhile (· ≠ 0x0A)).toArray⟩

/-- What comes before the first line break is read by itself. -/
theorem takeWhile_ofUtf8Lossy {line : String} (h : ofUtf8? (firstBytes bytes) = some line) :
    (ofUtf8Lossy bytes).toList.takeWhile (· ≠ '\n') = line.toList := by
  have hline : bytes.toList.takeWhile (· ≠ 0x0A) = line.toList.flatMap String.utf8EncodeChar := by
    rw [← toList_toUTF8, toUTF8_of_ofUtf8? h, toList_eq_data_toList (firstBytes bytes), firstBytes]
  have hsplit := List.takeWhile_append_dropWhile (p := (· ≠ (0x0A : UInt8))) (l := bytes.toList)
  have hunbroken : ∀ c ∈ line.toList, decide (c ≠ '\n') = true := by
    intro c hc
    refine decide_eq_true fun hbreak => ?_
    have hmem : (0x0A : UInt8) ∈ bytes.toList.takeWhile (· ≠ 0x0A) := by
      rw [hline]
      refine List.mem_flatMap.mpr ⟨c, hc, ?_⟩
      rw [hbreak]
      exact List.mem_singleton.mpr rfl
    have hother := List.all_eq_true.mp List.all_takeWhile _ hmem
    exact of_decide_eq_true hother rfl
  rw [toList_ofUtf8Lossy, ← hsplit, hline, decodeLossy_append,
    List.takeWhile_append_of_pos hunbroken]
  cases hrest : bytes.toList.dropWhile (· ≠ 0x0A) with
  | nil => simp [decodeLossy]
  | cons b rest =>
    have hbreak := List.head?_dropWhile_not (· ≠ (0x0A : UInt8)) bytes.toList
    rw [hrest] at hbreak
    obtain rfl : b = 0x0A := by simpa using hbreak
    have hnext : decodeLossy (0x0A :: rest) = '\n' :: decodeLossy rest :=
      decodeLossy_utf8EncodeChar '\n' rest
    rw [hnext, List.takeWhile_cons_of_neg (by decide), List.append_nil]

end GoldenTree.Text
