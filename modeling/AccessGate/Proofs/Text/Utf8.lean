import AccessGate.Text.Utf8

/-! # Texts read back from their bytes

The decoder takes the bytes of a text to its characters, whatever the text. The bytes of one character take it
once through the states of the decoder and leave no character in progress. -/
namespace AccessGate.Text.Utf8

variable {position value more low high first byte : Nat} {b : UInt8} {c : Char} {rest : List UInt8}

private theorem decodeFrom_lead {p : Pending} (hhigh : 0x80 ≤ b.toNat)
    (hstart : start? position b.toNat = some p) :
    decodeFrom position none (b :: rest) = decodeFrom (position + 1) (some p) rest := by
  rw [decodeFrom, if_neg (by omega), hstart]

private theorem decodeFrom_inner (hlow : low ≤ b.toNat) (hhigh : b.toNat ≤ high) :
    decodeFrom position (some ⟨byte, first, value, more + 1, low, high⟩) (b :: rest) =
      decodeFrom (position + 1) (some ⟨byte, first, 64 * value + (b.toNat - 0x80), more, 0x80, 0xBF⟩) rest := by
  have hrange : ¬(b.toNat < low || high < b.toNat) = true := by
    simp only [Bool.or_eq_true, decide_eq_true_eq]
    omega
  rw [decodeFrom, if_neg hrange]

private theorem decodeFrom_last (hlow : low ≤ b.toNat) (hhigh : b.toNat ≤ high)
    (hc : Char.ofNat (64 * value + (b.toNat - 0x80)) = c) :
    decodeFrom position (some ⟨byte, first, value, 0, low, high⟩) (b :: rest) =
      (decodeFrom (position + 1) none rest).map (c :: ·) := by
  have hrange : ¬(b.toNat < low || high < b.toNat) = true := by
    simp only [Bool.or_eq_true, decide_eq_true_eq]
    omega
  rw [decodeFrom, if_neg hrange, ← hc]

private theorem start?_two (h₁ : 2 ≤ value) (h₂ : value < 0x20) :
    start? position (value + 0xC0) = some ⟨value + 0xC0, position, value, 0, 0x80, 0xBF⟩ := by
  rw [start?, if_neg (by omega), if_pos (by omega), Nat.add_sub_cancel]

/-- The second byte of three keeps out overlong forms and surrogates. -/
private theorem start?_three (h : value < 0x10) :
    start? position (value + 0xE0) = some ⟨value + 0xE0, position, value, 1,
      if value = 0 then 0xA0 else 0x80, if value = 0xD then 0x9F else 0xBF⟩ := by
  rw [start?, if_neg (by omega), if_neg (by omega)]
  by_cases h₀ : value = 0
  · simp [h₀]
  · by_cases h₁ : value = 0xD
    · simp [h₁]
    · rw [if_neg (by omega), if_neg (by omega), if_pos (by omega), Nat.add_sub_cancel, if_neg h₀, if_neg h₁]

/-- The second byte of four keeps out overlong forms and what lies above the last character. -/
private theorem start?_four (h : value < 5) :
    start? position (value + 0xF0) = some ⟨value + 0xF0, position, value, 2,
      if value = 0 then 0x90 else 0x80, if value = 4 then 0x8F else 0xBF⟩ := by
  rw [start?, if_neg (by omega), if_neg (by omega), if_neg (by omega), if_neg (by omega), if_neg (by omega)]
  by_cases h₀ : value = 0
  · simp [h₀]
  · by_cases h₁ : value = 4
    · simp [h₁]
    · rw [if_neg (by omega), if_pos (by omega), Nat.add_sub_cancel, if_neg h₀, if_neg h₁]

private theorem toNat_byte {n : Nat} (h : n < 0x100) : (UInt8.ofNat n).toNat = n := by
  rw [UInt8.toNat_ofNat', Nat.mod_eq_of_lt h]

theorem decodeFrom_encodeChar (position : Nat) (c : Char) (rest : List UInt8) :
    decodeFrom position none (String.utf8EncodeChar c ++ rest) =
      (decodeFrom (position + (String.utf8EncodeChar c).length) none rest).map (c :: ·) := by
  have hvalid : c.toNat < 0xD800 ∨ 0xDFFF < c.toNat ∧ c.toNat < 0x110000 := c.valid
  have hc : Char.ofNat c.toNat = c := Char.ofNat_toNat c
  rw [String.utf8EncodeChar.eq_def]
  simp only [show c.val.toNat = c.toNat from rfl]
  generalize c.toNat = v at hvalid hc
  -- One case for each number of bytes.
  by_cases h₁ : v ≤ 0x7F
  · have hb := toNat_byte (show v < 0x100 by omega)
    simp only [if_pos h₁, List.cons_append, List.nil_append, List.length_cons, List.length_nil]
    rw [decodeFrom, hb, if_pos (by omega), hc]
  by_cases h₂ : v ≤ 0x7FF
  · have hb₁ := toNat_byte (show v / 64 % 32 + 192 < 0x100 by omega)
    have hb₂ := toNat_byte (show v % 64 + 128 < 0x100 by omega)
    simp only [if_neg h₁, if_pos h₂, List.cons_append, List.nil_append, List.length_cons, List.length_nil]
    rw [decodeFrom_lead (by omega) (by rw [hb₁]; exact start?_two (by omega) (by omega)),
      decodeFrom_last (by omega) (by omega)]
    rw [hb₂, ← hc]
    exact congrArg Char.ofNat (by omega)
  by_cases h₃ : v ≤ 0xFFFF
  · have hb₁ := toNat_byte (show v / 4096 % 16 + 224 < 0x100 by omega)
    have hb₂ := toNat_byte (show v / 64 % 64 + 128 < 0x100 by omega)
    have hb₃ := toNat_byte (show v % 64 + 128 < 0x100 by omega)
    simp only [if_neg h₁, if_neg h₂, if_pos h₃, List.cons_append, List.nil_append, List.length_cons,
      List.length_nil]
    rw [decodeFrom_lead (by omega) (by rw [hb₁]; exact start?_three (by omega)),
      decodeFrom_inner (by split <;> omega) (by split <;> omega), decodeFrom_last (by omega) (by omega)]
    rw [hb₂, hb₃, ← hc]
    exact congrArg Char.ofNat (by omega)
  · have hb₁ := toNat_byte (show v / 262144 % 8 + 240 < 0x100 by omega)
    have hb₂ := toNat_byte (show v / 4096 % 64 + 128 < 0x100 by omega)
    have hb₃ := toNat_byte (show v / 64 % 64 + 128 < 0x100 by omega)
    have hb₄ := toNat_byte (show v % 64 + 128 < 0x100 by omega)
    simp only [if_neg h₁, if_neg h₂, if_neg h₃, List.cons_append, List.nil_append, List.length_cons,
      List.length_nil]
    rw [decodeFrom_lead (by omega) (by rw [hb₁]; exact start?_four (by omega)),
      decodeFrom_inner (by split <;> omega) (by split <;> omega), decodeFrom_inner (by omega) (by omega),
      decodeFrom_last (by omega) (by omega)]
    rw [hb₂, hb₃, hb₄, ← hc]
    exact congrArg Char.ofNat (by omega)

def encode (s : String) : List UInt8 := s.toUTF8.data.toList

theorem encode_eq_flatMap (s : String) : encode s = s.toList.flatMap String.utf8EncodeChar := by
  rw [encode, String.toUTF8_eq_toByteArray, ← String.utf8Encode_toList, List.utf8Encode]
  simp

theorem decode_encode (s : String) : decode (encode s) = .ok s.toList := by
  have hfrom : ∀ (cs : List Char) (position : Nat),
      decodeFrom position none (cs.flatMap String.utf8EncodeChar) = .ok cs := by
    intro cs
    induction cs with
    | nil =>
      intro position
      rfl
    | cons c cs ih =>
      intro position
      rw [List.flatMap_cons, decodeFrom_encodeChar, ih]
      rfl
  rw [decode, encode_eq_flatMap]
  exact hfrom _ _

theorem toList_loop_eq (bs : ByteArray) (i : Nat) (done : List UInt8) :
    ByteArray.toList.loop bs i done = done.reverse ++ bs.data.toList.drop i := by
  fun_induction ByteArray.toList.loop bs i done with
  | case1 i done hi ih =>
    have hi' : i < bs.data.toList.length := by simpa using hi
    rw [ih, List.drop_eq_getElem_cons hi']
    simp [ByteArray.get!, hi]
  | case2 i done hi =>
    have hi' : bs.data.toList.length ≤ i := by simpa using hi
    rw [List.drop_eq_nil_of_le hi']
    simp

theorem toList_toUTF8 (s : String) : s.toUTF8.toList = encode s := by
  rw [ByteArray.toList, toList_loop_eq]
  rfl

end AccessGate.Text.Utf8
