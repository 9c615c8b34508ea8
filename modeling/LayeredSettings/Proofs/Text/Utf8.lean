import Mathlib.Data.List.TakeWhile
import LayeredSettings.Text.Utf8

namespace LayeredSettings

variable {n : Nat} {first b : UInt8} {more others : List UInt8}

theorem toNat_ofNat (small : n < 256) : (UInt8.ofNat n).toNat = n := UInt8.toNat_ofNat_of_lt' small

theorem isContinuation_ofNat (inside : 0x80 ≤ n ∧ n < 0xC0) : isContinuation (UInt8.ofNat n) = true := by
  have same := toNat_ofNat (by omega : n < 256)
  simp [isContinuation, UInt8.le_iff_toNat_le, UInt8.lt_iff_toNat_lt, same, inside]

theorem leadByte?_ofNat (small : n < 256) : leadByte? (UInt8.ofNat n) =
    if n < 0x80 then some (1, 0, 0)
    else if n < 0xC2 then none
    else if n < 0xE0 then some (2, 0x80, 0xBF)
    else if n < 0xF0 then some (3, if n = 0xE0 then 0xA0 else 0x80, if n = 0xED then 0x9F else 0xBF)
    else if n < 0xF5 then some (4, if n = 0xF0 then 0x90 else 0x80, if n = 0xF4 then 0x8F else 0xBF)
    else none := by
  have same := toNat_ofNat small
  simp only [leadByte?, UInt8.lt_iff_toNat_lt, ← UInt8.toNat_inj, same]
  rfl

/-- What may follow the first byte of a character is taken to be its own as far as the character goes. -/
theorem following_eq {low high : UInt8} (within : low ≤ b ∧ b ≤ high) (continued : ∀ c ∈ more, isContinuation c = true)
    (tail : List UInt8) : following (more.length + 2) low high (b :: more ++ tail) = b :: more := by
  have inside : ¬ (more.length + 2 ≤ 1 ∨ b < low ∨ high < b) := by
    have le := UInt8.not_lt.mpr within.1
    have ge := UInt8.not_lt.mpr within.2
    simp [le, ge]
  rw [List.cons_append, following, if_neg inside, Nat.add_sub_cancel, List.take_left,
    List.takeWhile_eq_self_iff.mpr continued]

/-- A first byte is read with the bytes that follow it if they are as many as it asks for. -/
theorem decodeChar_eq {length : Nat} {tail : List UInt8} {low high : UInt8} (lead : leadByte? first = some (length, low, high))
    (own : following length low high (others ++ tail) = others) (whole : others.length + 1 = length) (position : Nat) :
    decodeChar position first (others ++ tail) = .ok (Char.ofNat (codePoint first others), others.length) := by
  rw [decodeChar, lead]
  simp only [own, whole, if_true]

/-- A character that takes several bytes is read from its numbers: the second one lies between the bounds that the
first one sets. -/
theorem decodeChar_ofNat {c : Char} {lead second length : Nat} (more : List Nat) {low high : UInt8}
    (leads : leadByte? (.ofNat lead) = some (length, low, high)) (whole : more.length + 2 = length)
    (bounds : low.toNat ≤ second ∧ second ≤ high.toNat) (continued : ∀ n ∈ more, 0x80 ≤ n ∧ n < 0xC0)
    (code : codePoint (.ofNat lead) (.ofNat second :: more.map .ofNat) = c.toNat) (tail : List UInt8) (position : Nat) :
    decodeChar position (.ofNat lead) (.ofNat second :: more.map .ofNat ++ tail) = .ok (c, more.length + 1) := by
  have small : second < 256 := Nat.lt_of_le_of_lt bounds.2 high.toNat_lt
  have within : low ≤ UInt8.ofNat second ∧ UInt8.ofNat second ≤ high := by
    rwa [UInt8.le_iff_toNat_le, UInt8.le_iff_toNat_le, toNat_ofNat small]
  have all : ∀ b ∈ more.map UInt8.ofNat, isContinuation b = true := by
    rintro _ member
    obtain ⟨n, own, rfl⟩ := List.mem_map.mp member
    exact isContinuation_ofNat (continued n own)
  have own : following length low high (.ofNat second :: more.map .ofNat ++ tail) = .ofNat second :: more.map .ofNat := by
    have taken := following_eq within all tail
    rwa [List.length_map, whole] at taken
  rw [decodeChar_eq leads own (by simpa using whole) position, code, Char.ofNat_toNat]
  simp

section Widths

variable {c : Char} (tail : List UInt8) (position : Nat)

theorem decodeChar_one (small : c.toNat < 0x80) : decodeChar position (.ofNat c.toNat) tail = .ok (c, 0) := by
  have lead : leadByte? (.ofNat c.toNat) = some (1, 0, 0) := by
    rw [leadByte?_ofNat (by omega), if_pos small]
  have own : following 1 0 0 ([] ++ tail) = [] := by cases tail <;> simp [following]
  have code : codePoint (.ofNat c.toNat) [] = c.toNat := by simp [codePoint, toNat_ofNat (by omega : c.toNat < 256)]
  have read := decodeChar_eq lead own rfl position
  rwa [code, Char.ofNat_toNat] at read

theorem decodeChar_two (large : 0x80 ≤ c.toNat) (small : c.toNat < 0x800) :
    decodeChar position (.ofNat (c.toNat / 64 % 32 + 192)) (.ofNat (c.toNat % 64 + 128) :: tail) = .ok (c, 1) := by
  have lead : leadByte? (.ofNat (c.toNat / 64 % 32 + 192)) = some (2, 0x80, 0xBF) := by
    rw [leadByte?_ofNat (by omega), if_neg (by omega), if_neg (by omega), if_pos (by omega)]
  have code : codePoint (.ofNat (c.toNat / 64 % 32 + 192)) [.ofNat (c.toNat % 64 + 128)] = c.toNat := by
    simp [codePoint]
    omega
  exact decodeChar_ofNat [] lead rfl (by simp; omega) (by simp) code tail position

/-- No character has one of the numbers that the bounds leave out, of surrogates among others. -/
theorem decodeChar_three (large : 0x800 ≤ c.toNat) (small : c.toNat < 0x10000) :
    decodeChar position (.ofNat (c.toNat / 4096 % 16 + 224))
      (.ofNat (c.toNat / 64 % 64 + 128) :: .ofNat (c.toNat % 64 + 128) :: tail) = .ok (c, 2) := by
  have valid : c.toNat < 0xD800 ∨ 0xDFFF < c.toNat ∧ c.toNat < 0x110000 := c.valid
  have lead : leadByte? (.ofNat (c.toNat / 4096 % 16 + 224)) =
      some (3, if c.toNat / 4096 % 16 + 224 = 0xE0 then 0xA0 else 0x80,
        if c.toNat / 4096 % 16 + 224 = 0xED then 0x9F else 0xBF) := by
    rw [leadByte?_ofNat (by omega), if_neg (by omega), if_neg (by omega), if_neg (by omega), if_pos (by omega)]
  have bounds : (if c.toNat / 4096 % 16 + 224 = 0xE0 then 0xA0 else 0x80 : UInt8).toNat ≤ c.toNat / 64 % 64 + 128 ∧
      c.toNat / 64 % 64 + 128 ≤ (if c.toNat / 4096 % 16 + 224 = 0xED then 0x9F else 0xBF : UInt8).toNat := by
    constructor <;> split <;> simp <;> omega
  have code : codePoint (.ofNat (c.toNat / 4096 % 16 + 224))
      [.ofNat (c.toNat / 64 % 64 + 128), .ofNat (c.toNat % 64 + 128)] = c.toNat := by
    simp [codePoint]
    omega
  exact decodeChar_ofNat [c.toNat % 64 + 128] lead rfl bounds (by simp; omega) code tail position

theorem decodeChar_four (large : 0x10000 ≤ c.toNat) :
    decodeChar position (.ofNat (c.toNat / 262144 % 8 + 240))
      (.ofNat (c.toNat / 4096 % 64 + 128) :: .ofNat (c.toNat / 64 % 64 + 128) :: .ofNat (c.toNat % 64 + 128) :: tail) =
        .ok (c, 3) := by
  have valid : c.toNat < 0xD800 ∨ 0xDFFF < c.toNat ∧ c.toNat < 0x110000 := c.valid
  have lead : leadByte? (.ofNat (c.toNat / 262144 % 8 + 240)) =
      some (4, if c.toNat / 262144 % 8 + 240 = 0xF0 then 0x90 else 0x80,
        if c.toNat / 262144 % 8 + 240 = 0xF4 then 0x8F else 0xBF) := by
    rw [leadByte?_ofNat (by omega), if_neg (by omega), if_neg (by omega), if_neg (by omega), if_neg (by omega),
      if_pos (by omega)]
  have bounds : (if c.toNat / 262144 % 8 + 240 = 0xF0 then 0x90 else 0x80 : UInt8).toNat ≤ c.toNat / 4096 % 64 + 128 ∧
      c.toNat / 4096 % 64 + 128 ≤ (if c.toNat / 262144 % 8 + 240 = 0xF4 then 0x8F else 0xBF : UInt8).toNat := by
    constructor <;> split <;> simp <;> omega
  have code : codePoint (.ofNat (c.toNat / 262144 % 8 + 240)) [.ofNat (c.toNat / 4096 % 64 + 128),
      .ofNat (c.toNat / 64 % 64 + 128), .ofNat (c.toNat % 64 + 128)] = c.toNat := by
    simp [codePoint]
    omega
  exact decodeChar_ofNat [c.toNat / 64 % 64 + 128, c.toNat % 64 + 128] lead rfl bounds (by simp; omega) code tail position

end Widths

/-- A character is read from the bytes that it is written as, whatever follows. -/
theorem decodeChar_utf8EncodeChar (c : Char) (tail : List UInt8) (position : Nat) :
    ∃ first others, String.utf8EncodeChar c = first :: others ∧
      decodeChar position first (others ++ tail) = .ok (c, others.length) := by
  have number : c.val.toNat = c.toNat := rfl
  unfold String.utf8EncodeChar
  simp only [number]
  split
  · next one => exact ⟨_, _, rfl, decodeChar_one tail position (by omega)⟩
  · split
    · next one two => exact ⟨_, _, rfl, decodeChar_two tail position (by omega) (by omega)⟩
    · split
      · next two three => exact ⟨_, _, rfl, decodeChar_three tail position (by omega) (by omega)⟩
      · next three => exact ⟨_, _, rfl, decodeChar_four tail position (by omega)⟩

theorem decodeFrom_flatMap (chars : List Char) (position : Nat) :
    decodeFrom position (chars.flatMap String.utf8EncodeChar) = .ok chars := by
  induction chars generalizing position with
  | nil => rw [List.flatMap_nil, decodeFrom]
  | cons c rest ih =>
    obtain ⟨first, others, bytes, read⟩ := decodeChar_utf8EncodeChar c (rest.flatMap String.utf8EncodeChar) position
    rw [List.flatMap_cons, bytes, List.cons_append, decodeFrom, read]
    simp only [List.drop_left, ih]

theorem toList_loop (bytes : ByteArray) (i : Nat) (taken : List UInt8) :
    ByteArray.toList.loop bytes i taken = taken.reverse ++ bytes.data.toList.drop i := by
  fun_induction ByteArray.toList.loop bytes i taken with
  | case1 i taken more ih =>
    have inside : i < bytes.data.toList.length := by simpa using more
    rw [ih, List.drop_eq_getElem_cons inside]
    simp [ByteArray.get!, more]
  | case2 i taken ended => simp [List.drop_eq_nil_of_le (by simpa using ended : bytes.data.toList.length ≤ i)]

theorem encodeUtf8_eq (s : String) : encodeUtf8 s = s.toList.flatMap String.utf8EncodeChar := by
  have bytes : (String.ofList s.toList).toUTF8 = (s.toList.flatMap String.utf8EncodeChar).toByteArray :=
    String.toByteArray_ofList
  rw [String.ofList_toList] at bytes
  rw [encodeUtf8, bytes, ByteArray.toList, toList_loop, List.reverse_nil, List.nil_append, List.drop_zero,
    List.toList_data_toByteArray]

/-- A text is read back from the bytes that it is written as. -/
theorem decodeUtf8_encodeUtf8 (s : String) : decodeUtf8 (encodeUtf8 s) = .ok s.toList := by
  rw [decodeUtf8, encodeUtf8_eq, decodeFrom_flatMap]

end LayeredSettings
