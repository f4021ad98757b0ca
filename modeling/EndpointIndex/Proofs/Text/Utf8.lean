import EndpointIndex.Text.Utf8

/-!
# Encoded texts read back

The bytes of a text are decoded to its characters (`decode?_encodeText`). A character takes one to
four bytes, and what `head?` asks of each of them follows from the range of the character.
-/

namespace EndpointIndex.Text.Utf8

theorem toNat_byte (n : Nat) : (UInt8.ofNat n).toNat = n % 256 := UInt8.toNat_ofNat'

/-- A code point is no surrogate. -/
theorem codePoint_range (c : Char) : c.toNat < 0xD800 ∨ 0xDFFF < c.toNat ∧ c.toNat < 0x110000 := c.valid

theorem isTail_byte {n : Nat} (h : n < 64) : isTail (UInt8.ofNat (n + 128)) = true := by
  simp only [isTail, toNat_byte, Bool.and_eq_true, decide_eq_true_eq]
  omega

theorem payload_byte {n : Nat} (h : n < 64) : payload (UInt8.ofNat (n + 128)) = n := by
  simp only [payload, toNat_byte]
  omega

/-- The second byte of a character of three bytes is never one that is ruled out. -/
theorem admitsSecond_three {v : Nat} (hlow : 0x7FF < v) (hhigh : v ≤ 0xFFFF)
    (hrange : v < 0xD800 ∨ 0xDFFF < v) :
    admitsSecond (UInt8.ofNat (v / 4096 % 16 + 0xE0)) (UInt8.ofNat (v / 64 % 64 + 0x80)) = true := by
  unfold admitsSecond
  simp only [toNat_byte]
  -- after the first byte 0xE0 the second one is not small, after 0xED it is not large
  split
  · simp only [Bool.and_eq_true, decide_eq_true_eq]
    omega
  · simp only [Bool.and_eq_true, decide_eq_true_eq]
    omega
  · omega
  · omega
  · exact isTail_byte (by omega)

theorem admitsSecond_four {v : Nat} (hlow : 0xFFFF < v) (hhigh : v < 0x110000) :
    admitsSecond (UInt8.ofNat (v / 262144 % 8 + 0xF0)) (UInt8.ofNat (v / 4096 % 64 + 0x80)) = true := by
  unfold admitsSecond
  simp only [toNat_byte]
  split
  · omega
  · omega
  · simp only [Bool.and_eq_true, decide_eq_true_eq]
    omega
  · simp only [Bool.and_eq_true, decide_eq_true_eq]
    omega
  · exact isTail_byte (by omega)

theorem head?_encodeChar (c : Char) (rest : List UInt8) :
    head? (String.utf8EncodeChar c ++ rest) = some (c, (String.utf8EncodeChar c).length) := by
  have hrange := codePoint_range c
  have hchar : ∀ n, n = c.toNat → Char.ofNat n = c := by
    rintro n rfl
    exact Char.ofNat_toNat c
  have hval : c.val.toNat = c.toNat := rfl
  unfold String.utf8EncodeChar
  simp only [hval]
  generalize c.toNat = v at hrange hchar
  -- one case for each number of bytes; each of them rules out the shorter forms
  split
  · rename_i h1
    simp only [List.cons_append, head?, toNat_byte, List.length_cons, List.length_nil]
    rw [if_pos (by omega), hchar _ (by omega)]
  · split
    · rename_i h1 h2
      simp only [List.cons_append, head?, toNat_byte, List.length_cons, List.length_nil]
      rw [if_neg (by omega), if_pos (by simp; omega), if_pos (isTail_byte (by omega)),
        payload_byte (by omega), hchar _ (by omega)]
    · split
      · rename_i h1 h2 h3
        simp only [List.cons_append, head?, toNat_byte, List.length_cons, List.length_nil]
        rw [if_neg (by omega), if_neg (by simp; omega), if_pos (by simp; omega),
          admitsSecond_three (by omega) h3 (by omega), isTail_byte (by omega),
          Bool.and_self, if_pos rfl, payload_byte (by omega), payload_byte (by omega),
          hchar _ (by omega)]
      · rename_i h1 h2 h3
        simp only [List.cons_append, head?, toNat_byte, List.length_cons, List.length_nil]
        rw [if_neg (by omega), if_neg (by simp; omega), if_neg (by simp; omega),
          if_pos (by simp; omega), admitsSecond_four (by omega) (by omega), isTail_byte (by omega),
          isTail_byte (by omega), Bool.and_self, Bool.and_self, if_pos rfl, payload_byte (by omega),
          payload_byte (by omega), payload_byte (by omega), hchar _ (by omega)]

theorem decode?_flatMap (s : List Char) :
    decode? (s.flatMap String.utf8EncodeChar) = some s := by
  induction s with
  | nil => rw [List.flatMap_nil, decode?]
  | cons c s ih =>
    have hhead := head?_encodeChar c (s.flatMap String.utf8EncodeChar)
    have hdrop : (String.utf8EncodeChar c ++ s.flatMap String.utf8EncodeChar).drop
        (String.utf8EncodeChar c).length = s.flatMap String.utf8EncodeChar := List.drop_left
    rw [List.flatMap_cons]
    -- decoding goes by the first byte, so there has to be one
    cases hbytes : String.utf8EncodeChar c with
    | nil =>
      have hsize := String.length_utf8EncodeChar c
      rw [hbytes, List.length_nil] at hsize
      have hpos := c.utf8Size_pos
      omega
    | cons b r =>
      rw [hbytes] at hhead hdrop
      rw [List.cons_append] at hhead hdrop ⊢
      rw [decode?, hhead]
      rw [List.length_cons, List.drop_succ_cons] at hdrop
      simp only [List.length_cons, Nat.add_sub_cancel, hdrop, ih, Option.map_some]

/-- Listing the bytes of an array goes through its places from the front. -/
theorem toList_loop_eq (bytes : ByteArray) (i : Nat) (seen : List UInt8) :
    ByteArray.toList.loop bytes i seen = seen.reverse ++ bytes.data.toList.drop i := by
  fun_induction ByteArray.toList.loop bytes i seen with
  | case1 i seen hi ih =>
    have hlength : i < bytes.data.toList.length := hi
    have hbyte : bytes.get! i = bytes.data.toList.get ⟨i, hlength⟩ := by
      cases bytes
      exact getElem!_pos _ i hi
    rw [ih, List.drop_eq_getElem_cons hlength, hbyte, List.reverse_cons, List.append_assoc]
    rfl
  | case2 i seen hi =>
    have hlength : bytes.data.toList.length ≤ i := Nat.le_of_not_lt hi
    rw [List.drop_eq_nil_of_le hlength, List.append_nil]

theorem encodeText_eq_flatMap (s : String) :
    encodeText s = s.toList.flatMap String.utf8EncodeChar := by
  rw [encodeText, String.toUTF8_eq_toByteArray, ByteArray.toList, toList_loop_eq, List.reverse_nil,
    List.nil_append, List.drop_zero, ← String.utf8Encode_toList, List.utf8Encode]
  exact List.toList_data_toByteArray

/-- A text that was encoded is decoded to what it was. -/
theorem decode?_encodeText (s : String) : decode? (encodeText s) = some s.toList := by
  rw [encodeText_eq_flatMap, decode?_flatMap]

end EndpointIndex.Text.Utf8
