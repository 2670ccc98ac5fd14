import TableSync.Text.Utf8

/-!
The UTF-8 bytes of a text pass `checkUtf8`, which reads them back as the text.
-/

namespace TableSync

theorem byteArray_getElem? (src : ByteArray) (j : Nat) : src[j]? = src.data.toList[j]? := by
  by_cases inside : j < src.size <;> simp [inside, ByteArray.getElem_eq_getElem_data]

theorem byteArray_toList_loop (bytes : ByteArray) (i : Nat) (acc : List UInt8) :
    ByteArray.toList.loop bytes i acc = acc.reverse ++ bytes.data.toList.drop i := by
  fun_induction ByteArray.toList.loop bytes i acc with
  | case1 i acc inside ih =>
    have split : bytes.data.toList.drop i = bytes.get! i :: bytes.data.toList.drop (i + 1) := by
      rw [List.drop_eq_getElem_cons (by simpa using inside)]
      simp [ByteArray.get!, getElem!_pos bytes.data i (by simpa using inside)]
    rw [ih, split]
    simp
  | case2 i acc outside =>
    rw [List.drop_of_length_le (by simp; omega), List.append_nil]

theorem byteArray_toList (bytes : ByteArray) : bytes.toList = bytes.data.toList := by
  simp [ByteArray.toList, byteArray_toList_loop]

theorem toByteArray_data (s : String) :
    s.toByteArray.data.toList = s.toList.flatMap String.utf8EncodeChar := by
  rw [← String.utf8Encode_toList, List.utf8Encode, List.toList_data_toByteArray]

theorem fromUTF8?_toByteArray (s : String) : String.fromUTF8? s.toByteArray = some s := by
  simp [String.fromUTF8?, s.isValidUTF8, String.fromUTF8]

section Bytes

variable {n m : Nat}

theorem sequenceWidth_ofNat_one (lead : n < 0x80) : sequenceWidth (UInt8.ofNat n) = 1 := by
  simp [sequenceWidth, UInt8.lt_iff_toNat_lt]
  omega

theorem sequenceWidth_ofNat_two (lead : 0xC2 ≤ n ∧ n ≤ 0xDF) :
    sequenceWidth (UInt8.ofNat n) = 2 := by
  simp [sequenceWidth, UInt8.lt_iff_toNat_lt, UInt8.le_iff_toNat_le]
  repeat' split
  all_goals omega

theorem sequenceWidth_ofNat_three (lead : 0xE0 ≤ n ∧ n ≤ 0xEF) :
    sequenceWidth (UInt8.ofNat n) = 3 := by
  simp [sequenceWidth, UInt8.lt_iff_toNat_lt, UInt8.le_iff_toNat_le]
  repeat' split
  all_goals omega

theorem sequenceWidth_ofNat_four (lead : 0xF0 ≤ n ∧ n ≤ 0xF4) :
    sequenceWidth (UInt8.ofNat n) = 4 := by
  simp [sequenceWidth, UInt8.lt_iff_toNat_lt, UInt8.le_iff_toNat_le]
  repeat' split
  all_goals omega

theorem isContinuation_ofNat (continues : 0x80 ≤ n ∧ n ≤ 0xBF) :
    isContinuation (UInt8.ofNat n) = true := by
  simp [isContinuation, UInt8.le_iff_toNat_le]
  omega

theorem secondAllowed_ofNat
    (allowed : (n = 0xE0 → 0xA0 ≤ m) ∧ (n = 0xED → m ≤ 0x9F) ∧ (n = 0xF0 → 0x90 ≤ m) ∧
      (n = 0xF4 → m ≤ 0x8F))
    (lead : n < 256) (continues : 0x80 ≤ m ∧ m ≤ 0xBF) :
    secondAllowed (UInt8.ofNat n) (UInt8.ofNat m) = true := by
  simp [secondAllowed, isContinuation, UInt8.le_iff_toNat_le, ← UInt8.toNat_inj]
  repeat' split
  all_goals omega

end Bytes

section Encoding

variable {c : Char}

theorem utf8EncodeChar_one (one : c.toNat ≤ 0x7f) : String.utf8EncodeChar c = [UInt8.ofNat c.toNat] := by
  simp only [String.utf8EncodeChar, ← Char.toNat.eq_def, one, if_true]

theorem utf8EncodeChar_two (one : 0x7f < c.toNat) (two : c.toNat ≤ 0x7ff) :
    String.utf8EncodeChar c =
      [UInt8.ofNat (c.toNat / 64 % 32 + 0xc0), UInt8.ofNat (c.toNat % 64 + 0x80)] := by
  simp only [String.utf8EncodeChar, ← Char.toNat.eq_def, Nat.not_le.mpr one, two, if_true, if_false]

theorem utf8EncodeChar_three (two : 0x7ff < c.toNat) (three : c.toNat ≤ 0xffff) :
    String.utf8EncodeChar c =
      [UInt8.ofNat (c.toNat / 4096 % 16 + 0xe0), UInt8.ofNat (c.toNat / 64 % 64 + 0x80),
        UInt8.ofNat (c.toNat % 64 + 0x80)] := by
  have one : ¬c.toNat ≤ 0x7f := by omega
  simp only [String.utf8EncodeChar, ← Char.toNat.eq_def, one, Nat.not_le.mpr two, three, if_true,
    if_false]

theorem utf8EncodeChar_four (three : 0xffff < c.toNat) :
    String.utf8EncodeChar c =
      [UInt8.ofNat (c.toNat / 262144 % 8 + 0xf0), UInt8.ofNat (c.toNat / 4096 % 64 + 0x80),
        UInt8.ofNat (c.toNat / 64 % 64 + 0x80), UInt8.ofNat (c.toNat % 64 + 0x80)] := by
  have one : ¬c.toNat ≤ 0x7f := by omega
  have two : ¬c.toNat ≤ 0x7ff := by omega
  simp only [String.utf8EncodeChar, ← Char.toNat.eq_def, one, two, Nat.not_le.mpr three, if_false]

theorem toNat_lt_of_char (c : Char) : c.toNat < 0xd800 ∨ 0xdfff < c.toNat ∧ c.toNat < 0x110000 :=
  c.valid

end Encoding

theorem checkSequence_utf8EncodeChar {src : ByteArray} {i : Nat} (c : Char)
    (placed : ∀ k (h : k < (String.utf8EncodeChar c).length),
      src[i + k]? = some (String.utf8EncodeChar c)[k]) :
    checkSequence src i = .ok (String.utf8EncodeChar c).length := by
  have valid := toNat_lt_of_char c
  -- One case per length of the encoding; each byte lands in the range the check asks of it.
  by_cases one : c.toNat ≤ 0x7f
  · rw [utf8EncodeChar_one one] at placed ⊢
    have first := placed 0 (by simp)
    simp only [Nat.add_zero, List.getElem_cons_zero] at first
    have width : sequenceWidth (UInt8.ofNat c.toNat) = 1 := sequenceWidth_ofNat_one (by omega)
    simp only [checkSequence, Nat.add_zero, first, width]
    simp
  by_cases two : c.toNat ≤ 0x7ff
  · rw [utf8EncodeChar_two (by omega) two] at placed ⊢
    have first := placed 0 (by simp)
    have second := placed 1 (by simp)
    simp only [Nat.add_zero, List.getElem_cons_zero, List.getElem_cons_succ] at first second
    have width : sequenceWidth (UInt8.ofNat (c.toNat / 64 % 32 + 0xc0)) = 2 :=
      sequenceWidth_ofNat_two ⟨by omega, by omega⟩
    have allowed : secondAllowed (UInt8.ofNat (c.toNat / 64 % 32 + 0xc0))
        (UInt8.ofNat (c.toNat % 64 + 0x80)) = true :=
      secondAllowed_ofNat (by omega) (by omega) ⟨by omega, by omega⟩
    simp only [checkSequence, Nat.add_zero, first, second, width, allowed]
    simp
  by_cases three : c.toNat ≤ 0xffff
  · rw [utf8EncodeChar_three (by omega) three] at placed ⊢
    have first := placed 0 (by simp)
    have second := placed 1 (by simp)
    have third := placed 2 (by simp)
    simp only [Nat.add_zero, List.getElem_cons_zero, List.getElem_cons_succ] at first second third
    have width : sequenceWidth (UInt8.ofNat (c.toNat / 4096 % 16 + 0xe0)) = 3 :=
      sequenceWidth_ofNat_three ⟨by omega, by omega⟩
    have allowed : secondAllowed (UInt8.ofNat (c.toNat / 4096 % 16 + 0xe0))
        (UInt8.ofNat (c.toNat / 64 % 64 + 0x80)) = true :=
      secondAllowed_ofNat (by omega) (by omega) ⟨by omega, by omega⟩
    have continues : isContinuation (UInt8.ofNat (c.toNat % 64 + 0x80)) = true :=
      isContinuation_ofNat ⟨by omega, by omega⟩
    simp only [checkSequence, Nat.add_zero, first, second, third, width, allowed, continues]
    simp
  · rw [utf8EncodeChar_four (by omega)] at placed ⊢
    have first := placed 0 (by simp)
    have second := placed 1 (by simp)
    have third := placed 2 (by simp)
    have fourth := placed 3 (by simp)
    simp only [Nat.add_zero, List.getElem_cons_zero, List.getElem_cons_succ] at first second third fourth
    have width : sequenceWidth (UInt8.ofNat (c.toNat / 262144 % 8 + 0xf0)) = 4 :=
      sequenceWidth_ofNat_four ⟨by omega, by omega⟩
    have allowed : secondAllowed (UInt8.ofNat (c.toNat / 262144 % 8 + 0xf0))
        (UInt8.ofNat (c.toNat / 4096 % 64 + 0x80)) = true :=
      secondAllowed_ofNat (by omega) (by omega) ⟨by omega, by omega⟩
    have continues : isContinuation (UInt8.ofNat (c.toNat / 64 % 64 + 0x80)) = true :=
      isContinuation_ofNat ⟨by omega, by omega⟩
    have continues' : isContinuation (UInt8.ofNat (c.toNat % 64 + 0x80)) = true :=
      isContinuation_ofNat ⟨by omega, by omega⟩
    simp only [checkSequence, Nat.add_zero, first, second, third, fourth, width, allowed, continues,
      continues']
    simp

theorem checkFrom_encoded (src : ByteArray) : ∀ (cs : List Char) (i : Nat),
    src.data.toList.drop i = cs.flatMap String.utf8EncodeChar → checkFrom src i = .ok ()
  | [], i, rest => by
    have outside : ¬i < src.size := by
      have empty := congrArg List.length rest
      rw [List.length_drop, List.flatMap_nil, List.length_nil, Array.length_toList] at empty
      change ¬i < src.data.size
      omega
    rw [checkFrom, dif_neg outside]
  | c :: cs, i, rest => by
    -- The first character's bytes pass the sequence check; the check then goes on after them.
    rw [List.flatMap_cons] at rest
    have placed : ∀ k (h : k < (String.utf8EncodeChar c).length),
        src[i + k]? = some (String.utf8EncodeChar c)[k] := by
      intro k h
      rw [byteArray_getElem?, ← List.getElem?_drop, rest, List.getElem?_append_left h,
        List.getElem?_eq_getElem h]
    have inside : i < src.size := by
      have first := placed 0 (List.length_pos_iff.mpr String.utf8EncodeChar_ne_nil)
      rw [Nat.add_zero] at first
      exact (getElem?_eq_some_iff.mp first).1
    have next : src.data.toList.drop (i + (String.utf8EncodeChar c).length) =
        cs.flatMap String.utf8EncodeChar := by
      rw [← List.drop_drop, rest, List.drop_left]
    rw [checkFrom, dif_pos inside, checkSequence_utf8EncodeChar c placed]
    simp only [List.length_pos_iff.mpr String.utf8EncodeChar_ne_nil, if_true]
    exact checkFrom_encoded src cs _ next

/-- The bytes of a text are UTF-8, and read back as the text. -/
theorem checkUtf8_toByteArray (s : String) : checkUtf8 s.toByteArray = .ok s := by
  have checked := checkFrom_encoded s.toByteArray s.toList 0 (by rw [List.drop_zero, toByteArray_data])
  simp [checkUtf8, checked, fromUTF8?_toByteArray]

end TableSync
