import TableSync.Service.Query
import TableSync.Text.Url
import TableSync.Proofs.RoundTrip.Utf8

/-!
Percent-encoded table names, row identifiers and date filters are unreserved characters and `%XX`
escapes only (`Escaped`), so they keep their place in a URL and decode back.
-/

namespace TableSync

def isUnreservedChar (c : Char) : Bool :=
  c.isAlphanum || c == '-' || c == '.' || c == '_' || c == '~'

def isUpperHexDigit (c : Char) : Bool := c.isDigit || ('A' ≤ c && c ≤ 'F')

/-- Text made of unreserved characters and `%XX` escapes. -/
inductive Escaped : List Char → Prop
  | nil : Escaped []
  | plain {c : Char} {rest : List Char} :
      isUnreservedChar c = true → Escaped rest → Escaped (c :: rest)
  | escape {h l : Char} {rest : List Char} :
      isUpperHexDigit h = true → isUpperHexDigit l = true → Escaped rest → Escaped ('%' :: h :: l :: rest)

def queryBreakers : List Char := ['&', '=', '^', '\'', '"']

section Alphabet

theorem isUnreservedChar_iff (c : Char) : isUnreservedChar c = true ↔
    (65 ≤ c.toNat ∧ c.toNat ≤ 90) ∨ (97 ≤ c.toNat ∧ c.toNat ≤ 122) ∨ (48 ≤ c.toNat ∧ c.toNat ≤ 57) ∨
      c.toNat = 45 ∨ c.toNat = 46 ∨ c.toNat = 95 ∨ c.toNat = 126 := by
  -- `delta`, not `simp`, opens the core classifiers: their equation lemmas would otherwise be
  -- generated here although the libraries above already declare them
  simp only [isUnreservedChar]
  delta Char.isAlphanum Char.isAlpha Char.isUpper Char.isLower
  simp only [Char.isDigit, Bool.or_eq_true, Bool.and_eq_true, decide_eq_true_eq, beq_iff_eq,
    UInt32.le_iff_toNat_le, Char.toNat_val, ← Char.toNat_inj, Char.reduceToNat]
  omega

theorem isUnreservedByte_iff (b : UInt8) : isUnreservedByte b = true ↔
    (65 ≤ b.toNat ∧ b.toNat ≤ 90) ∨ (97 ≤ b.toNat ∧ b.toNat ≤ 122) ∨ (48 ≤ b.toNat ∧ b.toNat ≤ 57) ∨
      b.toNat = 45 ∨ b.toNat = 46 ∨ b.toNat = 95 ∨ b.toNat = 126 := by
  simp only [isUnreservedByte, Bool.or_eq_true, Bool.and_eq_true, decide_eq_true_eq, beq_iff_eq,
    UInt8.le_iff_toNat_le, ← UInt8.toNat_inj, UInt8.reduceToNat]
  omega

theorem isUnreservedChar_of_isUpperHexDigit {c : Char} (digit : isUpperHexDigit c = true) :
    isUnreservedChar c = true := by
  simp only [isUpperHexDigit, Char.isDigit, Bool.or_eq_true, Bool.and_eq_true, decide_eq_true_eq,
    Char.le_def, UInt32.le_iff_toNat_le, Char.toNat_val, Char.reduceToNat] at digit
  rw [isUnreservedChar_iff]
  omega

theorem toNat_ofNat_of_lt {n : Nat} (ascii : n < 128) : (Char.ofNat n).toNat = n := by
  have valid : n.isValidChar := Or.inl (by omega)
  rw [Char.ofNat, dif_pos valid]
  exact UInt32.toNat_ofNatLT ..

theorem unreservedByte_char {b : UInt8} (plain : isUnreservedByte b = true) :
    isUnreservedChar (Char.ofNat b.toNat) = true ∧ Char.ofNat b.toNat ≠ '%' ∧
      String.utf8EncodeChar (Char.ofNat b.toNat) = [b] := by
  have ranges := (isUnreservedByte_iff b).mp plain
  have code : (Char.ofNat b.toNat).toNat = b.toNat := toNat_ofNat_of_lt (by omega)
  refine ⟨(isUnreservedChar_iff _).mpr (by omega), ?_, ?_⟩
  · intro percent
    have same : b.toNat = 37 := by simpa [code] using congrArg Char.toNat percent
    omega
  · rw [utf8EncodeChar_one (by omega), code, UInt8.ofNat_toNat]

theorem upperHexDigit_spec : ∀ d, d < 16 →
    isUpperHexDigit (upperHexDigit d) = true ∧ hexValue (upperHexDigit d) = some d := by
  decide

theorem escapeDigits_spec (b : UInt8) :
    (isUpperHexDigit (upperHexDigit (b.toNat / 16)) = true ∧
        hexValue (upperHexDigit (b.toNat / 16)) = some (b.toNat / 16)) ∧
      (isUpperHexDigit (upperHexDigit (b.toNat % 16)) = true ∧
        hexValue (upperHexDigit (b.toNat % 16)) = some (b.toNat % 16)) := by
  have byte := b.toNat_lt
  exact ⟨upperHexDigit_spec _ (by omega), upperHexDigit_spec _ (by omega)⟩

end Alphabet

section Escaped

theorem Escaped.mem {cs : List Char} (escaped : Escaped cs) {c : Char} (mem : c ∈ cs) :
    isUnreservedChar c = true ∨ c = '%' := by
  induction escaped with
  | nil => simp at mem
  | plain unreserved _ ih =>
    rcases List.mem_cons.mp mem with rfl | later
    · exact .inl unreserved
    · exact ih later
  | escape high low _ ih =>
    simp only [List.mem_cons] at mem
    rcases mem with rfl | rfl | rfl | later
    · exact .inr rfl
    · exact .inl (isUnreservedChar_of_isUpperHexDigit high)
    · exact .inl (isUnreservedChar_of_isUpperHexDigit low)
    · exact ih later

theorem Escaped.not_mem {cs : List Char} (escaped : Escaped cs) {c : Char}
    (reserved : isUnreservedChar c = false) (notPercent : c ≠ '%') : c ∉ cs := by
  intro mem
  rcases escaped.mem mem with unreserved | percent
  · rw [reserved] at unreserved
    exact Bool.false_ne_true unreserved
  · exact notPercent percent

theorem Escaped.percentByte {rest : List Char} (b : UInt8) (escaped : Escaped rest) :
    Escaped (TableSync.percentByte b ++ rest) := by
  unfold TableSync.percentByte
  split
  case isTrue plain => exact .plain (unreservedByte_char plain).1 escaped
  case isFalse =>
    obtain ⟨high, low⟩ := escapeDigits_spec b
    exact .escape high.1 low.1 escaped

theorem percentEncode_escaped (s : String) : Escaped (percentEncode s).toList := by
  rw [percentEncode, String.toList_ofList]
  induction s.toUTF8.toList with
  | nil => exact .nil
  | cons b rest ih => rw [List.flatMap_cons]; exact ih.percentByte b

theorem percentEncode_not_mem (s : String) {c : Char} (reserved : isUnreservedChar c = false)
    (notPercent : c ≠ '%') : c ∉ (percentEncode s).toList :=
  (percentEncode_escaped s).not_mem reserved notPercent

end Escaped

section Decoding

theorem percentDecodeBytes_percentByte (b : UInt8) (rest : List Char) :
    percentDecodeBytes (percentByte b ++ rest) = b :: percentDecodeBytes rest := by
  unfold percentByte
  split
  case isTrue plain =>
    obtain ⟨-, notPercent, single⟩ := unreservedByte_char plain
    rw [List.singleton_append, percentDecodeBytes.eq_2 _ _ fun _ _ _ percent _ => notPercent percent]
    simp [byteArray_toList, List.utf8Encode, single]
  case isFalse =>
    obtain ⟨high, low⟩ := escapeDigits_spec b
    simp only [List.cons_append, List.nil_append, percentDecodeBytes.eq_1, high.2, low.2]
    rw [Nat.div_add_mod']
    simp

theorem percentDecodeBytes_encoded (bytes : List UInt8) (rest : List Char) :
    percentDecodeBytes (bytes.flatMap percentByte ++ rest) = bytes ++ percentDecodeBytes rest := by
  induction bytes with
  | nil => rfl
  | cons b more ih =>
    rw [List.flatMap_cons, List.append_assoc, percentDecodeBytes_percentByte, ih, List.cons_append]

theorem decodedText_percentEncode (s : String) : Url.decodedText (percentEncode s) = some s := by
  have bytes : percentDecodeBytes (percentEncode s).toList = s.toByteArray.data.toList := by
    have read := percentDecodeBytes_encoded s.toUTF8.toList []
    rw [List.append_nil, percentDecodeBytes.eq_3, List.append_nil] at read
    rw [percentEncode, String.toList_ofList, read, String.toUTF8_eq_toByteArray, byteArray_toList]
  rw [Url.decodedText, bytes, Array.toArray_toList, checkUtf8_toByteArray]

theorem percentEncode_injective {s s' : String} (same : percentEncode s = percentEncode s') : s = s' := by
  have decoded := decodedText_percentEncode s
  rw [same, decodedText_percentEncode] at decoded
  exact (Option.some.inj decoded).symm

end Decoding

section Paths

theorem rowPath_eq_intercalate (t r : String) :
    Endpoint.rowPath t r =
      (String.singleton '/').intercalate ["", "api", "now", "table", percentEncode t, percentEncode r] := by
  apply String.toList_inj.mp
  simp [Endpoint.rowPath, Endpoint.tablePath, tableApiPath]

theorem rowPath_segments (t r : String) :
    ((Endpoint.rowPath t r).split '/').toList.map (·.copy) =
      ["", "api", "now", "table", percentEncode t, percentEncode r] := by
  have slashFree : ∀ s ∈ ["", "api", "now", "table", percentEncode t, percentEncode r], '/' ∉ s.toList := by
    simp only [List.mem_cons, List.not_mem_nil, or_false]
    rintro s (rfl | rfl | rfl | rfl | rfl | rfl)
    all_goals first | decide | exact percentEncode_not_mem _ (by decide) (by decide)
  rw [rowPath_eq_intercalate, String.toList_split_intercalate slashFree, if_neg (by simp)]

theorem rowPath_toList (t r : String) :
    (Endpoint.rowPath t r).toList =
      "/api/now/table/".toList ++ (percentEncode t).toList ++ '/' :: (percentEncode r).toList := by
  simp [Endpoint.rowPath, Endpoint.tablePath, tableApiPath]

theorem rowPath_no_query_or_fragment (t r : String) :
    '?' ∉ (Endpoint.rowPath t r).toList ∧ '#' ∉ (Endpoint.rowPath t r).toList := by
  rw [rowPath_toList]
  simp only [List.mem_append, List.mem_cons, not_or]
  exact ⟨⟨⟨by decide, percentEncode_not_mem t (by decide) (by decide)⟩, by decide,
      percentEncode_not_mem r (by decide) (by decide)⟩,
    ⟨⟨by decide, percentEncode_not_mem t (by decide) (by decide)⟩, by decide,
      percentEncode_not_mem r (by decide) (by decide)⟩⟩

theorem rowPath_injective {t r t' r' : String} (same : Endpoint.rowPath t r = Endpoint.rowPath t' r') :
    t = t' ∧ r = r' := by
  have segments := rowPath_segments t r
  rw [same, rowPath_segments] at segments
  simp only [List.cons.injEq, true_and, and_true] at segments
  exact ⟨percentEncode_injective segments.1.symm, percentEncode_injective segments.2.symm⟩

end Paths

section Query

theorem tableReadUrl_of_range (e : Endpoint) (w : FetchWindow) (shown : DisplayValue) {range : DateRange}
    (ranged : w.range = some range) :
    tableReadUrl e w shown =
      tableReadUrl e { w with range := none } shown ++ "&sysparm_query=" ++ percentEncode (dateFilter range) := by
  simp [tableReadUrl, ranged]

theorem queryBreakers_reserved : ∀ c ∈ queryBreakers, isUnreservedChar c = false ∧ c ≠ '%' := by
  -- one character at a time: a `decide` over the whole list recurses too deep once Mathlib's
  -- instances for bounded quantifiers are in scope
  intro c mem
  simp only [queryBreakers, List.mem_cons, List.not_mem_nil, or_false] at mem
  rcases mem with rfl | rfl | rfl | rfl | rfl <;> decide

theorem escaped_no_queryBreakers {cs : List Char} (escaped : Escaped cs) : ∀ c ∈ cs, c ∉ queryBreakers := by
  intro c mem breaker
  obtain ⟨reserved, notPercent⟩ := queryBreakers_reserved c breaker
  exact escaped.not_mem reserved notPercent mem

end Query

/-- Encoded table names, row identifiers and date filters keep their place in a URL and decode
back. -/
theorem encoded_components_stay_in_place (e : Endpoint) (w : FetchWindow) (shown : DisplayValue)
    (t r : String) {range : DateRange} (ranged : w.range = some range) :
    Endpoint.tablePath t = "/api/now/table/" ++ percentEncode t ∧
      Endpoint.rowPath t r = Endpoint.tablePath t ++ "/" ++ percentEncode r ∧
      (∀ s, Escaped (percentEncode s).toList ∧ Url.decodedText (percentEncode s) = some s) ∧
      ((Endpoint.rowPath t r).split '/').toList.map (·.copy) =
        ["", "api", "now", "table", percentEncode t, percentEncode r] ∧
      '?' ∉ (Endpoint.rowPath t r).toList ∧ '#' ∉ (Endpoint.rowPath t r).toList ∧
      (∀ t' r', Endpoint.rowPath t r = Endpoint.rowPath t' r' → t = t' ∧ r = r') ∧
      ∃ query, tableReadUrl e w shown = tableReadUrl e { w with range := none } shown ++ "&sysparm_query=" ++ query ∧
        Escaped query.toList ∧ (∀ c ∈ query.toList, c ∉ queryBreakers) ∧
        Url.decodedText query = some (dateFilter range) := by
  have tablePath : Endpoint.tablePath t = "/api/now/table/" ++ percentEncode t := by
    simp [Endpoint.tablePath, tableApiPath]
  have filter := percentEncode_escaped (dateFilter range)
  obtain ⟨noQuery, noFragment⟩ := rowPath_no_query_or_fragment t r
  refine ⟨tablePath, rfl, fun s => ⟨percentEncode_escaped s, decodedText_percentEncode s⟩,
    rowPath_segments t r, noQuery, noFragment, fun _ _ => rowPath_injective,
    percentEncode (dateFilter range), tableReadUrl_of_range e w shown ranged, filter,
    escaped_no_queryBreakers filter, decodedText_percentEncode _⟩

theorem january_incidents_and_dotted_row_stay_in_place :
    ({ table := "incident", range := some ⟨⟨2024, 1, 1⟩, ⟨2024, 2, 1⟩⟩, offset := 0, limit := 10 } :
        FetchWindow).range = some ⟨⟨2024, 1, 1⟩, ⟨2024, 2, 1⟩⟩ ∧
      Endpoint.tablePath "incident" = "/api/now/table/" ++ percentEncode "incident" ∧
      Endpoint.rowPath "incident" "../sys_user#1" =
        Endpoint.tablePath "incident" ++ "/" ++ percentEncode "../sys_user#1" ∧
      (∀ s, Escaped (percentEncode s).toList ∧ Url.decodedText (percentEncode s) = some s) ∧
      ((Endpoint.rowPath "incident" "../sys_user#1").split '/').toList.map (·.copy) =
        ["", "api", "now", "table", percentEncode "incident", percentEncode "../sys_user#1"] ∧
      '?' ∉ (Endpoint.rowPath "incident" "../sys_user#1").toList ∧
      '#' ∉ (Endpoint.rowPath "incident" "../sys_user#1").toList ∧
      (∀ t' r', Endpoint.rowPath "incident" "../sys_user#1" = Endpoint.rowPath t' r' →
        "incident" = t' ∧ "../sys_user#1" = r') ∧
      ∃ query, tableReadUrl (Endpoint.make "https://dev.service-now.com")
          { table := "incident", range := some ⟨⟨2024, 1, 1⟩, ⟨2024, 2, 1⟩⟩, offset := 0, limit := 10 } .all =
          tableReadUrl (Endpoint.make "https://dev.service-now.com")
            { table := "incident", range := none, offset := 0, limit := 10 } .all ++ "&sysparm_query=" ++ query ∧
        Escaped query.toList ∧ (∀ c ∈ query.toList, c ∉ queryBreakers) ∧
        Url.decodedText query = some (dateFilter ⟨⟨2024, 1, 1⟩, ⟨2024, 2, 1⟩⟩) :=
  ⟨rfl, encoded_components_stay_in_place (Endpoint.make "https://dev.service-now.com")
    { table := "incident", range := some ⟨⟨2024, 1, 1⟩, ⟨2024, 2, 1⟩⟩, offset := 0, limit := 10 } .all
    "incident" "../sys_user#1" rfl⟩

end TableSync
