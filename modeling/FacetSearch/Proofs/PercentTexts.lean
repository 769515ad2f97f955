import FacetSearch.Text.Percent
/-!
# Texts written by their codes

What is written with the codes of its bytes is read back (`Percent.decode_encode`), also if the marks that are kept are
replaced by others afterwards, except that these are read then (`Percent.decode_map_encode`). The bytes of a character have
one of four forms (`Utf8.Encodes`, `Percent.encodes_bytesOf`), each of which is decoded to the character again, whatever
bytes follow (`Utf8.decode_encoded`). Nothing else is left in an encoded text than characters that stand for themselves, and
percent signs (`Percent.mem_encode`).
-/

namespace FacetSearch

/-! ## Bytes of characters -/

namespace Utf8

/-- The bytes of a code: as it is, or in groups of six bits behind a first byte that says how many there are. Halves of
pairs have no bytes. -/
inductive Encodes : Nat → List Nat → Prop
  | one {n : Nat} (hn : n < 0x80) : Encodes n [n]
  | two {n : Nat} (hlow : 0x80 ≤ n) (hhigh : n < 0x800) : Encodes n [0xC0 + n / 0x40, 0x80 + n % 0x40]
  | three {n : Nat} (hlow : 0x800 ≤ n) (hhigh : n < 0x10000) (hhalf : n < 0xD800 ∨ 0xDFFF < n) :
    Encodes n [0xE0 + n / 0x1000, 0x80 + n / 0x40 % 0x40, 0x80 + n % 0x40]
  | four {n : Nat} (hlow : 0x10000 ≤ n) (hhigh : n < 0x110000) :
    Encodes n [0xF0 + n / 0x40000, 0x80 + n / 0x1000 % 0x40, 0x80 + n / 0x40 % 0x40, 0x80 + n % 0x40]

theorem Encodes.lt {n : Nat} {encoded : List Nat} (h : Encodes n encoded) : ∀ b ∈ encoded, b < 256 := by
  cases h <;> simp only [List.forall_mem_cons, List.not_mem_nil, false_implies, implies_true, and_true] <;> omega

theorem tail_continued {cs : List Nat} (h : ∀ c ∈ cs, 0x80 ≤ c ∧ c ≤ 0xBF) (bs : List Nat) :
    tail (0x80, 0xBF) cs.length (cs ++ bs) = cs := by
  induction cs with
  | nil => simp only [tail, List.length_nil]
  | cons c cs ih =>
    obtain ⟨hc, hcs⟩ := List.forall_mem_cons.1 h
    simp only [List.length_cons, List.cons_append, tail]
    rw [if_pos hc, ih hcs]

theorem decode_narrow {b : Nat} (hb : b < 0x80) (bs : List Nat) : decode (b :: bs) = Char.ofNat b :: decode bs := by
  have hfollowing : following b = 0 := by
    unfold following
    rw [if_neg (by omega), if_neg (by omega), if_neg (by omega)]
  rw [decode, hfollowing]
  simp only [tail, if_pos hb, List.length_nil, List.drop_zero]

/-- As many bytes as the first one asks for, each in its range, are taken together. -/
theorem decode_wide {b c : Nat} {cs : List Nat} (hb : 0x80 ≤ b) (hfollowing : following b = (c :: cs).length)
    (hc : (secondRange b).1 ≤ c ∧ c ≤ (secondRange b).2) (hcs : ∀ d ∈ cs, 0x80 ≤ d ∧ d ≤ 0xBF)
    (bs : List Nat) : decode (b :: c :: cs ++ bs) = Char.ofNat (code b (c :: cs)) :: decode bs := by
  have htail : tail (secondRange b) (following b) (c :: cs ++ bs) = c :: cs := by
    rw [hfollowing, List.length_cons, List.cons_append, tail, if_pos hc, tail_continued hcs]
  rw [List.cons_append, decode, htail]
  simp only [if_neg (Nat.not_lt.2 hb), hfollowing, List.length_cons, Nat.succ_pos, and_self, if_true,
    List.cons_append, List.drop_succ_cons, List.drop_left]

theorem continued_mod (n : Nat) : 0x80 ≤ 0x80 + n % 0x40 ∧ 0x80 + n % 0x40 ≤ 0xBF := by
  omega

/-- The bytes of a code are read as its character, whatever follows them. -/
theorem decode_encoded {n : Nat} {encoded : List Nat} (h : Encodes n encoded) (bs : List Nat) :
    decode (encoded ++ bs) = Char.ofNat n :: decode bs := by
  cases h with
  | one hn => exact decode_narrow hn bs
  | two hlow hhigh =>
    have hfollowing : following (0xC0 + n / 0x40) = 1 := by
      unfold following
      rw [if_pos (by omega)]
    have hsecond : secondRange (0xC0 + n / 0x40) = (0x80, 0xBF) := by
      unfold secondRange
      rw [if_neg (by omega), if_neg (by omega), if_neg (by omega), if_neg (by omega)]
    have hcode : code (0xC0 + n / 0x40) [0x80 + n % 0x40] = n := by
      simp only [code, leadBits, List.foldl_cons, List.foldl_nil]
      rw [if_pos (by omega)]
      omega
    rw [decode_wide (by omega) hfollowing (by rw [hsecond]; exact continued_mod n) (by simp), hcode]
  | three hlow hhigh hhalf =>
    have hfollowing : following (0xE0 + n / 0x1000) = 2 := by
      unfold following
      rw [if_neg (by omega), if_pos (by omega)]
    -- behind its least first byte a code of two bytes is kept out, behind another one halves of pairs are
    have hsecond : (secondRange (0xE0 + n / 0x1000)).1 ≤ 0x80 + n / 0x40 % 0x40 ∧
        0x80 + n / 0x40 % 0x40 ≤ (secondRange (0xE0 + n / 0x1000)).2 := by
      unfold secondRange
      repeat' split
      all_goals dsimp only
      all_goals omega
    have hcode : code (0xE0 + n / 0x1000) [0x80 + n / 0x40 % 0x40, 0x80 + n % 0x40] = n := by
      simp only [code, leadBits, List.foldl_cons, List.foldl_nil]
      rw [if_neg (by omega), if_pos (by omega)]
      omega
    rw [decode_wide (by omega) hfollowing hsecond (List.forall_mem_singleton.2 (continued_mod n)), hcode]
  | four hlow hhigh =>
    have hfollowing : following (0xF0 + n / 0x40000) = 3 := by
      unfold following
      rw [if_neg (by omega), if_neg (by omega), if_pos (by omega)]
    -- behind the least first byte a code of three bytes is kept out, behind the greatest one no character is left
    have hsecond : (secondRange (0xF0 + n / 0x40000)).1 ≤ 0x80 + n / 0x1000 % 0x40 ∧
        0x80 + n / 0x1000 % 0x40 ≤ (secondRange (0xF0 + n / 0x40000)).2 := by
      unfold secondRange
      repeat' split
      all_goals dsimp only
      all_goals omega
    have hcode : code (0xF0 + n / 0x40000) [0x80 + n / 0x1000 % 0x40, 0x80 + n / 0x40 % 0x40, 0x80 + n % 0x40] = n := by
      simp only [code, leadBits, List.foldl_cons, List.foldl_nil]
      rw [if_neg (by omega), if_neg (by omega)]
      omega
    have hcontinued : ∀ c ∈ [0x80 + n / 0x40 % 0x40, 0x80 + n % 0x40], 0x80 ≤ c ∧ c ≤ 0xBF :=
      List.forall_mem_cons.2 ⟨continued_mod (n / 0x40), List.forall_mem_singleton.2 (continued_mod n)⟩
    rw [decode_wide (by omega) hfollowing hsecond hcontinued, hcode]

end Utf8

namespace Percent

theorem toList_loop (bs : ByteArray) (i : Nat) (seen : List UInt8) :
    ByteArray.toList.loop bs i seen = seen.reverse ++ bs.data.toList.drop i := by
  fun_induction ByteArray.toList.loop bs i seen with
  | case1 i seen hi ih =>
    have hlength : i < bs.data.toList.length := hi
    have hget : bs.get! i = bs.data.toList[i] := getElem!_pos bs.data i hi
    rw [ih, List.drop_eq_getElem_cons hlength, hget, List.reverse_cons, List.append_assoc, List.singleton_append]
  | case2 i seen hi => rw [List.drop_eq_nil_of_le (Nat.not_lt.1 hi), List.append_nil]

theorem bytesOf_eq (c : Char) : bytesOf c = (String.utf8EncodeChar c).map UInt8.toNat := by
  have hbytes : (String.singleton c).toUTF8 = (String.utf8EncodeChar c).toByteArray := by
    rw [← List.utf8Encode_singleton]
    simp
  rw [bytesOf, hbytes, ByteArray.toList, toList_loop, List.toList_data_toByteArray]
  rfl

theorem encodes_bytesOf (c : Char) : Utf8.Encodes c.toNat (bytesOf c) := by
  have hvalid : c.toNat < 0xD800 ∨ 0xDFFF < c.toNat ∧ c.toNat < 0x110000 := c.valid
  have hval : c.val.toNat = c.toNat := rfl
  have hcontinued (n : Nat) : (n % 64 + 128) % 2 ^ 8 = 0x80 + n % 0x40 := by omega
  rw [bytesOf_eq, String.utf8EncodeChar]
  simp only [hval]
  split
  · have hbyte : c.toNat % 2 ^ 8 = c.toNat := by omega
    rw [List.map_singleton, UInt8.toNat_ofNat', hbyte]
    exact .one (by omega)
  split
  · have hlead : (c.toNat / 64 % 32 + 192) % 2 ^ 8 = 0xC0 + c.toNat / 0x40 := by omega
    simp only [List.map_cons, List.map_nil, UInt8.toNat_ofNat', hcontinued, hlead]
    exact .two (by omega) (by omega)
  split
  · have hlead : (c.toNat / 4096 % 16 + 224) % 2 ^ 8 = 0xE0 + c.toNat / 0x1000 := by omega
    simp only [List.map_cons, List.map_nil, UInt8.toNat_ofNat', hcontinued, hlead]
    exact .three (by omega) (by omega) (by omega)
  · have hlead : (c.toNat / 262144 % 8 + 240) % 2 ^ 8 = 0xF0 + c.toNat / 0x40000 := by omega
    simp only [List.map_cons, List.map_nil, UInt8.toNat_ofNat', hcontinued, hlead]
    exact .four (by omega) (by omega)

theorem decode_bytesOf (cs : List Char) : Utf8.decode (cs.flatMap bytesOf) = cs := by
  induction cs with
  | nil => rw [List.flatMap_nil, Utf8.decode]
  | cons c cs ih => rw [List.flatMap_cons, Utf8.decode_encoded (encodes_bytesOf c), ih, Char.ofNat_toNat]

/-! ## Codes after percent signs -/

theorem hexValue?_toUpper : ∀ n < 16, hexValue? (Nat.digitChar n).toUpper = some n := by decide

theorem isPlain_toUpper : ∀ n < 16, isPlain (Nat.digitChar n).toUpper = true := by decide

theorem escape_eq (b : Nat) :
    escape b = ['%', (Nat.digitChar (b / 16 % 16)).toUpper, (Nat.digitChar (b % 16)).toUpper] := rfl

theorem bytes_escape {b : Nat} (hb : b < 256) (cs : List Char) : bytes (escape b ++ cs) = b :: bytes cs := by
  have hhigh := hexValue?_toUpper (b / 16 % 16) (Nat.mod_lt _ (by decide))
  have hlow := hexValue?_toUpper (b % 16) (Nat.mod_lt _ (by decide))
  have hvalue : 16 * (b / 16 % 16) + b % 16 = b := by omega
  simp only [escape_eq, List.cons_append, List.nil_append, bytes, hhigh, hlow, hvalue]

theorem bytes_escapes {bs : List Nat} (h : ∀ b ∈ bs, b < 256) (cs : List Char) :
    bytes (bs.flatMap escape ++ cs) = bs ++ bytes cs := by
  induction bs with
  | nil => rfl
  | cons b bs ih =>
    obtain ⟨hb, hbs⟩ := List.forall_mem_cons.1 h
    rw [List.flatMap_cons, List.append_assoc, bytes_escape hb, ih hbs, List.cons_append]

theorem bytes_cons {c : Char} (h : c ≠ '%') (cs : List Char) : bytes (c :: cs) = bytesOf c ++ bytes cs := by
  rw [bytes]
  rintro a b rest rfl -
  exact h rfl

theorem mem_escape {b : Nat} {c : Char} (h : c ∈ escape b) : isPlain c = true ∨ c = '%' := by
  rw [escape_eq] at h
  simp only [List.mem_cons, List.not_mem_nil, or_false] at h
  rcases h with rfl | rfl | rfl
  · exact .inr rfl
  · exact .inl (isPlain_toUpper _ (Nat.mod_lt _ (by decide)))
  · exact .inl (isPlain_toUpper _ (Nat.mod_lt _ (by decide)))

/-! ## Encoded texts -/

section

variable {marks : List Char} {c : Char}

theorem encode_cons (cs : List Char) : encode marks (c :: cs) = encode marks [c] ++ encode marks cs := by
  simp only [encode, List.flatMap_cons, List.flatMap_nil, List.append_nil]

theorem encode_kept (h : isPlain c = true ∨ c ∈ marks) : encode marks [c] = [c] := by
  have hkept : (isPlain c || marks.contains c) = true := by simpa using h
  rw [encode, List.flatMap_singleton, if_pos hkept]

theorem encode_escaped (hplain : ¬isPlain c = true) (hmarks : c ∉ marks) :
    encode marks [c] = (bytesOf c).flatMap escape := by
  have hescaped : ¬(isPlain c || marks.contains c) = true := by simpa using And.intro hplain hmarks
  rw [encode, List.flatMap_singleton, if_neg hescaped]

/-- An encoded text holds plain characters, marks that are kept, and percent signs. -/
theorem mem_encode {cs : List Char} (h : c ∈ encode marks cs) : isPlain c = true ∨ c ∈ marks ∨ c = '%' := by
  obtain ⟨d, -, h⟩ := List.mem_flatMap.1 h
  split at h
  · rename_i hkept
    obtain rfl := List.mem_singleton.1 h
    rcases Bool.or_eq_true_iff.1 hkept with hplain | hmark
    · exact .inl hplain
    · exact .inr (.inl (List.contains_iff_mem.1 hmark))
  · obtain ⟨b, -, hb⟩ := List.mem_flatMap.1 h
    rcases mem_escape hb with hplain | hpercent
    · exact .inl hplain
    · exact .inr (.inr hpercent)

end

/-- The function replaces marks only, and none of them by a percent sign. -/
structure Replaces (marks : List Char) (f : Char → Char) : Prop where
  mark : ∀ c ∈ marks, f c ≠ '%'
  plain : ∀ c, isPlain c = true ∨ c = '%' → f c = c
  other : ∀ c, c ∉ marks → f c = c

section

variable {marks : List Char} {f : Char → Char} (hf : Replaces marks f)

include hf

/-- What is written for a character is read as the bytes of the character, or of what replaces it. -/
theorem bytes_encode_singleton (c : Char) (rest : List Char) :
    bytes ((encode marks [c]).map f ++ rest) = bytesOf (f c) ++ bytes rest := by
  by_cases hkept : isPlain c = true ∨ c ∈ marks
  · have hpercent : f c ≠ '%' := by
      rcases hkept with hplain | hmark
      · rw [hf.plain c (.inl hplain)]
        rintro rfl
        cases hplain
      · exact hf.mark c hmark
    rw [encode_kept hkept]
    exact bytes_cons hpercent rest
  · obtain ⟨hplain, hmark⟩ := not_or.1 hkept
    -- the codes themselves are left alone
    have hescapes : ((bytesOf c).flatMap escape).map f = (bytesOf c).flatMap escape := by
      rw [List.map_congr_left (g := id), List.map_id]
      intro d hd
      obtain ⟨b, -, hb⟩ := List.mem_flatMap.1 hd
      exact hf.plain d (mem_escape hb)
    rw [encode_escaped hplain hmark, hescapes, hf.other c hmark,
      bytes_escapes (encodes_bytesOf c).lt]

theorem bytes_map_encode (cs : List Char) : bytes ((encode marks cs).map f) = (cs.map f).flatMap bytesOf := by
  induction cs with
  | nil => rfl
  | cons c cs ih =>
    rw [encode_cons, List.map_append, bytes_encode_singleton hf, ih, List.map_cons, List.flatMap_cons]

/-- An encoded text whose marks are replaced is read as the text with its marks replaced. -/
theorem decode_map_encode (cs : List Char) : decode ((encode marks cs).map f) = cs.map f := by
  rw [decode, bytes_map_encode hf, decode_bytesOf]

end

/-- An encoded text is read as the text. -/
theorem decode_encode {marks : List Char} (h : '%' ∉ marks) (cs : List Char) : decode (encode marks cs) = cs := by
  have hid : Replaces marks id := ⟨fun _ hc he => h (he ▸ hc), fun _ _ => rfl, fun _ _ => rfl⟩
  simpa using decode_map_encode hid cs

end Percent

end FacetSearch
