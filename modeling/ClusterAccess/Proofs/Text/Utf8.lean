import ClusterAccess.Text.Utf8

/-!
Decoding undoes encoding. The bytes of each character are read back as that character, whatever
follows them.
-/

namespace ClusterAccess.Text.Utf8

variable {n index : Nat} {rest : List UInt8}

/-! ### First bytes -/

theorem lead_of_two (hn : n < 32) (hlong : 2 ≤ n) :
    lead (UInt8.ofNat (n + 192)) = some (1, 0x80, 0xBF) := by
  have hall : ∀ n < 32, 2 ≤ n → lead (UInt8.ofNat (n + 192)) = some (1, 0x80, 0xBF) := by decide
  exact hall n hn hlong

theorem lead_of_three (hn : n < 16) :
    lead (UInt8.ofNat (n + 224)) =
      some (2, if n = 0 then 0xA0 else 0x80, if n = 13 then 0x9F else 0xBF) := by
  have hall : ∀ n < 16, lead (UInt8.ofNat (n + 224)) =
      some (2, if n = 0 then 0xA0 else 0x80, if n = 13 then 0x9F else 0xBF) := by decide
  exact hall n hn

theorem lead_of_four (hn : n < 5) :
    lead (UInt8.ofNat (n + 240)) =
      some (3, if n = 0 then 0x90 else 0x80, if n = 4 then 0x8F else 0xBF) := by
  have hall : ∀ n < 5, lead (UInt8.ofNat (n + 240)) =
      some (3, if n = 0 then 0x90 else 0x80, if n = 4 then 0x8F else 0xBF) := by decide
  exact hall n hn

theorem not_ascii (hn : n < 256) (hhigh : 128 ≤ n) : ¬ UInt8.ofNat n < 0x80 := by
  rw [UInt8.lt_iff_toNat_lt, UInt8.toNat_ofNat_of_lt' hn]
  show ¬ n < 128
  omega

/-! ### Other bytes -/

theorem toNat_tail (hn : n < 64) : (UInt8.ofNat (n + 128)).toNat = n + 128 :=
  UInt8.toNat_ofNat_of_lt' (by show n + 128 < 256; omega)

theorem isTail_tail (hn : n < 64) : isTail (UInt8.ofNat (n + 128)) = true := by
  have hall : ∀ n < 64, isTail (UInt8.ofNat (n + 128)) = true := by decide
  exact hall n hn

theorem low_tail (hn : n < 64) : low (UInt8.ofNat (n + 128)) = n := by
  rw [low, toNat_tail hn]
  omega

/-- A second byte keeps bounds if the number that it carries does. -/
theorem between_tail {least most : UInt8} (hn : n < 64) (hleast : least.toNat ≤ n + 128)
    (hmost : n + 128 ≤ most.toNat) :
    (UInt8.ofNat (n + 128) < least || most < UInt8.ofNat (n + 128)) = false := by
  rw [Bool.or_eq_false_iff, decide_eq_false_iff_not, decide_eq_false_iff_not,
    UInt8.lt_iff_toNat_lt, UInt8.lt_iff_toNat_lt, toNat_tail hn]
  omega

/-! ### Sequences of bytes -/

theorem decodeFrom_one {a : UInt8} (ha : a < 0x80) :
    decodeFrom index (a :: rest) =
      (Char.ofNat a.toNat :: ·) <$> decodeFrom (index + 1) rest := by
  rw [decodeFrom, if_pos ha]

theorem decodeFrom_two {a b least most : UInt8} (ha : ¬ a < 0x80)
    (hlead : lead a = some (1, least, most)) (hb : (b < least || most < b) = false) :
    decodeFrom index (a :: b :: rest) =
      (Char.ofNat (a.toNat % 32 * 64 + low b) :: ·) <$> decodeFrom (index + 2) rest := by
  rw [decodeFrom, if_neg ha, hlead]
  simp [hb]

theorem decodeFrom_three {a b c least most : UInt8} (ha : ¬ a < 0x80)
    (hlead : lead a = some (2, least, most)) (hb : (b < least || most < b) = false)
    (hc : isTail c = true) :
    decodeFrom index (a :: b :: c :: rest) =
      (Char.ofNat ((a.toNat % 16 * 64 + low b) * 64 + low c) :: ·) <$>
        decodeFrom (index + 3) rest := by
  rw [decodeFrom, if_neg ha, hlead]
  simp [hb, hc]

theorem decodeFrom_four {a b c d least most : UInt8} (ha : ¬ a < 0x80)
    (hlead : lead a = some (3, least, most)) (hb : (b < least || most < b) = false)
    (hc : isTail c = true) (hd : isTail d = true) :
    decodeFrom index (a :: b :: c :: d :: rest) =
      (Char.ofNat (((a.toNat % 8 * 64 + low b) * 64 + low c) * 64 + low d) :: ·) <$>
        decodeFrom (index + 4) rest := by
  rw [decodeFrom, if_neg ha, hlead]
  simp [hb, hc, hd]

/-! ### Characters

The number of a character is taken apart into six bits for each byte but the first, and what is
left of it for the first one. Each of the written forms puts such a number together again. -/

theorem read_two_bytes {v : Nat} (hlong : 127 < v) (hv : v ≤ 2047) :
    decodeFrom index (UInt8.ofNat (v / 64 % 32 + 192) :: UInt8.ofNat (v % 64 + 128) :: rest) =
      (Char.ofNat v :: ·) <$> decodeFrom (index + 2) rest := by
  have hbyte : (UInt8.ofNat (v / 64 % 32 + 192)).toNat = v / 64 % 32 + 192 :=
    UInt8.toNat_ofNat_of_lt' (by show v / 64 % 32 + 192 < 256; omega)
  have hvalue : (v / 64 % 32 + 192) % 32 * 64 + v % 64 = v := by omega
  have hbetween : (UInt8.ofNat (v % 64 + 128) < 0x80 || 0xBF < UInt8.ofNat (v % 64 + 128)) =
      false := by
    refine between_tail (by omega) ?_ ?_
    · show 128 ≤ v % 64 + 128
      omega
    · show v % 64 + 128 ≤ 191
      omega
  rw [decodeFrom_two (not_ascii (by omega) (by omega)) (lead_of_two (by omega) (by omega)) hbetween,
    hbyte, low_tail (by omega), hvalue]

theorem read_three_bytes {v : Nat} (hlong : 2047 < v) (hv : v ≤ 65535)
    (hvalid : v < 0xD800 ∨ 0xDFFF < v) :
    decodeFrom index (UInt8.ofNat (v / 4096 % 16 + 224) :: UInt8.ofNat (v / 64 % 64 + 128) ::
        UInt8.ofNat (v % 64 + 128) :: rest) =
      (Char.ofNat v :: ·) <$> decodeFrom (index + 3) rest := by
  have hbyte : (UInt8.ofNat (v / 4096 % 16 + 224)).toNat = v / 4096 % 16 + 224 :=
    UInt8.toNat_ofNat_of_lt' (by show v / 4096 % 16 + 224 < 256; omega)
  have hvalue : ((v / 4096 % 16 + 224) % 16 * 64 + v / 64 % 64) * 64 + v % 64 = v := by omega
  -- The bounds of the second byte leave out what is written shorter, and the surrogates.
  rw [decodeFrom_three (not_ascii (by omega) (by omega)) (lead_of_three (by omega))
    (between_tail (by omega) ?_ ?_) (isTail_tail (by omega)), hbyte, low_tail (by omega),
    low_tail (by omega), hvalue]
  · split
    · show 160 ≤ v / 64 % 64 + 128
      omega
    · show 128 ≤ v / 64 % 64 + 128
      omega
  · split
    · show v / 64 % 64 + 128 ≤ 159
      omega
    · show v / 64 % 64 + 128 ≤ 191
      omega

theorem read_four_bytes {v : Nat} (hlong : 65535 < v) (hv : v < 0x110000) :
    decodeFrom index (UInt8.ofNat (v / 262144 % 8 + 240) :: UInt8.ofNat (v / 4096 % 64 + 128) ::
        UInt8.ofNat (v / 64 % 64 + 128) :: UInt8.ofNat (v % 64 + 128) :: rest) =
      (Char.ofNat v :: ·) <$> decodeFrom (index + 4) rest := by
  have hbyte : (UInt8.ofNat (v / 262144 % 8 + 240)).toNat = v / 262144 % 8 + 240 :=
    UInt8.toNat_ofNat_of_lt' (by show v / 262144 % 8 + 240 < 256; omega)
  have hvalue : (((v / 262144 % 8 + 240) % 8 * 64 + v / 4096 % 64) * 64 + v / 64 % 64) * 64 +
      v % 64 = v := by omega
  -- The bounds of the second byte leave out what is written shorter, and what is no character.
  rw [decodeFrom_four (not_ascii (by omega) (by omega)) (lead_of_four (by omega))
    (between_tail (by omega) ?_ ?_) (isTail_tail (by omega)) (isTail_tail (by omega)), hbyte,
    low_tail (by omega), low_tail (by omega), low_tail (by omega), hvalue]
  · split
    · show 144 ≤ v / 4096 % 64 + 128
      omega
    · show 128 ≤ v / 4096 % 64 + 128
      omega
  · split
    · show v / 4096 % 64 + 128 ≤ 143
      omega
    · show v / 4096 % 64 + 128 ≤ 191
      omega

theorem decodeFrom_encodeChar (c : Char) :
    decodeFrom index (String.utf8EncodeChar c ++ rest) =
      (c :: ·) <$> decodeFrom (index + (String.utf8EncodeChar c).length) rest := by
  have hvalid : c.val.toNat < 0xD800 ∨ 0xDFFF < c.val.toNat ∧ c.val.toNat < 0x110000 := c.valid
  have hc : Char.ofNat c.val.toNat = c := Char.ofNat_toNat c
  unfold String.utf8EncodeChar
  generalize c.val.toNat = v at hvalid hc
  subst hc
  by_cases hone : v ≤ 127
  · have hbyte : (UInt8.ofNat v).toNat = v :=
      UInt8.toNat_ofNat_of_lt' (by show v < 256; omega)
    have hascii : UInt8.ofNat v < 0x80 := by
      rw [UInt8.lt_iff_toNat_lt, hbyte]
      show v < 128
      omega
    simp only [if_pos hone]
    exact (decodeFrom_one hascii).trans (by rw [hbyte]; rfl)
  · by_cases htwo : v ≤ 2047
    · simp only [if_neg hone, if_pos htwo]
      exact read_two_bytes (by omega) htwo
    · by_cases hthree : v ≤ 65535
      · simp only [if_neg hone, if_neg htwo, if_pos hthree]
        exact read_three_bytes (by omega) hthree (by omega)
      · simp only [if_neg hone, if_neg htwo, if_neg hthree]
        exact read_four_bytes (by omega) (by omega)

theorem decodeFrom_encode (cs : List Char) : decodeFrom index (encode cs) = .ok cs := by
  induction cs generalizing index with
  | nil => rw [encode, List.flatMap_nil, decodeFrom]
  | cons c cs ih =>
      rw [encode, List.flatMap_cons, decodeFrom_encodeChar]
      exact congrArg ((c :: ·) <$> ·) ih

theorem decode_encode (cs : List Char) : decode (encode cs) = .ok cs := decodeFrom_encode cs

/-- ASCII bytes are characters by themselves. -/
theorem decodeFrom_of_ascii {bytes : List UInt8} (h : ∀ b ∈ bytes, b < 0x80) :
    decodeFrom index bytes = .ok (bytes.map fun b => Char.ofNat b.toNat) := by
  induction bytes generalizing index with
  | nil => rw [decodeFrom, List.map_nil]
  | cons b bytes ih =>
      rw [List.forall_mem_cons] at h
      rw [decodeFrom_one h.1, ih h.2]
      rfl

/-- ASCII characters are bytes by themselves. -/
theorem encode_of_ascii {cs : List Char} (h : ∀ c ∈ cs, c.toNat < 128) :
    encode cs = cs.map fun c => UInt8.ofNat c.toNat := by
  induction cs with
  | nil => rfl
  | cons c cs ih =>
      rw [List.forall_mem_cons] at h
      have hbyte : String.utf8EncodeChar c = [UInt8.ofNat c.toNat] := by
        have hc : c.val.toNat ≤ 127 := Nat.le_of_lt_succ h.1
        unfold String.utf8EncodeChar
        rw [if_pos hc]
        rfl
      rw [List.map_cons, ← ih h.2, encode, List.flatMap_cons, hbyte]
      rfl

theorem encode_map_ofNat {bytes : List UInt8} (h : ∀ b ∈ bytes, b < 0x80) :
    encode (bytes.map fun b => Char.ofNat b.toNat) = bytes := by
  have hall : ∀ n < 128, (Char.ofNat n).toNat = n := by decide
  have hchar : ∀ b ∈ bytes, (Char.ofNat b.toNat).toNat = b.toNat :=
    fun b hb => hall b.toNat (UInt8.lt_iff_toNat_lt.mp (h b hb))
  rw [encode_of_ascii, List.map_map]
  · have hback : ∀ b ∈ bytes, UInt8.ofNat (Char.ofNat b.toNat).toNat = id b := by
      intro b hb
      rw [hchar b hb, UInt8.ofNat_toNat]
      rfl
    exact (List.map_congr_left hback).trans (List.map_id bytes)
  · rw [List.forall_mem_map]
    intro b hb
    rw [hchar b hb]
    exact UInt8.lt_iff_toNat_lt.mp (h b hb)

theorem ascii_of_encode {cs : List Char} (h : ∀ b ∈ encode cs, b < 0x80) :
    ∀ c ∈ cs, c.toNat < 128 := by
  have hdecode := decode_encode cs
  rw [decode, decodeFrom_of_ascii h] at hdecode
  intro c hc
  rw [← Except.ok.inj hdecode] at hc
  obtain ⟨b, hb, rfl⟩ := List.mem_map.mp hc
  have hall : ∀ n < 128, (Char.ofNat n).toNat < 128 := by decide
  exact hall b.toNat (UInt8.lt_iff_toNat_lt.mp (h b hb))

theorem encode_append (cs later : List Char) :
    encode (cs ++ later) = encode cs ++ encode later := List.flatMap_append

theorem text?_encode (s : String) : text? (encode s.toList) = some s := by
  rw [text?, decode_encode]
  exact congrArg some String.ofList_toList

end ClusterAccess.Text.Utf8
