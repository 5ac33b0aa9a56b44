import ClusterAccess.Proofs.Text.Utf8
import ClusterAccess.Text.Decimal

/-!
Reading the form encoding. A plus sign is a space, a percent sign stands before two hexadecimal
digits, and every other character is itself; the bytes are then read as UTF-8. What has been
encoded is made of few characters, and is read back as it was.
-/

namespace ClusterAccess.Text.Form

/-- The bytes that the characters stand for. -/
def bytes? : List Char → Option (List UInt8)
  | [] => some []
  | '%' :: high :: low :: rest => do
    let byte := 16 * (← hexValue? high) + (← hexValue? low)
    return UInt8.ofNat byte :: (← bytes? rest)
  | c :: rest => do
    if c = '%' then none
    else if c = '+' then return 0x20 :: (← bytes? rest)
    else return Utf8.encode [c] ++ (← bytes? rest)

def decode? (cs : List Char) : Option String := (bytes? cs).bind Utf8.text?

def isFormChar (c : Char) : Bool :=
  c.isAlphanum || c = '*' || c = '-' || c = '.' || c = '_' || c = '+' || c = '%'

variable {b : UInt8} {n : Nat} {c : Char} {rest : List Char}

/-! ### Single bytes -/

theorem bytes?_percent {high low : Char} (hhigh : hexValue? high = some (n / 16))
    (hlow : hexValue? low = some (n % 16)) :
    bytes? ('%' :: high :: low :: rest) = (UInt8.ofNat n :: ·) <$> bytes? rest := by
  have hbyte : 16 * (n / 16) + n % 16 = n := by omega
  simp only [bytes?, hhigh, hlow, Option.bind_eq_bind, Option.bind_some, hbyte]
  cases bytes? rest <;> rfl

theorem bytes?_plus : bytes? ('+' :: rest) = (0x20 :: ·) <$> bytes? rest := by
  cases hrest : bytes? rest <;> simp [bytes?, hrest]

theorem bytes?_itself (hpercent : c ≠ '%') (hplus : c ≠ '+') :
    bytes? (c :: rest) = (Utf8.encode [c] ++ ·) <$> bytes? rest := by
  cases hrest : bytes? rest <;> simp [bytes?, hpercent, hplus, hrest]

theorem hexValue?_hexDigit (hn : n < 16) : hexValue? (hexDigit n) = some n := by
  have hall : ∀ n < 16, hexValue? (hexDigit n) = some n := by decide
  exact hall n hn

theorem plain_byte (hplain : isPlain b = true) :
    Char.ofNat b.toNat ≠ '%' ∧ Char.ofNat b.toNat ≠ '+' ∧
      Utf8.encode [Char.ofNat b.toNat] = [b] := by
  have hall : ∀ n < 256, isPlain (UInt8.ofNat n) = true →
      Char.ofNat n ≠ '%' ∧ Char.ofNat n ≠ '+' ∧
        Utf8.encode [Char.ofNat n] = [UInt8.ofNat n] := by decide +kernel
  have hb := hall b.toNat b.toNat_lt
  rw [UInt8.ofNat_toNat] at hb
  exact hb hplain

theorem bytes?_encodeByte : bytes? (encodeByte b ++ rest) = (b :: ·) <$> bytes? rest := by
  have hlt : b.toNat < 256 := b.toNat_lt
  unfold encodeByte
  split
  next hplain =>
    obtain ⟨hpercent, hplus, hbyte⟩ := plain_byte hplain
    rw [List.singleton_append, bytes?_itself hpercent hplus, hbyte]
    rfl
  next =>
    split
    next hspace =>
      subst hspace
      exact bytes?_plus
    next =>
      have hhigh := hexValue?_hexDigit (n := b.toNat / 16) (by omega)
      have hlow := hexValue?_hexDigit (n := b.toNat % 16) (by omega)
      rw [List.cons_append, List.cons_append, List.cons_append, List.nil_append,
        bytes?_percent hhigh hlow, UInt8.ofNat_toNat]

/-! ### Texts -/

theorem bytes?_encode (bytes : List UInt8) : bytes? (bytes.flatMap encodeByte) = some bytes := by
  induction bytes with
  | nil => rfl
  | cons b bytes ih =>
      rw [List.flatMap_cons, bytes?_encodeByte, ih]
      rfl

theorem decode?_encode (s : String) : decode? (encode s).toList = some s := by
  rw [encode, String.toList_ofList, decode?, bytes?_encode]
  exact Utf8.text?_encode s

theorem isFormChar_encodeByte (hc : c ∈ encodeByte b) : isFormChar c = true := by
  have hall :
      (List.range 256).all (fun n => (encodeByte (UInt8.ofNat n)).all isFormChar) = true := by
    decide +kernel
  have hb := List.all_eq_true.mp hall b.toNat (List.mem_range.mpr b.toNat_lt)
  rw [UInt8.ofNat_toNat] at hb
  exact List.all_eq_true.mp hb c hc

theorem isFormChar_encode {s : String} (hc : c ∈ (encode s).toList) : isFormChar c = true := by
  rw [encode, String.toList_ofList] at hc
  obtain ⟨b, -, hb⟩ := List.mem_flatMap.mp hc
  exact isFormChar_encodeByte hb

end ClusterAccess.Text.Form
