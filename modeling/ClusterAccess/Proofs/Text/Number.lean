import ClusterAccess.Text.Number
import Mathlib.Data.Nat.Digits.Defs
import Mathlib.Data.List.Basic

/-!
The texts that are read as a number. They are its decimal digits behind any number of zeros, with or
without a plus sign in front. A number above the limit has none, because what has been read of its
digits never gets smaller again.
-/

namespace ClusterAccess.Text

/-- The characters are the digits of the number behind any number of zeros. -/
def WritesDigits (n : Nat) (cs : List Char) : Prop :=
  ∃ zeros, cs = List.replicate zeros '0' ++ Nat.toDigits 10 n

def WritesNumber (n : Nat) (text : String) : Prop :=
  WritesDigits n text.toList ∨ ∃ digits, text.toList = '+' :: digits ∧ WritesDigits n digits

variable {limit n m : Nat} {c : Char} {cs : List Char}

/-! ### Digits -/

def digitOf (c : Char) : Nat := c.toNat - '0'.toNat

theorem le_ofDigitChars (n : Nat) (cs : List Char) : n ≤ Nat.ofDigitChars 10 cs n := by
  induction cs generalizing n with
  | nil => exact Nat.le_refl n
  | cons c cs ih =>
      have hrest := ih (10 * n + digitOf c)
      rw [Nat.ofDigitChars_cons]
      unfold digitOf at hrest
      omega

theorem digitOf_lt (hc : c.isDigit = true) : digitOf c < 10 := by
  obtain ⟨hleast, hmost⟩ : 48 ≤ c.toNat ∧ c.toNat ≤ 57 := Char.isDigit_iff_toNat.mp hc
  show c.toNat - 48 < 10
  omega

theorem digitChar_digitOf (hc : c.isDigit = true) : (digitOf c).digitChar = c := by
  obtain ⟨hleast, hmost⟩ : 48 ≤ c.toNat ∧ c.toNat ≤ 57 := Char.isDigit_iff_toNat.mp hc
  refine Char.toNat_inj.mp ?_
  rw [Nat.toNat_digitChar_of_lt_ten (digitOf_lt hc)]
  show 48 + (c.toNat - 48) = c.toNat
  omega

theorem toDigits_digitOf (hc : c.isDigit = true) : Nat.toDigits 10 (digitOf c) = [c] := by
  rw [Nat.toDigits_of_lt_base (digitOf_lt hc), digitChar_digitOf hc]

/-- Digits behind a number that is not zero are the digits of what they make up together. -/
theorem toDigits_append (hn : 0 < n) (hcs : ∀ c ∈ cs, c.isDigit = true) :
    Nat.toDigits 10 n ++ cs = Nat.toDigits 10 (Nat.ofDigitChars 10 cs n) := by
  induction cs generalizing n with
  | nil => rw [List.append_nil, Nat.ofDigitChars_nil]
  | cons c cs ih =>
      obtain ⟨hc, hrest⟩ := List.forall_mem_cons.mp hcs
      calc Nat.toDigits 10 n ++ c :: cs
          = Nat.toDigits 10 n ++ Nat.toDigits 10 (digitOf c) ++ cs := by
            rw [toDigits_digitOf hc, List.append_assoc, List.singleton_append]
        _ = Nat.toDigits 10 (10 * n + digitOf c) ++ cs := by
            rw [Nat.toDigits_append_toDigits (by decide) hn (digitOf_lt hc)]
        _ = Nat.toDigits 10 (Nat.ofDigitChars 10 (c :: cs) n) := ih (by omega) hrest

theorem exists_zeros (hne : cs ≠ []) (hcs : ∀ c ∈ cs, c.isDigit = true) :
    WritesDigits (Nat.ofDigitChars 10 cs 0) cs := by
  induction cs with
  | nil => exact absurd rfl hne
  | cons c cs ih =>
      obtain ⟨hc, hrest⟩ := List.forall_mem_cons.mp hcs
      have hvalue : Nat.ofDigitChars 10 (c :: cs) 0 = Nat.ofDigitChars 10 cs (digitOf c) := by
        rw [Nat.ofDigitChars_cons, Nat.mul_zero, Nat.zero_add, digitOf]
      rw [hvalue]
      by_cases hzero : digitOf c = 0
      · have hc0 : c = '0' := by rw [← digitChar_digitOf hc, hzero]; rfl
        rw [hzero, hc0]
        rcases eq_or_ne cs [] with rfl | hne
        · exact ⟨0, rfl⟩
        · obtain ⟨zeros, hzeros⟩ := ih hne hrest
          exact ⟨zeros + 1, by rw [List.replicate_succ, List.cons_append, ← hzeros]⟩
      · refine ⟨0, ?_⟩
        rw [← toDigits_append (by omega) hrest, toDigits_digitOf hc, List.replicate_zero,
          List.nil_append, List.singleton_append]

/-! ### Reading -/

theorem pushDigit_of_isDigit (hc : c.isDigit = true) : pushDigit limit n c =
    if 10 * n + digitOf c ≤ limit then .ok (10 * n + digitOf c) else .error .tooLarge := by
  simp only [pushDigit, digitValue?, hc, if_true]
  rfl

/-- What is read of digits is not above the limit at any of them when the whole is not. -/
theorem pushDigits_eq_ok (hn : n ≤ limit) :
    cs.foldlM (pushDigit limit) n = .ok m ↔
      (∀ c ∈ cs, c.isDigit = true) ∧ Nat.ofDigitChars 10 cs n = m ∧ m ≤ limit := by
  induction cs generalizing n with
  | nil =>
      show Except.ok n = .ok m ↔ _
      rw [Nat.ofDigitChars_nil, Except.ok.injEq]
      exact ⟨fun h => ⟨by simp, h, h ▸ hn⟩, fun h => h.2.1⟩
  | cons c cs ih =>
      rw [List.foldlM_cons, List.forall_mem_cons, Nat.ofDigitChars_cons, ← digitOf]
      by_cases hc : c.isDigit = true
      · rw [pushDigit_of_isDigit hc]
        split
        next hle =>
          show cs.foldlM (pushDigit limit) (10 * n + digitOf c) = .ok m ↔ _
          rw [ih hle, and_iff_right hc]
        next hgt =>
          have hvalue := le_ofDigitChars (10 * n + digitOf c) cs
          refine ⟨fun h => (by cases h), fun ⟨_, hm, hlimit⟩ => ?_⟩
          omega
      · have hpush : pushDigit limit n c = .error .invalidDigit := by
          simp [pushDigit, digitValue?, hc]
        rw [hpush]
        exact ⟨fun h => (by cases h), fun h => absurd h.1.1 hc⟩

theorem WritesDigits.all (h : WritesDigits n cs) : ∀ c ∈ cs, c.isDigit = true := by
  obtain ⟨zeros, rfl⟩ := h
  intro c hc
  obtain hc | hc := List.mem_append.mp hc
  · rw [List.eq_of_mem_replicate hc]
    rfl
  · exact Nat.isDigit_of_mem_toDigits (by decide) (by decide) hc

theorem WritesDigits.ne_nil (h : WritesDigits n cs) : cs ≠ [] := by
  obtain ⟨zeros, rfl⟩ := h
  exact List.append_ne_nil_of_right_ne_nil _ Nat.toDigits_ne_nil

theorem not_writesDigits_plus : ¬WritesDigits n ('+' :: cs) := fun h =>
  absurd (h.all '+' List.mem_cons_self) (by decide)

theorem readDigits_eq_ok (hne : cs ≠ []) :
    readDigits limit cs = .ok n ↔ WritesDigits n cs ∧ n ≤ limit := by
  rw [readDigits, pushDigits_eq_ok (Nat.zero_le limit)]
  constructor
  · rintro ⟨hdigits, rfl, hlimit⟩
    exact ⟨exists_zeros hne hdigits, hlimit⟩
  · rintro ⟨hwrites, hlimit⟩
    refine ⟨hwrites.all, ?_, hlimit⟩
    obtain ⟨zeros, rfl⟩ := hwrites
    rw [Nat.ofDigitChars_append, Nat.ofDigitChars_replicate_zero, Nat.mul_zero,
      Nat.ofDigitChars_ten_toDigits]

/-- What is read as a number is what writes it, up to the limit. -/
theorem readNumber_eq_ok {text : String} :
    readNumber limit text = .ok n ↔ WritesNumber n text ∧ n ≤ limit := by
  unfold readNumber readNumberChars WritesNumber
  split
  next hcs =>
    have hnot : ¬WritesDigits n [] := fun h => h.ne_nil rfl
    simp [hcs, hnot]
  next hcs =>
    have hnot : ¬WritesDigits n [] := fun h => h.ne_nil rfl
    simp [hcs, hnot, not_writesDigits_plus]
  next digits hne hcs =>
    rw [readDigits_eq_ok hne, hcs, or_iff_right not_writesDigits_plus]
    simp
  next hne _ hplus =>
    rw [readDigits_eq_ok hne, or_iff_left]
    exact fun ⟨digits, hcs, _⟩ => hplus digits hcs

end ClusterAccess.Text
