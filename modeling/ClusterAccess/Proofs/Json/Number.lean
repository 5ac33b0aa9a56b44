import ClusterAccess.Json.Reader
import ClusterAccess.Json.Writer
import Mathlib.Data.List.TakeWhile

/-!
Integers in JSON texts. The decimal digits of a number have no leading zero, so an integer of 64
bits is read back from its written form.
-/

namespace ClusterAccess.Json

open Text (digitsValue)

/-- The integers that stay integers when they are read. -/
def isWord (n : Int) : Bool := -(Nat.pow 2 63 : Int) ≤ n && n < (Nat.pow 2 64 : Int)

variable {n : Nat} {digits : List Char}

/-! ### Digits -/

theorem digitsValue_toDigits : digitsValue (Nat.toDigits 10 n) = n :=
  Nat.ofDigitChars_toDigits (by decide) (by decide)

theorem isDigit_of_mem_toDigits {c : Char} (hc : c ∈ Nat.toDigits 10 n) : c.isDigit = true :=
  Nat.isDigit_of_mem_toDigits (by decide) (by decide) hc

theorem eq_zero_of_head_toDigits (h : (Nat.toDigits 10 n).head? = some '0') : n = 0 := by
  induction n using Nat.strongRecOn with
  | ind n ih =>
      by_cases hn : n < 10
      · have hall : ∀ n < 10, n.digitChar = '0' → n = 0 := by decide
        rw [Nat.toDigits_of_lt_base hn] at h
        exact hall n hn (Option.some.inj h)
      · rw [Nat.toDigits_of_base_le (by decide) (by omega),
          List.head?_append, Option.or_of_isSome (by simp [Nat.toDigits_ne_nil])] at h
        have hzero := ih (n / 10) (by omega) h
        omega

structure IsWhole (digits : List Char) : Prop where
  ne_nil : digits ≠ []
  all : ∀ c ∈ digits, c.isDigit = true
  head : digits.head? = some '0' → digits.length = 1

theorem IsWhole.takeWhile (h : IsWhole digits) : digits.takeWhile Char.isDigit = digits :=
  List.takeWhile_eq_self_iff.mpr h.all

theorem IsWhole.dropWhile (h : IsWhole digits) : digits.dropWhile Char.isDigit = [] :=
  List.dropWhile_eq_nil_iff.mpr h.all

theorem isWhole_toDigits : IsWhole (Nat.toDigits 10 n) where
  ne_nil := Nat.toDigits_ne_nil
  all _ hc := isDigit_of_mem_toDigits hc
  head h := by
    rw [eq_zero_of_head_toDigits h]
    rfl

/-! ### Written numbers -/

namespace WrittenNumber

theorem ofChars?_whole (h : IsWhole digits) :
    ofChars? digits = some ⟨false, digits, none, none⟩ := by
  unfold ofChars?
  split
  next negative rest heq =>
    split at heq
    next rest => exact absurd (h.all '-' List.mem_cons_self) (by decide)
    next =>
      obtain ⟨rfl, rfl⟩ := Prod.mk.inj heq
      simpa [h.takeWhile, h.dropWhile, h.ne_nil] using h.head

theorem ofChars?_negative (h : IsWhole digits) :
    ofChars? ('-' :: digits) = some ⟨true, digits, none, none⟩ := by
  simpa [ofChars?, h.takeWhile, h.dropWhile, h.ne_nil] using h.head

theorem value?_whole {size : Nat} {cs : List Char} (hdigits : digitsValue digits = size)
    (hsize : size < Nat.pow 2 64) : value? ⟨false, digits, none, none⟩ cs = some (int size) := by
  have hword : decide (size < Nat.pow 2 64) = true := decide_eq_true hsize
  unfold value?
  rw [hdigits]
  exact if_pos hword

theorem value?_negative {size : Nat} {cs : List Char} (hdigits : digitsValue digits = size)
    (hpos : 0 < size) (hsize : size ≤ Nat.pow 2 63) :
    value? ⟨true, digits, none, none⟩ cs = some (int (-size)) := by
  have hword : (decide (0 < size) && decide (size ≤ Nat.pow 2 63)) = true := by
    rw [Bool.and_eq_true, decide_eq_true_eq, decide_eq_true_eq]
    exact ⟨hpos, hsize⟩
  unfold value?
  rw [hdigits]
  exact if_pos hword

end WrittenNumber

theorem number?_writeInt {n : Int} (hn : isWord n = true) :
    number? (writeInt n) = some (.scalar (some (.int n))) := by
  have hbounds : -(Nat.pow 2 63 : Int) ≤ n ∧ n < (Nat.pow 2 64 : Int) := by
    rw [isWord, Bool.and_eq_true, decide_eq_true_eq, decide_eq_true_eq] at hn
    exact hn
  have hdigits : digitsValue (Nat.toDigits 10 n.natAbs) = n.natAbs := digitsValue_toDigits
  unfold writeInt
  split
  next hneg =>
    have habs : -(n.natAbs : Int) = n := by omega
    rw [number?, WrittenNumber.ofChars?_negative isWhole_toDigits, Option.map_some,
      WrittenNumber.value?_negative hdigits (by omega) (by omega), habs]
  next hneg =>
    have habs : (n.natAbs : Int) = n := by omega
    rw [number?, WrittenNumber.ofChars?_whole isWhole_toDigits, Option.map_some,
      WrittenNumber.value?_whole hdigits (by omega), habs]

end ClusterAccess.Json
