import ClusterAccess.Proofs.Text.Form
import ClusterAccess.Toml.Quoted
import Mathlib.Data.List.Forall2

/-!
Strings between double quotes. Each character of a text may stand there as itself, as a short escape
or as its code, with some exceptions for the first two; whichever is taken for each of them, the
text is read back.
-/

namespace ClusterAccess.Toml

open Text (hexValue?)

def shortEscapes : List (Char × Char) :=
  [('"', '"'), ('\\', '\\'), ('\x08', 'b'), ('\x0c', 'f'), ('\n', 'n'), ('\r', 'r'), ('\t', 't')]

def hexNumber? (value : Nat) (digits : List Char) : Option Nat :=
  digits.foldlM (fun n c => (hexValue? c).map (16 * n + ·)) value

/-- What may be written for a character between double quotes. -/
inductive Stands : Char → List Char → Prop where
  | itself {c : Char} (hplain : c = '\t' ∨ 0x20 ≤ c.toNat ∧ c.toNat ≠ 0x7F) (hquote : c ≠ '"')
      (hback : c ≠ '\\') : Stands c [c]
  | short {c letter : Char} (h : (c, letter) ∈ shortEscapes) : Stands c ['\\', letter]
  | code {c mark : Char} {digits : List Char}
      (hmark : mark = 'u' ∧ digits.length = 4 ∨ mark = 'U' ∧ digits.length = 8)
      (hdigits : hexNumber? 0 digits = some c.toNat) : Stands c ('\\' :: mark :: digits)

def Quotes (text : String) (written : List Char) : Prop :=
  ∃ parts, List.Forall₂ Stands text.toList parts ∧ written = '"' :: (parts.flatten ++ ['"'])

variable {q : Quoting} {c : Char} {cs part written rest digits : List Char} {value : Nat}

/-! ### Codes -/

theorem hexNumber?_cons : hexNumber? value (c :: cs) =
    (hexValue? c).bind fun d => hexNumber? (16 * value + d) cs := by
  rw [hexNumber?, List.foldlM_cons]
  cases hexValue? c <;> rfl

theorem scalar?_toNat (c : Char) : scalar? c.toNat = some c := by
  have hvalid : c.toNat.isValidChar := c.valid
  rw [scalar?, if_pos hvalid, Char.ofNat_toNat]

@[simp] theorem putBack_nil (read : Option (List Char × List Char)) : putBack [] read = read := by
  cases read <;> rfl

/-- The digits of a code are the character that has it. -/
theorem lineText_code (hne : digits ≠ []) (h : hexNumber? value digits = some c.toNat) :
    lineText q (.code digits.length value) (digits ++ rest) =
      putBack [c] (lineText q .plain rest) := by
  induction digits generalizing value with
  | nil => exact absurd rfl hne
  | cons digit digits ih =>
      rw [hexNumber?_cons, Option.bind_eq_some_iff] at h
      obtain ⟨d, hdigit, hvalue⟩ := h
      rw [List.cons_append, lineText]
      rcases eq_or_ne digits [] with rfl | hmore
      · have hcode : 16 * value + d = c.toNat := Option.some.inj hvalue
        have hafter : afterCodeDigit [digit].length value digit = some (.plain, [c]) := by
          simp [afterCodeDigit, hdigit, hcode, scalar?_toNat]
        simp only [hafter, List.nil_append]
      · have hafter : afterCodeDigit (digit :: digits).length value digit =
            some (.code digits.length (16 * value + d), []) := by
          simp [afterCodeDigit, hdigit, hmore]
        simp only [hafter, putBack_nil, ih hmore hvalue]

/-! ### Texts -/

theorem isPlain_eq_true_iff : isPlain c = true ↔ c = '\t' ∨ 0x20 ≤ c.toNat ∧ c.toNat ≠ 0x7F := by
  simp [isPlain]

theorem afterBackslash_short {letter : Char} (h : (c, letter) ∈ shortEscapes) :
    afterBackslash letter = some (.plain, [c]) := by
  simp only [shortEscapes, List.mem_cons, Prod.mk.injEq, List.not_mem_nil, or_false] at h
  obtain ⟨rfl, rfl⟩ | ⟨rfl, rfl⟩ | ⟨rfl, rfl⟩ | ⟨rfl, rfl⟩ | ⟨rfl, rfl⟩ | ⟨rfl, rfl⟩ |
    ⟨rfl, rfl⟩ := h <;> rfl

theorem afterBackslash_code {mark : Char}
    (h : mark = 'u' ∧ digits.length = 4 ∨ mark = 'U' ∧ digits.length = 8) :
    afterBackslash mark = some (.code digits.length 0, []) ∧ digits ≠ [] := by
  obtain ⟨rfl, hlength⟩ | ⟨rfl, hlength⟩ := h
  · rw [hlength]
    exact ⟨rfl, by rintro rfl; cases hlength⟩
  · rw [hlength]
    exact ⟨rfl, by rintro rfl; cases hlength⟩

theorem lineText_itself (hplain : isPlain c = true) (hquote : c ≠ '"') (hback : c ≠ '\\') :
    lineText .basic .plain (c :: rest) = putBack [c] (lineText .basic .plain rest) := by
  simp [lineText, Quoting.basic, hplain, hquote, hback]

theorem lineText_backslash :
    lineText .basic .plain ('\\' :: rest) = lineText .basic .backslash rest := rfl

/-- What is written for a character is read as it. -/
theorem lineText_stands (h : Stands c part) :
    lineText .basic .plain (part ++ rest) = putBack [c] (lineText .basic .plain rest) := by
  cases h with
  | itself hplain hquote hback =>
      exact lineText_itself (isPlain_eq_true_iff.mpr hplain) hquote hback
  | short h =>
      rw [List.cons_append, lineText_backslash, List.singleton_append, lineText,
        afterBackslash_short h]
  | code hmark hdigits =>
      obtain ⟨hafter, hne⟩ := afterBackslash_code hmark
      rw [List.cons_append, lineText_backslash, List.cons_append, lineText, hafter]
      exact (putBack_nil _).trans (lineText_code hne hdigits)

theorem lineText_parts {parts : List (List Char)} (h : List.Forall₂ Stands cs parts) :
    lineText .basic .plain (parts.flatten ++ '"' :: rest) = some (cs, rest) := by
  induction h with
  | nil => rfl
  | cons hpart _ ih =>
      rw [List.flatten_cons, List.append_assoc, lineText_stands hpart, ih]
      rfl

/-! ### Written forms -/

theorem hexValue?_of_hexNumber? {n : Nat} (h : hexNumber? value digits = some n) :
    ∀ c ∈ digits, (hexValue? c).isSome = true := by
  induction digits generalizing value with
  | nil => exact fun c hc => absurd hc List.not_mem_nil
  | cons digit digits ih =>
      rw [hexNumber?_cons, Option.bind_eq_some_iff] at h
      obtain ⟨d, hdigit, hrest⟩ := h
      exact List.forall_mem_cons.mpr ⟨by rw [hdigit]; rfl, ih hrest⟩

/-- No carriage return is in what is written, and no quote begins it. -/
theorem Stands.clean (h : Stands c part) :
    '\r' ∉ part ∧ ∃ first more, part = first :: more ∧ first ≠ '"' := by
  cases h with
  | itself hplain hquote hback =>
      refine ⟨?_, c, [], rfl, hquote⟩
      rw [List.mem_singleton]
      rintro rfl
      exact absurd hplain (by decide)
  | @short letter h =>
      refine ⟨?_, '\\', [letter], rfl, by decide⟩
      have hall : ∀ pair ∈ shortEscapes, '\r' ∉ ['\\', pair.2] := by decide
      exact hall (c, letter) h
  | @code mark digits hmark hdigits =>
      refine ⟨?_, '\\', mark :: digits, rfl, by decide⟩
      rw [List.mem_cons, List.mem_cons]
      rintro (h | rfl | h)
      · exact absurd h (by decide)
      · exact absurd hmark (by simp)
      · exact absurd (hexValue?_of_hexNumber? hdigits '\r' h) (by decide)

/-- No third quote begins a text that is not empty. -/
theorem Quotes.begins {text : String} (h : Quotes text written) (hne : text ≠ "") :
    ∃ c more, written = '"' :: c :: more ∧ c ≠ '"' := by
  obtain ⟨parts, hparts, rfl⟩ := h
  cases hparts' : parts with
  | nil =>
      rw [hparts'] at hparts
      exact absurd (String.toList_eq_nil_iff.mp (List.forall₂_nil_right_iff.mp hparts)) hne
  | cons part parts =>
      rw [hparts', List.forall₂_cons_right_iff] at hparts
      obtain ⟨c, cs, hpart, -, -⟩ := hparts
      obtain ⟨-, first, more, rfl, hfirst⟩ := hpart.clean
      exact ⟨first, more ++ parts.flatten ++ ['"'], by simp, hfirst⟩

theorem clean_parts {parts : List (List Char)} (h : List.Forall₂ Stands cs parts) :
    '\r' ∉ parts.flatten := by
  induction h with
  | nil => exact List.not_mem_nil
  | cons hpart _ ih =>
      rw [List.flatten_cons, List.mem_append]
      exact not_or.mpr ⟨hpart.clean.1, ih⟩

theorem Quotes.clean {text : String} (h : Quotes text written) : '\r' ∉ written := by
  obtain ⟨parts, hparts, rfl⟩ := h
  simp [clean_parts hparts]

theorem exists_stands (c : Char) : ∃ part, Stands c part := by
  rcases eq_or_ne c '"' with rfl | hquote
  · exact ⟨['\\', '"'], .short (by decide)⟩
  rcases eq_or_ne c '\\' with rfl | hback
  · exact ⟨['\\', '\\'], .short (by decide)⟩
  by_cases hplain : c = '\t' ∨ 0x20 ≤ c.toNat ∧ c.toNat ≠ 0x7F
  · exact ⟨[c], .itself hplain hquote hback⟩
  · have hcode : ∀ n < 0x80, hexNumber? 0
        ['0', '0', Text.Form.hexDigit (n / 16), Text.Form.hexDigit (n % 16)] = some n := by decide
    have hlow : c.toNat < 0x80 := by omega
    exact ⟨_, .code (.inl ⟨rfl, rfl⟩) (hcode c.toNat hlow)⟩

theorem exists_quotes (text : String) : ∃ written, Quotes text written := by
  have hparts (cs : List Char) : ∃ parts, List.Forall₂ Stands cs parts := by
    induction cs with
    | nil => exact ⟨[], .nil⟩
    | cons c cs ih =>
        obtain ⟨part, hpart⟩ := exists_stands c
        obtain ⟨parts, hparts⟩ := ih
        exact ⟨part :: parts, .cons hpart hparts⟩
  obtain ⟨parts, hparts⟩ := hparts text.toList
  exact ⟨_, parts, hparts, rfl⟩

end ClusterAccess.Toml
