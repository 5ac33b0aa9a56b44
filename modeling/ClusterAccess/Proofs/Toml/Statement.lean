import ClusterAccess.Proofs.Json.Number
import ClusterAccess.Proofs.Toml.Quoted
import ClusterAccess.Toml.Reader

/-!
Documents that are read line by line: empty lines, headers of one name, and entries of one name with
a value that stands on its line. Each line is read as its statement, whatever comes after it.
-/

namespace ClusterAccess

namespace Text.Scan

/-! ### Scanning -/

variable {α β : Type} {p q : Scan α} {f : α → Scan β} {a : α} {c : Char} {s t : List Char}

theorem bind_of (h : p s = some (a, t)) : (p >>= f) s = f a t := by
  show (p s).bind (fun r => f r.1 r.2) = f a t
  rw [h, Option.bind_some]

theorem bind_of_none (h : p s = none) : (p >>= f) s = none := by
  show (p s).bind (fun r => f r.1 r.2) = none
  rw [h, Option.bind_none]

theorem map_of {g : α → β} (h : p s = some (a, t)) : (g <$> p) s = some (g a, t) := by
  show (p s).bind (fun r => some (g r.1, r.2)) = some (g a, t)
  rw [h, Option.bind_some]

theorem orElse_of_none (h : p s = none) : (p <|> q) s = q s := by
  show (p s).orElse (fun _ => q s) = q s
  rw [h, Option.orElse_none]

theorem literal_append (cs : List Char) : literal cs (cs ++ s) = some ((), s) := by
  simp [literal]

theorem char_cons : char c (c :: s) = some ((), s) := literal_append [c]

theorem char_of_ne (h : s.head? ≠ some c) : char c s = none := by
  cases s with
  | nil => rfl
  | cons d s =>
      have hne : ¬c = d := fun heq => h (by rw [heq]; rfl)
      simp [char, literal, hne]

theorem char?_of_ne (h : s.head? ≠ some c) : char? c s = some (false, s) := if_neg h

theorem run_append {pred : Char → Bool} (hall : ∀ c ∈ s, pred c = true)
    (hstop : ∀ c, t.head? = some c → pred c = false) :
    run pred (s ++ t) = some (s, t) := by
  have hnone : t.takeWhile pred = [] ∧ t.dropWhile pred = t := by
    cases t with
    | nil => exact ⟨rfl, rfl⟩
    | cons c t => simp [hstop c rfl]
  rw [run, List.takeWhile_append_of_pos hall, List.dropWhile_append_of_pos hall, hnone.1, hnone.2,
    List.append_nil]

end Text.Scan

namespace Toml

open Text (Scan)
open Text.Scan

variable {v : Toml} {rest s t written : List Char} {n : Nat}

theorem ne_of_class {isOne : Char → Bool} {c d : Char} (hc : isOne c = true)
    (hd : isOne d = false) : c ≠ d := by
  rintro rfl
  rw [hc] at hd
  cases hd

/-! ### Values -/

structure ReadsAs (written : List Char) (v : Toml) : Prop where
  scalar : ∀ rest, readScalar (written ++ '\n' :: rest) = some (v, '\n' :: rest)
  begins : ∃ c more, written = c :: more ∧ c ≠ '[' ∧ c ≠ '\x7b' ∧ isSpace c = false
  clean : '\r' ∉ written

theorem readText_quotes {text : String} (h : Quotes text written) :
    readText .basic (written ++ rest) = some (text, rest) := by
  obtain ⟨parts, hparts, rfl⟩ := h
  have hline : lineText .basic .plain (parts.flatten ++ '"' :: rest) = some (text.toList, rest) :=
    lineText_parts hparts
  have hmark : Scan.char Quoting.basic.mark ('"' :: (parts.flatten ++ '"' :: rest)) =
      some ((), parts.flatten ++ '"' :: rest) := char_cons
  have hshape : '"' :: (parts.flatten ++ ['"']) ++ rest =
      '"' :: (parts.flatten ++ '"' :: rest) := by
    simp
  rw [hshape, readText, bind_of hmark, bind_of hline]
  show some (String.ofList text.toList, rest) = some (text, rest)
  rw [String.ofList_toList]

theorem readsAs_quotes {text : String} (h : Quotes text written) (hne : text ≠ "") :
    ReadsAs written (.text text) where
  scalar rest := by
    obtain ⟨c, more, hwritten, hc⟩ := h.begins hne
    -- A text that is not empty does not begin with three quotes.
    have hblock : readBlock .basic (written ++ '\n' :: rest) = none := by
      refine bind_of_none ?_
      simp [Scan.literal, hwritten, Quoting.basic, Ne.symm hc]
    have hpeek : Scan.peek (written ++ '\n' :: rest) =
        some (some '"', written ++ '\n' :: rest) := by
      rw [hwritten]
      rfl
    rw [readScalar, bind_of hpeek]
    exact map_of ((orElse_of_none hblock).trans (readText_quotes h))
  begins := by
    obtain ⟨c, more, hwritten, -⟩ := h.begins hne
    exact ⟨'"', c :: more, hwritten, by decide, by decide, by decide⟩
  clean := h.clean

theorem readsAs_boolean (b : Bool) :
    ReadsAs (if b then "true" else "false").toList (.boolean b) where
  scalar rest := by cases b <;> rfl
  begins := by cases b <;> exact ⟨_, _, rfl, by decide, by decide, by decide⟩
  clean := by cases b <;> decide

/-! ### Integers -/

theorem underscored?_digits (hne : s ≠ []) (hall : ∀ c ∈ s, c.isDigit = true) :
    underscored? Char.isDigit s = some s := by
  induction s with
  | nil => exact absurd rfl hne
  | cons c s ih =>
      obtain ⟨hc, hrest⟩ := List.forall_mem_cons.mp hall
      cases s with
      | nil => simp [underscored?, hc]
      | cons d s =>
          have hd : d ≠ '_' := ne_of_class (hrest d List.mem_cons_self) rfl
          rw [underscored?, if_pos hc, ih (List.cons_ne_nil d s) hrest, Option.map_some]
          · simp
          · simpa using hd

theorem isDigitOrUnderscore_of_isDigit {c : Char} (hc : c.isDigit = true) :
    isDigitOrUnderscore c = true := by
  rw [isDigitOrUnderscore, hc, Bool.true_or]

theorem decimal?_digits (hn : n < Nat.pow 2 63) :
    decimal? false (Nat.toDigits 10 n) = some (.integer n) := by
  have hwhole : Json.IsWhole (Nat.toDigits 10 n) := Json.isWhole_toDigits
  have hall : ∀ c ∈ Nat.toDigits 10 n, isDigitOrUnderscore c = true := fun c hc =>
    isDigitOrUnderscore_of_isDigit (hwhole.all c hc)
  have htake := List.takeWhile_eq_self_iff.mpr hall
  have hdrop := List.dropWhile_eq_nil_iff.mpr hall
  have hzero : ¬((Nat.toDigits 10 n).head? = some '0' ∧ (Nat.toDigits 10 n).length ≠ 1) :=
    fun ⟨hhead, hlength⟩ => hlength (hwhole.head hhead)
  have hbounds : -Int.pow 2 63 ≤ (n : Int) ∧ (n : Int) < Int.pow 2 63 := by
    have hpow : Int.pow 2 63 = ((Nat.pow 2 63 : Nat) : Int) := by decide
    omega
  simp only [decimal?, htake, hdrop, underscored?_digits hwhole.ne_nil hwhole.all,
    Option.bind_eq_bind, Option.bind_some, if_neg hzero, Json.digitsValue_toDigits]
  exact if_pos hbounds

theorem number?_digits (hn : n < Nat.pow 2 63) :
    number? (Nat.toDigits 10 n) = some (.integer n) := by
  have hwhole : Json.IsWhole (Nat.toDigits 10 n) := Json.isWhole_toDigits
  have hne (c : Char) (hc : c.isDigit = false) : c ∉ Nat.toDigits 10 n := fun hmem =>
    ne_of_class (hwhole.all c hmem) hc rfl
  rw [← decimal?_digits hn]
  unfold number?
  split
  next heq => exact absurd (heq ▸ (by simp)) (hne 'x' rfl)
  next heq => exact absurd (heq ▸ (by simp)) (hne 'o' rfl)
  next heq => exact absurd (heq ▸ (by simp)) (hne 'b' rfl)
  next =>
    split
    next negative unsigned heq =>
    split at heq
    next hcs => exact absurd (hcs ▸ (by simp)) (hne '-' rfl)
    next hcs => exact absurd (hcs ▸ (by simp)) (hne '+' rfl)
    next =>
      obtain ⟨rfl, rfl⟩ := Prod.mk.inj heq
      rw [if_neg]
      rintro (h | h)
      · exact absurd (h ▸ (by simp)) (hne 'n' rfl)
      · exact absurd (h ▸ (by simp)) (hne 'n' rfl)

/-- Behind some of the digits at the end of a line there is a digit or the end. -/
theorem head?_of_digits {count m : Nat} (hall : ∀ c ∈ s, c.isDigit = true)
    (h : Text.Instant.digits count (s ++ '\n' :: rest) = some (m, t)) :
    ∀ c, t.head? = some c → c.isDigit = true ∨ c = '\n' := by
  simp only [Text.Instant.digits, Option.ite_none_right_eq_some, Option.some.injEq,
    Prod.mk.injEq] at h
  obtain ⟨⟨-, hdigits⟩, -, rfl⟩ := h
  have hcount : count ≤ s.length := by
    by_contra hmore
    obtain ⟨k, rfl⟩ : ∃ k, count = s.length + (k + 1) := ⟨count - s.length - 1, by omega⟩
    have hend : '\n' ∈ (s ++ '\n' :: rest).take (s.length + (k + 1)) := by
      rw [List.take_length_add_append, List.take_succ_cons]
      simp
    exact absurd (List.all_eq_true.mp hdigits '\n' hend) (by decide)
  rw [List.drop_append_of_le_length hcount]
  intro c hc
  cases hdrop : s.drop count with
  | nil =>
      rw [hdrop] at hc
      exact .inr (Option.some.inj hc).symm
  | cons d more =>
      rw [hdrop] at hc
      obtain rfl := Option.some.inj hc
      exact .inl (hall d (List.mem_of_mem_drop (hdrop ▸ List.mem_cons_self)))

theorem digits_of_digitsUpTo {count most m : Nat}
    (h : Text.Instant.digitsUpTo count most s = some (m, t)) :
    Text.Instant.digits count s = some (m, t) := by
  cases hdigits : Text.Instant.digits count s with
  | none =>
      rw [Text.Instant.digitsUpTo, bind_of_none hdigits] at h
      cases h
  | some r =>
      rw [Text.Instant.digitsUpTo, bind_of hdigits] at h
      split at h
      next => exact h
      next => cases h

/-- No mark is behind some of the digits at the end of a line. -/
theorem digits_then_mark {α : Type} {count : Nat} {p : Scan Nat} {f : Nat → Unit → Scan α}
    {c : Char}
    (hp : ∀ s m t, p s = some (m, t) → Text.Instant.digits count s = some (m, t))
    (hall : ∀ c ∈ s, c.isDigit = true) (hc : c.isDigit = false) (hend : c ≠ '\n') :
    (do let m ← p; f m (← Scan.char c)) (s ++ '\n' :: rest) = none := by
  cases hdigits : p (s ++ '\n' :: rest) with
  | none => exact bind_of_none hdigits
  | some r =>
      obtain ⟨m, t⟩ := r
      rw [bind_of hdigits]
      refine bind_of_none (char_of_ne fun hhead => ?_)
      obtain hdigit | rfl := head?_of_digits hall (hp _ _ _ hdigits) c hhead
      · exact ne_of_class hdigit hc rfl
      · exact hend rfl

theorem readDateTime_digits (hall : ∀ c ∈ s, c.isDigit = true) :
    readDateTime (s ++ '\n' :: rest) = none := by
  have hdate : Text.Instant.date (s ++ '\n' :: rest) = none :=
    digits_then_mark (fun _ _ _ h => h) hall (by decide) (by decide)
  have htime : Text.Instant.time (s ++ '\n' :: rest) = none :=
    digits_then_mark (fun _ _ _ => digits_of_digitsUpTo) hall (by decide) (by decide)
  have hread : ((do Text.Instant.date; readTimeOfDay <|> pure ()) <|> Text.Instant.time : Scan Unit)
      (s ++ '\n' :: rest) = none := by
    rw [orElse_of_none (bind_of_none hdate), htime]
  refine bind_of_none ?_
  rw [Scan.taken, hread]
  rfl

theorem readNumber_digits (hn : n < Nat.pow 2 63) :
    readNumber (Nat.toDigits 10 n ++ '\n' :: rest) = some (.integer n, '\n' :: rest) := by
  have hrun : Scan.run isNumberChar (Nat.toDigits 10 n ++ '\n' :: rest) =
      some (Nat.toDigits 10 n, '\n' :: rest) := by
    refine run_append (fun c hc => ?_) (fun c hc => ?_)
    · have hdigit := Json.isDigit_of_mem_toDigits hc
      simp [isNumberChar, Char.isAlphanum, hdigit]
    · obtain rfl := Option.some.inj hc
      decide
  rw [readNumber, bind_of hrun, number?_digits hn]
  rfl

theorem readsAs_digits (hn : n < Nat.pow 2 63) :
    ReadsAs (Nat.toDigits 10 n) (.integer n) := by
  have hall : ∀ c ∈ Nat.toDigits 10 n, c.isDigit = true := fun c => Json.isDigit_of_mem_toDigits
  obtain ⟨c, more, hdigits⟩ := List.exists_cons_of_ne_nil (Nat.toDigits_ne_nil (b := 10) (n := n))
  have hc : c.isDigit = true := hall c (hdigits ▸ List.mem_cons_self)
  have hne (d : Char) (hd : d.isDigit = false) : c ≠ d := ne_of_class hc hd
  refine ⟨fun rest => ?_, ⟨c, more, hdigits, hne _ rfl, hne _ rfl, ?_⟩,
    fun hreturn => absurd (hall _ hreturn) (by decide)⟩
  · have hdate : readDateTime (Nat.toDigits 10 n ++ '\n' :: rest) = none :=
      readDateTime_digits hall
    have hread := (orElse_of_none hdate).trans (readNumber_digits hn)
    have hpeek : Scan.peek (Nat.toDigits 10 n ++ '\n' :: rest) =
        some (some c, Nat.toDigits 10 n ++ '\n' :: rest) := by
      rw [hdigits]
      rfl
    rw [readScalar, bind_of hpeek]
    refine (congrFun ?_ _).trans hread
    split
    next heq => exact absurd (Option.some.inj heq) (hne _ rfl)
    next heq => exact absurd (Option.some.inj heq) (hne _ rfl)
    next heq => exact absurd (Option.some.inj heq) (hne _ rfl)
    next heq => exact absurd (Option.some.inj heq) (hne _ rfl)
    next => rfl
  · simp [isSpace, hne ' ' rfl, hne '\t' rfl]

/-! ### Keys -/

def IsBare (name : String) : Prop :=
  name.toList ≠ [] ∧ name.toList.all isBareKeyChar = true

theorem IsBare.mem {name : String} (h : IsBare name) {c : Char} (hc : c ∈ name.toList) :
    isBareKeyChar c = true :=
  List.all_eq_true.mp h.2 c hc

theorem IsBare.begins {name : String} (h : IsBare name) :
    ∃ c more, name.toList = c :: more ∧ isBareKeyChar c = true := by
  obtain ⟨c, more, hcs⟩ := List.exists_cons_of_ne_nil h.1
  exact ⟨c, more, hcs, h.mem (hcs ▸ List.mem_cons_self)⟩

theorem IsBare.clean {name : String} (h : IsBare name) : '\r' ∉ name.toList := fun hreturn =>
  absurd (h.mem hreturn) (by decide)

theorem spaces_append (hs : ∀ c ∈ s, isSpace c = true)
    (ht : ∀ c, t.head? = some c → isSpace c = false) : spaces (s ++ t) = some ((), t) := by
  rw [spaces, bind_of (run_append hs ht)]
  rfl

theorem spaces_of_head {c : Char} (hc : isSpace c = false) : spaces (c :: s) = some ((), c :: s) :=
  spaces_append (s := []) (by simp) fun d hd => by rw [← Option.some.inj hd, hc]

theorem not_isSpace_of_isBareKeyChar {c : Char} (hc : isBareKeyChar c = true) :
    isSpace c = false := by
  rw [isSpace, Bool.or_eq_false_iff, decide_eq_false_iff_not, decide_eq_false_iff_not]
  exact ⟨ne_of_class hc (by decide), ne_of_class hc (by decide)⟩

/-- A bare name goes up to the first character that is none of it, and the blanks after it are
passed over. -/
theorem readKeyPart_bare {name : String} (hname : IsBare name)
    (hstop : ∀ c, (s ++ t).head? = some c → isBareKeyChar c = false)
    (hs : ∀ c ∈ s, isSpace c = true) (ht : ∀ c, t.head? = some c → isSpace c = false) :
    readKeyPart (name.toList ++ (s ++ t)) = some (name, t) := by
  obtain ⟨c, more, hcs, hc⟩ := hname.begins
  have hspaces : spaces (name.toList ++ (s ++ t)) = some ((), name.toList ++ (s ++ t)) := by
    rw [hcs]
    exact spaces_of_head (not_isSpace_of_isBareKeyChar hc)
  have hpeek : Scan.peek (name.toList ++ (s ++ t)) = some (some c, name.toList ++ (s ++ t)) := by
    rw [hcs]
    rfl
  have hread : (do
      let cs ← Scan.run isBareKeyChar
      if cs.isEmpty then failure
      spaces
      return String.ofList cs : Scan String) (name.toList ++ (s ++ t)) = some (name, t) := by
    have hempty : ¬name.toList.isEmpty = true := by simpa [List.isEmpty_iff] using hname.1
    rw [bind_of (run_append (fun _ => hname.mem) hstop), if_neg hempty]
    refine (bind_of (spaces_append hs ht)).trans ?_
    rw [String.ofList_toList]
    rfl
  rw [readKeyPart, bind_of hspaces, bind_of hpeek]
  refine (congrFun ?_ _).trans hread
  split
  next heq => exact absurd (Option.some.inj heq) (ne_of_class hc (by decide))
  next heq => exact absurd (Option.some.inj heq) (ne_of_class hc (by decide))
  next => rfl

theorem readKey_bare {name : String} (hname : IsBare name)
    (hstop : ∀ c, (s ++ t).head? = some c → isBareKeyChar c = false)
    (hs : ∀ c ∈ s, isSpace c = true) (ht : ∀ c, t.head? = some c → isSpace c = false)
    (hdot : t.head? ≠ some '.') :
    readKey (name.toList ++ (s ++ t)) = some (⟨[], name⟩, t) := by
  have hparts : Scan.separated readKeyPart '.' (depthLimit - 1) (name.toList ++ (s ++ t)) =
      some ([name], t) := by
    show Scan.separated readKeyPart '.' (78 + 1) _ = _
    rw [Scan.separated, bind_of (readKeyPart_bare hname hstop hs ht), bind_of (char?_of_ne hdot)]
    rfl
  rw [readKey, bind_of hparts]
  rfl

/-! ### Lines -/

structure ReadsLine (line : List Char) (statement : Statement) : Prop where
  reads : ∀ rest, ∃ left, readStatement (line ++ rest) = some (statement, left) ∧
    endLine false left = some ((), rest)
  begins : ∃ c more, line = c :: more ∧ c ≠ '\uFEFF'
  clean : '\r' ∉ line

def headerLine (name : String) : List Char := '[' :: (name.toList ++ [']', '\n'])

def entryLine (name : String) (written : List Char) : List Char :=
  name.toList ++ ([' ', '=', ' '] ++ (written ++ ['\n']))

theorem readsLine_blank : ReadsLine ['\n'] .blank where
  reads rest := ⟨'\n' :: rest, rfl, rfl⟩
  begins := ⟨'\n', [], rfl, by decide⟩
  clean := by decide

theorem readsLine_header {name : String} (hname : IsBare name) :
    ReadsLine (headerLine name) (.header ⟨[], name⟩) where
  reads rest := by
    obtain ⟨c, more, hcs, hc⟩ := hname.begins
    have hshape : headerLine name ++ rest =
        '[' :: (name.toList ++ ([] ++ ']' :: '\n' :: rest)) := by
      simp [headerLine]
    have helement : Scan.char? '[' (name.toList ++ ([] ++ ']' :: '\n' :: rest)) =
        some (false, name.toList ++ ([] ++ ']' :: '\n' :: rest)) := by
      refine char?_of_ne ?_
      rw [hcs]
      exact fun hhead => ne_of_class hc (by decide) (Option.some.inj hhead)
    have hkey : readKey (name.toList ++ ([] ++ ']' :: '\n' :: rest)) =
        some (⟨[], name⟩, ']' :: '\n' :: rest) := by
      refine readKey_bare hname ?_ (by simp) ?_ (by simp) <;>
      · intro d hd
        obtain rfl := Option.some.inj hd
        decide
    refine ⟨'\n' :: rest, ?_, rfl⟩
    rw [hshape, readStatement, bind_of (spaces_of_head (by decide)), bind_of (t := _) rfl]
    refine (bind_of (p := Scan.skip) (t := name.toList ++ ([] ++ ']' :: '\n' :: rest)) rfl).trans ?_
    rw [bind_of helement]
    refine (bind_of hkey).trans ?_
    rw [bind_of char_cons]
    rfl
  begins := ⟨'[', _, rfl, by decide⟩
  clean := by
    have hclean := hname.clean
    simp [headerLine, hclean]

theorem readValue_scalar {depth : Nat} (harray : s.head? ≠ some '[')
    (htable : s.head? ≠ some '\x7b') : readValue depth s = readScalar s := by
  cases depth with
  | zero => rfl
  | succ depth =>
      rw [readValue, bind_of (char?_of_ne harray)]
      refine (bind_of (char?_of_ne htable)).trans ?_
      rfl

theorem readEntry_bare {name : String} (hname : IsBare name) (h : ReadsAs written v) :
    readEntry (readValue (depthLimit - 1)) (entryLine name written ++ rest) =
      some ((⟨[], name⟩, v), '\n' :: rest) := by
  obtain ⟨d, more, hwritten, harray, htable, hspace⟩ := h.begins
  have hshape : entryLine name written ++ rest =
      name.toList ++ ([' '] ++ '=' :: ([' '] ++ (written ++ '\n' :: rest))) := by
    simp [entryLine]
  have hkey : readKey (name.toList ++ ([' '] ++ '=' :: ([' '] ++ (written ++ '\n' :: rest)))) =
      some (⟨[], name⟩, '=' :: ([' '] ++ (written ++ '\n' :: rest))) := by
    refine readKey_bare hname ?_ (by simp [isSpace]) ?_ (by simp) <;>
    · intro d hd
      obtain rfl := Option.some.inj hd
      decide
  have hspaces : spaces ([' '] ++ (written ++ '\n' :: rest)) =
      some ((), written ++ '\n' :: rest) := by
    refine spaces_append (by simp [isSpace]) fun e he => ?_
    rw [hwritten] at he
    rw [← Option.some.inj he, hspace]
  have hvalue : readValue (depthLimit - 1) (written ++ '\n' :: rest) = some (v, '\n' :: rest) := by
    rw [readValue_scalar, h.scalar] <;> simp [hwritten, harray, htable]
  rw [hshape, readEntry, bind_of hkey, bind_of char_cons, bind_of hspaces, bind_of hvalue,
    bind_of (spaces_of_head (by decide))]
  rfl

theorem readsLine_entry {name : String} (hname : IsBare name) (h : ReadsAs written v) :
    ReadsLine (entryLine name written) (.entry ⟨[], name⟩ v) where
  reads rest := by
    obtain ⟨c, more, hcs, hc⟩ := hname.begins
    have hshape : entryLine name written ++ rest =
        c :: (more ++ ([' ', '=', ' '] ++ (written ++ ['\n'])) ++ rest) := by
      simp [entryLine, hcs]
    have hspaces : spaces (entryLine name written ++ rest) =
        some ((), entryLine name written ++ rest) := by
      rw [hshape]
      exact spaces_of_head (not_isSpace_of_isBareKeyChar hc)
    have hpeek : Scan.peek (entryLine name written ++ rest) =
        some (some c, entryLine name written ++ rest) := by
      rw [hshape]
      rfl
    have hread : (do
        let entry ← readEntry (readValue (depthLimit - 1))
        return .entry entry.1 entry.2 : Scan Statement) (entryLine name written ++ rest) =
        some (.entry ⟨[], name⟩ v, '\n' :: rest) := by
      rw [bind_of (readEntry_bare hname h)]
      rfl
    refine ⟨'\n' :: rest, ?_, rfl⟩
    rw [readStatement, bind_of hspaces, bind_of hpeek]
    refine (congrFun ?_ _).trans hread
    split
    next heq => cases heq
    next heq => exact absurd (Option.some.inj heq) (ne_of_class hc (by decide))
    next heq => exact absurd (Option.some.inj heq) (ne_of_class hc (by decide))
    next heq => exact absurd (Option.some.inj heq) (ne_of_class hc (by decide))
    next => rfl
  begins := by
    obtain ⟨c, more, hcs, hc⟩ := hname.begins
    exact ⟨c, _, by rw [entryLine, hcs, List.cons_append], ne_of_class hc (by decide)⟩
  clean := by
    have hname := hname.clean
    have hwritten := h.clean
    simp [entryLine, hname, hwritten]

/-! ### Documents -/

variable {lines : List (List Char × Statement)}

theorem unifyLines_of_clean (h : '\r' ∉ s) : unifyLines s = some s := by
  induction s with
  | nil => rfl
  | cons c s ih =>
      obtain ⟨hc, hs⟩ := not_or.mp (mt List.mem_cons.mpr h)
      rw [unifyLines, if_neg (Ne.symm hc), ih hs, Option.map_some]
      · rintro rfl
        exact absurd rfl hc
      · rintro rest rfl
        exact absurd rfl hc

theorem readStatements_succ {most : Nat} (hs : s ≠ []) : readStatements (most + 1) s = (do
    let (first, s) ← readStatement s
    let (_, s) ← endLine false s
    return first :: (← readStatements most s)) := by
  cases s with
  | nil => exact absurd rfl hs
  | cons c s => rfl

theorem ReadsLine.ne_nil {line : List Char} {statement : Statement} (h : ReadsLine line statement) :
    line ≠ [] := by
  obtain ⟨c, more, rfl, -⟩ := h.begins
  exact List.cons_ne_nil c more

theorem readStatements_lines (h : ∀ line ∈ lines, ReadsLine line.1 line.2) {most : Nat}
    (hmost : lines.length ≤ most) :
    readStatements most (lines.flatMap (·.1)) = some (lines.map (·.2)) := by
  induction lines generalizing most with
  | nil => cases most <;> rfl
  | cons line lines ih =>
      obtain ⟨hline, hlines⟩ := List.forall_mem_cons.mp h
      obtain ⟨most, rfl⟩ : ∃ k, most = k + 1 := ⟨most - 1, by simp at hmost; omega⟩
      obtain ⟨left, hread, hend⟩ := hline.reads (lines.flatMap (·.1))
      have hrest := ih hlines (Nat.le_of_succ_le_succ hmost)
      rw [List.flatMap_cons, readStatements_succ (List.append_ne_nil_of_left_ne_nil hline.ne_nil _),
        hread]
      simp only [Option.bind_eq_bind, Option.bind_some, hend, hrest, List.map_cons]
      rfl

theorem length_le_flatMap (h : ∀ line ∈ lines, ReadsLine line.1 line.2) :
    lines.length ≤ (lines.flatMap (·.1)).length := by
  induction lines with
  | nil => exact Nat.le_refl 0
  | cons line lines ih =>
      obtain ⟨hline, hlines⟩ := List.forall_mem_cons.mp h
      have hpos := List.length_pos_iff.mpr hline.ne_nil
      have hrest := ih hlines
      rw [List.flatMap_cons, List.length_append, List.length_cons]
      omega

theorem withoutByteOrderMark_of_ne {c : Char} (hc : c ≠ '\uFEFF') :
    Text.withoutByteOrderMark (c :: s) = c :: s := by
  unfold Text.withoutByteOrderMark
  split
  next heq => exact absurd (List.cons.inj heq).1 hc
  next => rfl

/-- A document of such lines is read line by line. -/
theorem parse?_lines (h : ∀ line ∈ lines, ReadsLine line.1 line.2) :
    parse? (lines.flatMap (·.1)) = ofStatements (lines.map (·.2)) := by
  have hmark : Text.withoutByteOrderMark (lines.flatMap (·.1)) = lines.flatMap (·.1) := by
    cases lines with
    | nil => rfl
    | cons line lines =>
        obtain ⟨c, more, hcs, hc⟩ := (h line List.mem_cons_self).begins
        rw [List.flatMap_cons, hcs]
        exact withoutByteOrderMark_of_ne hc
  have hclean : '\r' ∉ lines.flatMap (·.1) := by
    rw [List.mem_flatMap]
    rintro ⟨line, hline, hreturn⟩
    exact (h line hline).clean hreturn
  rw [parse?, hmark, unifyLines_of_clean hclean]
  simp only [Option.bind_eq_bind, Option.bind_some, readStatements_lines h (length_le_flatMap h)]

end Toml

end ClusterAccess
