import ClusterAccess.Proofs.Json.Number

/-!
Reading undoes writing. Every value whose numbers are integers of 64 bits, and in which not too
many arrays and objects are open at a time, is read back from its compact form.
-/

namespace ClusterAccess.Json

open Text (hexValue?)

mutual

/-- Whether all numbers are integers of 64 bits, with at most `room` arrays and objects open at a
time. -/
def isReadable : Nat → Json → Bool
  | _, null | _, bool _ | _, str _ => true
  | _, int n => isWord n
  | _, real _ => false
  | 0, arr _ | 0, obj _ => false
  | room + 1, arr items => itemsAreReadable room items
  | room + 1, obj fields => fieldsAreReadable room fields

def itemsAreReadable (room : Nat) : List Json → Bool
  | [] => true
  | v :: rest => v.isReadable room && itemsAreReadable room rest

def fieldsAreReadable (room : Nat) : List (String × Json) → Bool
  | [] => true
  | (_, v) :: rest => v.isReadable room && fieldsAreReadable room rest

end

namespace Document

mutual

def ofJson : Json → Document
  | arr items => array (ofItems items)
  | obj fields => object (ofFields fields)
  | other => scalar (some other)

def ofItems : List Json → List Document
  | [] => []
  | v :: rest => ofJson v :: ofItems rest

def ofFields : List (String × Json) → List (Option String × Document)
  | [] => []
  | (key, v) :: rest => (some key, ofJson v) :: ofFields rest

end

mutual

theorem value?_ofJson (room : Nat) (v : Json) (h : v.isReadable room = true) :
    (ofJson v).value? room = some v := by
  cases v with
  | arr items =>
      cases room with
      | zero => simp [isReadable] at h
      | succ room =>
          rw [ofJson, value?, itemValues?_ofItems room items (by simpa [isReadable] using h)]
          rfl
  | obj fields =>
      cases room with
      | zero => simp [isReadable] at h
      | succ room =>
          rw [ofJson, value?, fieldValues?_ofFields room fields (by simpa [isReadable] using h)]
          rfl
  | _ => simp [ofJson, value?]

theorem itemValues?_ofItems (room : Nat) (items : List Json)
    (h : itemsAreReadable room items = true) :
    itemValues? room (ofItems items) = some items := by
  cases items with
  | nil => rfl
  | cons v rest =>
      obtain ⟨hv, hrest⟩ := Bool.and_eq_true_iff.mp h
      simp [ofItems, itemValues?, value?_ofJson room v hv, itemValues?_ofItems room rest hrest]

theorem fieldValues?_ofFields (room : Nat) (fields : List (String × Json))
    (h : fieldsAreReadable room fields = true) :
    fieldValues? room (ofFields fields) = some fields := by
  cases fields with
  | nil => rfl
  | cons field rest =>
      obtain ⟨key, v⟩ := field
      obtain ⟨hv, hrest⟩ := Bool.and_eq_true_iff.mp h
      simp [ofFields, fieldValues?, value?_ofJson room v hv,
        fieldValues?_ofFields room rest hrest]

end

end Document

/-! ### The reader -/

def read (s : ReadState) (cs : List Char) : Option ReadState := cs.foldlM step s

@[simp] theorem read_nil (s : ReadState) : read s [] = some s := rfl

theorem read_cons (s : ReadState) (c : Char) (cs : List Char) :
    read s (c :: cs) = (step s c).bind (read · cs) := rfl

theorem read_append (s : ReadState) (front back : List Char) :
    read s (front ++ back) = (read s front).bind (read · back) := by
  rw [read, List.foldlM_append]
  rfl

/-- The modes in which a value may begin. -/
inductive Begins : Mode → Prop where
  | value : Begins .value
  | valueOrClose : Begins .valueOrClose

/-- In this state the document is complete. A number is complete where it could also go on, and
becomes part of what is open with the character after it. -/
def Reads (d : Document) (stack : List Frame) (s : ReadState) : Prop :=
  s = finish d stack ∨
    ∃ chars, s = ⟨stack, .number chars⟩ ∧ number? chars.reverse = some d

variable {stack : List Frame} {mode : Mode} {d : Document} {s : ReadState} {c : Char}

/-- After a complete document the reader goes on as if it had taken it in. -/
theorem Reads.step (h : Reads d stack s) (hc : isNumberChar c = false) :
    Json.step s c = Json.step (finish d stack) c := by
  obtain rfl | ⟨chars, rfl, hnumber⟩ := h
  · rfl
  · simp only [Json.step, hc, hnumber]
    cases stack with
    | nil => simp [finish, between]
    | cons frame stack => cases frame <;> rfl

theorem Reads.result? (h : Reads d [] s) : Json.result? s = some d := by
  obtain rfl | ⟨chars, rfl, hnumber⟩ := h
  · rfl
  · exact hnumber

/-! ### Strings -/

theorem hexValue?_hexDigit {n : Nat} (hn : n < 16) : hexValue? (hexDigit n) = some n := by
  have hall : ∀ n < 16, hexValue? (hexDigit n) = some n := by decide
  exact hall n hn

theorem read_writeChar {isKey : Bool} {units : List Nat} :
    read ⟨stack, .text isKey units⟩ (writeChar c) =
      some ⟨stack, .text isKey (c.toNat :: units)⟩ := by
  unfold writeChar
  split
  next hc => subst hc; rfl
  next hquote =>
  split
  next hc => subst hc; rfl
  next hback =>
  split
  next hc => subst hc; rfl
  next =>
  split
  next hc => subst hc; rfl
  next =>
  split
  next hc => subst hc; rfl
  next =>
  split
  next hc => subst hc; rfl
  next =>
  split
  next hc => subst hc; rfl
  next =>
  split
  next hlow =>
    have hhigh := hexValue?_hexDigit (n := c.toNat / 16) (by omega)
    have hrest := hexValue?_hexDigit (n := c.toNat % 16) (by omega)
    have hcode : 16 * (c.toNat / 16) + c.toNat % 16 = c.toNat := by omega
    have hzero : hexValue? '0' = some 0 := rfl
    simp [read_cons, step, hhigh, hrest, hzero, hcode]
  next hlow => simp [read_cons, step, hquote, hback, hlow]

theorem read_writeChars {isKey : Bool} {units : List Nat} (cs : List Char) :
    read ⟨stack, .text isKey units⟩ (cs.flatMap writeChar) =
      some ⟨stack, .text isKey ((cs.map Char.toNat).reverse ++ units)⟩ := by
  induction cs generalizing units with
  | nil => rfl
  | cons c cs ih =>
      rw [List.flatMap_cons, read_append, read_writeChar, Option.bind_some, ih]
      simp

theorem not_surrogate (c : Char) :
    Text.Utf16.isHigh c.toNat = false ∧ Text.Utf16.isLow c.toNat = false := by
  have hc : c.toNat < 0xD800 ∨ 0xDFFF < c.toNat ∧ c.toNat < 0x110000 := c.valid
  simp only [Text.Utf16.isHigh, Text.Utf16.isLow, Bool.and_eq_false_iff, decide_eq_false_iff_not]
  omega

theorem ofUnits?_cons (after : List Char) (units : List Nat) :
    Text.Utf16.ofUnits? after (c.toNat :: units) = Text.Utf16.ofUnits? (c :: after) units := by
  obtain ⟨hhigh, hlow⟩ := not_surrogate c
  cases units <;> simp [Text.Utf16.ofUnits?, hhigh, hlow, Char.ofNat_toNat]

theorem ofUnits?_map (cs after : List Char) :
    Text.Utf16.ofUnits? after (cs.map Char.toNat) = some (cs.reverse ++ after) := by
  induction cs generalizing after with
  | nil => rfl
  | cons c cs ih =>
      rw [List.map_cons, ofUnits?_cons, ih]
      simp

/-- The text between two quotes is taken in as it was before it was written. -/
theorem read_quoted {isKey : Bool} (text : String) :
    read ⟨stack, .text isKey []⟩ (text.toList.flatMap writeChar ++ ['"']) =
      if isKey then
        match stack with
        | .object fields _ :: rest => some ⟨.object fields (some text) :: rest, .colon⟩
        | _ => none
      else some (finish (.scalar (some (.str text))) stack) := by
  have hunits : Text.Utf16.ofUnits? [] (text.toList.map Char.toNat).reverse =
      some text.toList := by
    rw [← List.map_reverse, ofUnits?_map, List.reverse_reverse, List.append_nil]
  rw [read_append, read_writeChars, List.append_nil, Option.bind_some, read_cons]
  simp only [step, finishText, hunits, if_true, Option.map_some, String.ofList_toList]
  cases isKey with
  | false => rfl
  | true =>
      cases stack with
      | nil => rfl
      | cons frame stack => cases frame <;> rfl

/-! ### Values -/

theorem read_digits {chars digits : List Char} (hdigits : ∀ c ∈ digits, c.isDigit = true) :
    read ⟨stack, .number chars⟩ digits = some ⟨stack, .number (digits.reverse ++ chars)⟩ := by
  induction digits generalizing chars with
  | nil => rfl
  | cons c digits ih =>
      obtain ⟨hc, hdigits⟩ := List.forall_mem_cons.mp hdigits
      have hstep : step ⟨stack, .number chars⟩ c = some ⟨stack, .number (c :: chars)⟩ := by
        simp [step, isNumberChar, hc]
      rw [read_cons, hstep, Option.bind_some, ih hdigits]
      simp

theorem step_number (hmode : Begins mode) (hc : (c = '-' || c.isDigit) = true) :
    step ⟨stack, mode⟩ c = some ⟨stack, .number [c]⟩ := by
  have hne : ∀ d : Char, (d = '-' || d.isDigit) = false → c ≠ d := by
    rintro d hd rfl
    rw [hc] at hd
    exact Bool.noConfusion hd
  have hspace : isSpace c = false := by
    simp [isSpace, hne ' ' rfl, hne '\n' rfl, hne '\t' rfl, hne '\r' rfl]
  have hbegin : beginValue stack c = some ⟨stack, .number [c]⟩ := by
    simp only [beginValue, hne '"' rfl, hne '[' rfl, hne '\x7b' rfl, hne 't' rfl, hne 'f' rfl,
      hne 'n' rfl, hc, if_true, if_false]
  cases hmode with
  | value => simpa [step, between, hspace] using hbegin
  | valueOrClose => simpa [step, between, hspace, hne ']' rfl] using hbegin

theorem read_writeInt (hmode : Begins mode) {n : Int} (hn : isWord n = true) :
    ∃ s, read ⟨stack, mode⟩ (writeInt n) = some s ∧ Reads (.scalar (some (.int n))) stack s := by
  have hchars : ∃ c digits, writeInt n = c :: digits ∧ (c = '-' || c.isDigit) = true ∧
      ∀ c ∈ digits, c.isDigit = true := by
    have hall : ∀ c ∈ Nat.toDigits 10 n.natAbs, c.isDigit = true :=
      fun _ hc => isDigit_of_mem_toDigits hc
    unfold writeInt
    split
    next => exact ⟨'-', _, rfl, rfl, hall⟩
    next =>
      obtain ⟨c, digits, hdigits⟩ := List.exists_cons_of_ne_nil
        (Nat.toDigits_ne_nil (n := n.natAbs) (b := 10))
      rw [hdigits, List.forall_mem_cons] at hall
      exact ⟨c, digits, hdigits, by simp [hall.1], hall.2⟩
  obtain ⟨c, digits, hwrite, hc, hdigits⟩ := hchars
  refine ⟨⟨stack, .number (digits.reverse ++ [c])⟩, ?_, .inr ⟨_, rfl, ?_⟩⟩
  · rw [hwrite, read_cons, step_number hmode hc]
    exact read_digits hdigits
  · rw [List.reverse_append, List.reverse_reverse, List.reverse_singleton,
      List.singleton_append, ← hwrite]
    exact number?_writeInt hn

theorem read_key {key : String} {before : List (Option String × Document)} {cs : List Char}
    (hmode : mode = .key ∨ mode = .keyOrClose) :
    read ⟨.object before none :: stack, mode⟩ (writeText key ++ ':' :: cs) =
      read ⟨.object before (some key) :: stack, .value⟩ cs := by
  have hstep : step ⟨.object before none :: stack, mode⟩ '"' =
      some ⟨.object before none :: stack, .text true []⟩ := by
    obtain rfl | rfl := hmode <;> rfl
  rw [writeText, List.cons_append, List.cons_append, read_cons, hstep, Option.bind_some,
    read_append, read_quoted]
  rfl

mutual

/-- After the written form of a value its document is complete. -/
theorem read_write (room : Nat) (v : Json) (h : v.isReadable room = true) (stack : List Frame)
    (mode : Mode) (hmode : Begins mode) :
    ∃ s, read ⟨stack, mode⟩ v.write = some s ∧ Reads (.ofJson v) stack s := by
  cases v with
  | null => cases hmode <;> exact ⟨_, rfl, .inl rfl⟩
  | bool value => cases value <;> cases hmode <;> exact ⟨_, rfl, .inl rfl⟩
  | int n => exact read_writeInt hmode (by simpa [isReadable] using h)
  | real written => simp [isReadable] at h
  | str text =>
      refine ⟨_, ?_, .inl rfl⟩
      have hstep : step ⟨stack, mode⟩ '"' = some ⟨stack, .text false []⟩ := by
        cases hmode <;> rfl
      rw [write, writeText, List.cons_append, read_cons, hstep]
      exact read_quoted text
  | arr items =>
      cases room with
      | zero => simp [isReadable] at h
      | succ room =>
          have hitems : itemsAreReadable room items = true := by simpa [isReadable] using h
          have hstep : step ⟨stack, mode⟩ '[' = some ⟨.array [] :: stack, .valueOrClose⟩ := by
            cases hmode <;> rfl
          refine ⟨_, ?_, .inl rfl⟩
          rw [write, List.cons_append, read_cons, hstep]
          exact read_writeItems room items hitems stack [] _ (.inl rfl)
  | obj fields =>
      cases room with
      | zero => simp [isReadable] at h
      | succ room =>
          have hfields : fieldsAreReadable room fields = true := by simpa [isReadable] using h
          have hstep : step ⟨stack, mode⟩ '\x7b' =
              some ⟨.object [] none :: stack, .keyOrClose⟩ := by
            cases hmode <;> rfl
          refine ⟨_, ?_, .inl rfl⟩
          rw [write, List.cons_append, read_cons, hstep]
          exact read_writeFields room fields hfields stack [] _ (.inl rfl)

theorem read_writeItems (room : Nat) (items : List Json)
    (h : itemsAreReadable room items = true) (stack : List Frame) (before : List Document)
    (mode : Mode) (hmode : mode = .valueOrClose ∨ mode = .value ∧ items ≠ []) :
    read ⟨.array before :: stack, mode⟩ (writeItems items ++ [']']) =
      some (finish (.array (before.reverse ++ Document.ofItems items)) stack) := by
  cases items with
  | nil =>
      obtain rfl | ⟨-, hne⟩ := hmode
      · rw [Document.ofItems, List.append_nil]
        rfl
      · exact absurd rfl hne
  | cons v rest =>
      obtain ⟨hv, hrest⟩ := Bool.and_eq_true_iff.mp h
      have hbegins : Begins mode := by
        obtain rfl | ⟨rfl, -⟩ := hmode
        · exact .valueOrClose
        · exact .value
      obtain ⟨s, hs, hreads⟩ := read_write room v hv (.array before :: stack) mode hbegins
      cases rest with
      | nil =>
          rw [writeItems, read_append, hs, Option.bind_some, read_cons, hreads.step rfl]
          simp [finish, step, between, isSpace, closeArray, Document.ofItems]
      | cons w rest =>
          have hcomma : step s ',' = some ⟨.array (.ofJson v :: before) :: stack, .value⟩ := by
            rw [hreads.step rfl]
            rfl
          rw [writeItems, List.append_assoc, read_append, hs, Option.bind_some, List.cons_append,
            read_cons, hcomma, Option.bind_some,
            read_writeItems room (w :: rest) hrest stack _ _ (.inr ⟨rfl, List.cons_ne_nil _ _⟩)]
          simp [Document.ofItems]

theorem read_writeFields (room : Nat) (fields : List (String × Json))
    (h : fieldsAreReadable room fields = true) (stack : List Frame)
    (before : List (Option String × Document)) (mode : Mode)
    (hmode : mode = .keyOrClose ∨ mode = .key ∧ fields ≠ []) :
    read ⟨.object before none :: stack, mode⟩ (writeFields fields ++ ['\x7d']) =
      some (finish (.object (before.reverse ++ Document.ofFields fields)) stack) := by
  cases fields with
  | nil =>
      obtain rfl | ⟨-, hne⟩ := hmode
      · rw [Document.ofFields, List.append_nil]
        rfl
      · exact absurd rfl hne
  | cons field rest =>
      obtain ⟨key, v⟩ := field
      obtain ⟨hv, hrest⟩ := Bool.and_eq_true_iff.mp h
      have hkey : mode = .key ∨ mode = .keyOrClose := hmode.symm.imp And.left id
      obtain ⟨s, hs, hreads⟩ :=
        read_write room v hv (.object before (some key) :: stack) .value .value
      cases rest with
      | nil =>
          rw [writeFields, List.append_assoc, List.cons_append, read_key hkey, read_append, hs,
            Option.bind_some, read_cons, hreads.step rfl]
          simp [finish, step, between, isSpace, closeObject, Document.ofFields]
      | cons f rest =>
          have hcomma : step s ',' =
              some ⟨.object ((some key, .ofJson v) :: before) none :: stack, .key⟩ := by
            rw [hreads.step rfl]
            rfl
          rw [writeFields, List.append_assoc, List.append_assoc, List.cons_append, read_key hkey,
            read_append, hs, Option.bind_some, List.cons_append, read_cons, hcomma,
            Option.bind_some,
            read_writeFields room (f :: rest) hrest stack _ _ (.inr ⟨rfl, List.cons_ne_nil _ _⟩)]
          simp [Document.ofFields]

end

theorem document?_write {room : Nat} {v : Json} (h : v.isReadable room = true) :
    document? v.write = some (.ofJson v) := by
  obtain ⟨s, hs, hreads⟩ := read_write room v h [] .value .value
  rw [document?]
  change (read ⟨[], .value⟩ v.write).bind Json.result? = _
  rw [hs]
  exact hreads.result?

/-- A value is read back from its compact form. -/
theorem parse?_compact {v : Json} (h : v.isReadable depthLimit = true) :
    parse? v.compact.toList = some v := by
  rw [compact, String.toList_ofList, parse?, document?_write h]
  exact Document.value?_ofJson depthLimit v h

end ClusterAccess.Json
