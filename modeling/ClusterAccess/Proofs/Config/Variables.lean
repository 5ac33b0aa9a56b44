import ClusterAccess.Proofs.Config.Layering
import ClusterAccess.Proofs.Text.Number
import ClusterAccess.Proofs.Text.Utf8
import Mathlib.Data.List.Forall2

/-!
The environment as a source. Each setting has a variable and some texts that write a value of it.
What a loaded environment sets is what its variables write; a variable that is set to such a text is
read back, whichever of the texts it is. Loading fails when a variable has another text and only
then, and of several such variables the fault names the first in the order of the layer.
-/

namespace ClusterAccess

namespace Text

/-! ### Letter case -/

def Spells (text word : String) : Prop :=
  List.Forall₂ (fun c letter => c = letter ∨ c = letter.toUpper) text.toList word.toList

theorem toNat_toLower (c : Char) : c.toLower.toNat =
    if 65 ≤ c.toNat ∧ c.toNat ≤ 90 then c.toNat + 32 else c.toNat := by
  unfold Char.toLower
  split
  next h =>
    have hbounds : 65 ≤ c.toNat ∧ c.toNat ≤ 90 := h
    show (c.val + 32).toNat = _
    rw [if_pos hbounds, UInt32.toNat_add]
    show (c.toNat + 32) % 4294967296 = _
    omega
  next h =>
    have hbounds : ¬(65 ≤ c.toNat ∧ c.toNat ≤ 90) := h
    rw [if_neg hbounds]

theorem toNat_toUpper (c : Char) : c.toUpper.toNat =
    if 97 ≤ c.toNat ∧ c.toNat ≤ 122 then c.toNat - 32 else c.toNat := by
  unfold Char.toUpper
  split
  next h =>
    have hbounds : 97 ≤ c.toNat ∧ c.toNat ≤ 122 := h
    show (c.val + ('A'.val - 'a'.val)).toNat = _
    rw [if_pos hbounds, UInt32.toNat_add]
    show (c.toNat + 4294967264) % 4294967296 = _
    omega
  next h =>
    have hbounds : ¬(97 ≤ c.toNat ∧ c.toNat ≤ 122) := h
    rw [if_neg hbounds]

theorem bounds_of_isLower {c : Char} (hc : c.isLower = true) :
    97 ≤ c.toNat ∧ c.toNat ≤ 122 := by
  have hand : (decide ('a'.val ≤ c.val) && decide (c.val ≤ 'z'.val)) = true := hc
  rw [Bool.and_eq_true, decide_eq_true_eq, decide_eq_true_eq] at hand
  exact hand

theorem toLower_eq_iff {c letter : Char} (hletter : letter.isLower = true) :
    c.toLower = letter ↔ c = letter ∨ c = letter.toUpper := by
  have hbounds := bounds_of_isLower hletter
  rw [← Char.toNat_inj, ← Char.toNat_inj, ← Char.toNat_inj, toNat_toLower, toNat_toUpper,
    if_pos hbounds]
  split <;> omega

theorem map_toLower_eq_iff {cs letters : List Char} (hletters : letters.all Char.isLower = true) :
    cs.map Char.toLower = letters ↔
      List.Forall₂ (fun c letter => c = letter ∨ c = letter.toUpper) cs letters := by
  induction letters generalizing cs with
  | nil => rw [List.map_eq_nil_iff, List.forall₂_nil_right_iff]
  | cons letter letters ih =>
      rw [List.all_cons, Bool.and_eq_true] at hletters
      rw [List.map_eq_cons_iff, List.forall₂_cons_right_iff]
      constructor
      · rintro ⟨c, cs, rfl, hc, hcs⟩
        exact ⟨c, cs, (toLower_eq_iff hletters.1).mp hc, (ih hletters.2).mp hcs, rfl⟩
      · rintro ⟨c, cs, hc, hcs, rfl⟩
        exact ⟨c, cs, rfl, (toLower_eq_iff hletters.1).mpr hc, (ih hletters.2).mpr hcs⟩

theorem lowerAscii_eq_iff {text word : String} (hword : word.toList.all Char.isLower = true) :
    lowerAscii text = word ↔ Spells text word := by
  rw [Spells, ← map_toLower_eq_iff hword, lowerAscii, ← String.toList_inj, String.toList_ofList]

end Text

/-! ### Texts of a setting -/

def GateMode.Spelled (mode : GateMode) (text : String) : Prop := Text.Spells text mode.text

def LogFormat.Spelled (format : LogFormat) (text : String) : Prop := Text.Spells text format.name

namespace Setting

def WritesBoolean (b : Bool) (text : String) : Prop :=
  text = (if b then "1" else "0") ∨ Text.Spells text (if b then "true" else "false")

def WritesCapacity (n : Nat) (text : String) : Prop :=
  Text.WritesNumber n text ∧ n < Nat.pow 2 64

/-- The text writes the value. -/
def Writes : (s : Setting) → s.Value → String → Prop
  | kubeconfig | context | userHeader | userPrefix | logLevel => fun v text => text = v ∧ v ≠ ""
  | preferInCluster | disableAuth => WritesBoolean
  | coreCapacity | storageCapacity | customObjectsCapacity => WritesCapacity
  | gateMode => GateMode.Spelled
  | logFormat => LogFormat.Spelled

/-- The value can be written, where capacities are below the limit. -/
def Fits (limit : Nat) : (s : Setting) → s.Value → Prop
  | kubeconfig | context | userHeader | userPrefix | logLevel => fun v => v ≠ ""
  | coreCapacity | storageCapacity | customObjectsCapacity => fun n => LT.lt (α := Nat) n limit
  | preferInCluster | disableAuth | gateMode | logFormat => fun _ => True

variable {text : String}

theorem boolean_eq_ok {b : Bool} : Environment.boolean text = .ok b ↔ WritesBoolean b text := by
  have htrue : WritesBoolean true text ↔ text = "1" ∨ Text.lowerAscii text = "true" :=
    or_congr_right (Text.lowerAscii_eq_iff (by decide)).symm
  have hfalse : WritesBoolean false text ↔ text = "0" ∨ Text.lowerAscii text = "false" :=
    or_congr_right (Text.lowerAscii_eq_iff (by decide)).symm
  -- No text is a word for both values.
  have hdisjoint : text = "0" ∨ Text.lowerAscii text = "false" →
      ¬(text = "1" ∨ Text.lowerAscii text = "true") := by
    rintro (rfl | hword)
    · decide
    · rintro (rfl | hother)
      · exact absurd hword (by decide)
      · exact absurd (hword.symm.trans hother) (by decide)
  simp only [Environment.boolean]
  split
  next hyes =>
    cases b with
    | true => simpa only [htrue, true_iff] using hyes
    | false => simpa [hfalse] using fun hno => hdisjoint hno hyes
  next hyes =>
    split
    next hno => cases b <;> simp [htrue, hfalse, hyes, hno]
    next hno => cases b <;> simp [htrue, hfalse, hyes, hno]

theorem capacity_eq_ok {n : Nat} : Environment.capacity text = .ok n ↔ WritesCapacity n text := by
  have hlimit : n ≤ Environment.capacityLimit ↔ n < Nat.pow 2 64 :=
    Nat.le_sub_one_iff_lt (by decide)
  rw [Environment.capacity, mapError_eq_ok, Text.readNumber_eq_ok, hlimit, WritesCapacity]

theorem gateMode_eq_ok {mode : GateMode} :
    Environment.gateMode text = .ok mode ↔ mode.Spelled text := by
  have hword : (GateMode.text mode).toList.all Char.isLower = true := by cases mode <;> decide
  rw [Environment.gateMode, mapError_eq_ok, GateMode.Spelled, ← Text.lowerAscii_eq_iff hword]
  simp only [GateMode.readSetting, GateMode.ofText?]
  by_cases hselective : Text.lowerAscii text = "selective"
  · cases mode <;> simp [hselective, GateMode.text]
  · by_cases hstrict : Text.lowerAscii text = "strict"
    · cases mode <;> simp [hstrict, GateMode.text]
    · cases mode <;> simp [hselective, hstrict, GateMode.text]

theorem logFormat_eq_ok {format : LogFormat} :
    Environment.logFormat text = .ok format ↔ format.Spelled text := by
  have hword : (LogFormat.name format).toList.all Char.isLower = true := by
    cases format <;> decide
  rw [Environment.logFormat, mapError_eq_ok, LogFormat.Spelled, ← Text.lowerAscii_eq_iff hword]
  simp only [LogFormat.read, LogFormat.ofName?]
  by_cases htext : Text.lowerAscii text = "text"
  · cases format <;> simp [htext, LogFormat.name]
  · by_cases hjson : Text.lowerAscii text = "json"
    · cases format <;> simp [hjson, LogFormat.name]
    · cases format <;> simp [htext, hjson, LogFormat.name]

theorem textual_eq_ok {v : String} (htext : text ≠ "") :
    (Except.ok text : Except ValueFault String) = .ok v ↔ text = v ∧ v ≠ "" := by
  rw [Except.ok.injEq]
  exact ⟨fun h => ⟨h, h ▸ htext⟩, And.left⟩

/-- A text that is not empty is read as the value that it writes. -/
theorem read_eq_ok {s : Setting} {v : s.Value} (htext : text ≠ "") :
    s.read text = .ok v ↔ s.Writes v text := by
  cases s
  case preferInCluster | disableAuth => exact boolean_eq_ok
  case coreCapacity | storageCapacity | customObjectsCapacity => exact capacity_eq_ok
  case gateMode => exact gateMode_eq_ok
  case logFormat => exact logFormat_eq_ok
  all_goals exact textual_eq_ok htext

theorem not_writes_empty {s : Setting} (v : s.Value) : ¬s.Writes v "" := by
  have hspells {word : String} (hword : word ≠ "") : ¬Text.Spells "" word := fun h =>
    hword (String.toList_eq_nil_iff.mp (List.forall₂_nil_left_iff.mp h))
  cases s
  case preferInCluster | disableAuth =>
    rintro (h | h)
    · cases v <;> exact absurd h (by decide)
    · cases v <;> exact hspells (by decide) h
  case coreCapacity | storageCapacity | customObjectsCapacity =>
    rintro ⟨h | ⟨digits, h, -⟩, -⟩
    · exact h.ne_nil rfl
    · cases h
  case gateMode => exact hspells (by cases v <;> decide)
  case logFormat => exact hspells (by cases v <;> decide)
  all_goals exact fun h => h.2 h.1.symm

theorem spells_self (word : String) : Text.Spells word word :=
  List.forall₂_same.mpr fun _ _ => .inl rfl

theorem exists_writes {s : Setting} {v : s.Value} (h : s.Fits (Nat.pow 2 64) v) :
    ∃ text, s.Writes v text := by
  cases s
  case preferInCluster | disableAuth => exact ⟨_, .inl rfl⟩
  case coreCapacity | storageCapacity | customObjectsCapacity =>
    exact ⟨String.ofList (Nat.toDigits 10 v), .inl ⟨0, String.toList_ofList⟩, h⟩
  case gateMode | logFormat => exact ⟨_, spells_self _⟩
  all_goals exact ⟨v, rfl, h⟩

theorem variableName_injective : Function.Injective variableName := by
  intro s t h
  cases s <;> cases t <;> first | rfl | exact absurd h (by decide)

end Setting

/-- All that the layer sets can be written, where capacities are below the limit. -/
def ConfigLayer.Fits (limit : Nat) (layer : ConfigLayer) : Prop :=
  ∀ s v, layer.value? s = some v → s.Fits limit v

/-! ### Loading -/

namespace Host

/-- The variables of what the layer sets write it, and the other ones are unset or empty. -/
def Writes (host : Host) (layer : ConfigLayer) : Prop :=
  ∀ s : Setting, match layer.value? s with
    | some v => ∃ text, host.env s.variableName = some (Text.Utf8.encode text.toList) ∧
        s.Writes v text
    | none => host.env s.variableName = none ∨ host.env s.variableName = some []

theorem exists_host (bytes : Setting → Option (List UInt8)) :
    ∃ host : Host, ∀ s : Setting, host.env s.variableName = bytes s := by
  classical
  refine ⟨{ Config.bareHost with env := fun name =>
    if h : ∃ s : Setting, s.variableName = name then bytes h.choose else none }, fun s => ?_⟩
  have hs : ∃ t : Setting, t.variableName = s.variableName := ⟨s, rfl⟩
  show (if h : ∃ t : Setting, t.variableName = s.variableName then bytes h.choose else none) = _
  rw [dif_pos hs, Setting.variableName_injective hs.choose_spec]

/-- Every layer of values that can be written is written by some variables. -/
theorem exists_writes {layer : ConfigLayer} (h : layer.Fits (Nat.pow 2 64)) :
    ∃ host : Host, host.Writes layer := by
  have htexts (s : Setting) : ∃ bytes, match layer.value? s with
      | some v => ∃ text, bytes = some (Text.Utf8.encode text.toList) ∧ s.Writes v text
      | none => bytes = none ∨ bytes = some [] := by
    cases hvalue : layer.value? s with
    | some v =>
        obtain ⟨text, htext⟩ := Setting.exists_writes (h s v hvalue)
        exact ⟨_, text, rfl, htext⟩
    | none => exact ⟨none, .inl rfl⟩
  choose bytes hbytes using htexts
  obtain ⟨host, hhost⟩ := exists_host bytes
  refine ⟨host, fun s => ?_⟩
  rw [hhost]
  exact hbytes s

/-- The variable is set to a text that writes no value. -/
def Garbles (host : Host) (s : Setting) : Prop :=
  ∃ text, host.text? s.variableName = some text ∧ text ≠ "" ∧ ∀ v, ¬s.Writes v text

end Host

namespace Environment

variable {host : Host} {s : Setting}

/-- A variable is set to a text that writes no value, or the environment has what it writes. -/
theorem value?_run (host : Host) (s : Setting) :
    (host.Garbles s ∧ ∃ cause, value? host s = .error (.invalidValue s.variableName cause)) ∨
    (¬host.Garbles s ∧ ∃ v?, value? host s = .ok v? ∧
      ∀ v, v? = some v ↔ ∃ text, host.text? s.variableName = some text ∧ s.Writes v text) := by
  cases htext : host.text? s.variableName with
  | none =>
      refine .inr ⟨?_, none, value?_of_unset (by simp [Host.nonEmpty?, htext]), by simp⟩
      rintro ⟨text, hsome, -⟩
      rw [htext] at hsome
      cases hsome
  | some text =>
      rcases eq_or_ne text "" with rfl | hne
      · refine .inr ⟨?_, none, value?_of_unset (by simp [Host.nonEmpty?, htext]), ?_⟩
        · rintro ⟨text, hsome, hne, -⟩
          exact hne (Option.some.inj (hsome.symm.trans htext))
        · simp [Setting.not_writes_empty]
      have hnonEmpty : host.nonEmpty? s.variableName = some text := by
        simp [Host.nonEmpty?, htext, hne]
      have hvalue : value? host s =
          ((s.read text).map some).mapError (.invalidValue s.variableName) := by
        simp only [value?, typed, hnonEmpty]
      cases hread : s.read text with
      | error cause =>
          refine .inl ⟨⟨text, htext, hne, fun v hv => ?_⟩, cause, by rw [hvalue, hread]; rfl⟩
          rw [(Setting.read_eq_ok hne).mpr hv] at hread
          cases hread
      | ok w =>
          have hwrites := (Setting.read_eq_ok hne).mp hread
          refine .inr ⟨?_, some w, by rw [hvalue, hread]; rfl, fun v => ?_⟩
          · rintro ⟨other, hsome, -, hnone⟩
            obtain rfl := Option.some.inj (hsome.symm.trans htext)
            exact hnone w hwrites
          · rw [Option.some.injEq]
            constructor
            · rintro rfl
              exact ⟨text, rfl, hwrites⟩
            · rintro ⟨other, hsome, hother⟩
              obtain rfl := Option.some.inj hsome
              exact Except.ok.inj (hread.symm.trans ((Setting.read_eq_ok hne).mpr hother))

theorem fault?_of_garbles (h : host.Garbles s) :
    ∃ cause, fault? host s = some (.invalidValue s.variableName cause) := by
  obtain ⟨-, cause, hvalue⟩ | ⟨hnot, -⟩ := value?_run host s
  · exact ⟨cause, by rw [fault?, hvalue]⟩
  · exact absurd h hnot

theorem fault?_eq_none_iff : fault? host s = none ↔ ¬host.Garbles s := by
  obtain ⟨hgarbles, cause, hvalue⟩ | ⟨hnot, v?, hvalue, -⟩ := value?_run host s
  · simp [fault?, hvalue, hgarbles]
  · simp [fault?, hvalue, hnot]

/-- If some typed variable is garbled there is a first one. -/
theorem first_garbled (host : Host) : (∀ s ∈ Setting.typed, ¬host.Garbles s) ∨
    ∃ before s after, Setting.typed = before ++ s :: after ∧ (∀ t ∈ before, ¬host.Garbles t) ∧
      host.Garbles s := by
  cases hfault : Setting.typed.findSome? (fault? host) with
  | none =>
      exact .inl fun s hs => fault?_eq_none_iff.mp (List.findSome?_eq_none_iff.mp hfault s hs)
  | some fault =>
      obtain ⟨before, s, after, htyped, hs, hbefore⟩ := List.findSome?_eq_some_iff.mp hfault
      refine .inr ⟨before, s, after, htyped, fun t ht => fault?_eq_none_iff.mp (hbefore t ht), ?_⟩
      by_contra hnot
      rw [fault?_eq_none_iff.mpr hnot] at hs
      cases hs

theorem loaded_eq_some_iff {layer : ConfigLayer} (h : ∀ s, value? host s = .ok (layer.value? s))
    {v : s.Value} : layer.value? s = some v ↔
      ∃ text, host.text? s.variableName = some text ∧ s.Writes v text := by
  obtain ⟨-, cause, hvalue⟩ | ⟨-, v?, hvalue, hwritten⟩ := value?_run host s
  · rw [h s] at hvalue
    cases hvalue
  · rw [h s] at hvalue
    rw [Except.ok.inj hvalue, hwritten]

end Environment

namespace ConfigSource

variable {host : Host} {layer : ConfigLayer} {s : Setting}

/-- The environment is loaded exactly when no typed variable is garbled. -/
theorem exists_load_environment (h : ∀ s ∈ Setting.typed, ¬host.Garbles s) :
    ∃ layer, environment.load host = .ok layer ∧ ∀ s v, layer.value? s = some v ↔
      ∃ text, host.text? s.variableName = some text ∧ s.Writes v text := by
  have hnone : Setting.typed.findSome? (Environment.fault? host) = none :=
    List.findSome?_eq_none_iff.mpr fun s hs => Environment.fault?_eq_none_iff.mpr (h s hs)
  have hrun := Environment.layer_run host
  rw [hnone] at hrun
  obtain ⟨layer, hload, hvalue⟩ := hrun
  exact ⟨layer, hload, fun s v => Environment.loaded_eq_some_iff hvalue⟩

theorem load_environment_error {before after : List Setting}
    (htyped : Setting.typed = before ++ s :: after) (hbefore : ∀ t ∈ before, ¬host.Garbles t)
    (hs : host.Garbles s) :
    ∃ cause, environment.load host = .error (.invalidValue s.variableName cause) := by
  obtain ⟨cause, hcause⟩ := Environment.fault?_of_garbles hs
  have hfirst : Setting.typed.findSome? (Environment.fault? host) =
      some (.invalidValue s.variableName cause) := by
    have hnone : before.findSome? (Environment.fault? host) = none :=
      List.findSome?_eq_none_iff.mpr fun t ht => Environment.fault?_eq_none_iff.mpr (hbefore t ht)
    rw [htyped, List.findSome?_append, hnone, List.findSome?_cons, hcause]
    rfl
  have hrun := Environment.layer_run host
  rw [hfirst] at hrun
  exact ⟨cause, hrun⟩

/-- The texts of the variables that write a layer. -/
theorem text?_of_writes (h : host.Writes layer) (s : Setting) :
    (∃ v text, layer.value? s = some v ∧ host.text? s.variableName = some text ∧ s.Writes v text) ∨
    (layer.value? s = none ∧ ∀ text, host.text? s.variableName = some text → text = "") := by
  have hs := h s
  cases hvalue : layer.value? s with
  | some v =>
      rw [hvalue] at hs
      obtain ⟨text, henv, hwrites⟩ := hs
      have htext : host.text? s.variableName = some text := by
        rw [Host.text?, henv]
        exact Text.Utf8.text?_encode text
      exact .inl ⟨v, text, rfl, htext, hwrites⟩
  | none =>
      rw [hvalue] at hs
      exact .inr ⟨rfl, fun text htext => Host.eq_empty_of_unset hs htext⟩

/-- A written layer is read back. -/
theorem load_environment_of_writes (h : host.Writes layer) :
    ∃ loaded, environment.load host = .ok loaded ∧ ∀ s, loaded.value? s = layer.value? s := by
  have hclean (s : Setting) : ¬host.Garbles s := by
    rintro ⟨text, htext, hne, hnone⟩
    obtain ⟨v, written, -, hsome, hwrites⟩ | ⟨-, hempty⟩ := text?_of_writes h s
    · obtain rfl := Option.some.inj (hsome.symm.trans htext)
      exact hnone v hwrites
    · exact hne (hempty text htext)
  obtain ⟨loaded, hload, hvalue⟩ := exists_load_environment fun s _ => hclean s
  refine ⟨loaded, hload, fun s => ?_⟩
  obtain ⟨v, text, hset, htext, hwrites⟩ | ⟨hunset, hempty⟩ := text?_of_writes h s
  · rw [hset, hvalue]
    exact ⟨text, htext, hwrites⟩
  · rw [hunset, Option.eq_none_iff_forall_ne_some]
    intro v hv
    obtain ⟨text, htext, hwrites⟩ := (hvalue s v).mp hv
    obtain rfl := hempty text htext
    exact Setting.not_writes_empty v hwrites

/-- What a layer sets is read back from variables that write it, and each layer of values that can
be written has such variables. An environment is loaded exactly when none of the typed variables is
garbled; what it sets is what its variables write, so that a variable whose bytes are no text sets
nothing. Otherwise the fault names the first garbled variable in the order in which they are
read. -/
theorem environment_reads_what_is_written (host : Host) :
    (∀ layer, host.Writes layer →
      ∃ loaded, environment.load host = .ok loaded ∧ ∀ s, loaded.value? s = layer.value? s) ∧
    (∀ layer : ConfigLayer, layer.Fits (Nat.pow 2 64) → ∃ other : Host, other.Writes layer) ∧
    ((∃ fault, environment.load host = .error fault) ↔ ∃ s ∈ Setting.typed, host.Garbles s) ∧
    (∀ before s after, Setting.typed = before ++ s :: after →
      (∀ t ∈ before, ¬host.Garbles t) → host.Garbles s →
      ∃ cause, environment.load host = .error (.invalidValue s.variableName cause)) ∧
    (∀ loaded, environment.load host = .ok loaded → ∀ s v, loaded.value? s = some v ↔
      ∃ text, host.text? s.variableName = some text ∧ s.Writes v text) := by
  refine ⟨fun layer => load_environment_of_writes, fun layer => Host.exists_writes, ?_,
    fun before s after => load_environment_error, fun loaded hload => ?_⟩
  · constructor
    · rintro ⟨fault, hfault⟩
      obtain hclean | ⟨before, s, after, htyped, -, hs⟩ := Environment.first_garbled host
      · obtain ⟨layer, hload, -⟩ := exists_load_environment hclean
        rw [hload] at hfault
        cases hfault
      · exact ⟨s, by rw [htyped]; simp, hs⟩
    · rintro ⟨s, hs, hgarbles⟩
      obtain hclean | ⟨before, t, after, htyped, hbefore, ht⟩ := Environment.first_garbled host
      · exact absurd hgarbles (hclean s hs)
      · obtain ⟨cause, hfault⟩ := load_environment_error htyped hbefore ht
        exact ⟨_, hfault⟩
  · obtain hclean | ⟨before, s, after, htyped, hbefore, hs⟩ := Environment.first_garbled host
    · obtain ⟨layer, hlayer, hvalue⟩ := exists_load_environment hclean
      obtain rfl := Except.ok.inj (hload.symm.trans hlayer)
      exact hvalue
    · obtain ⟨cause, hfault⟩ := load_environment_error htyped hbefore hs
      rw [hload] at hfault
      cases hfault

/-- A truth value in capitals and a capacity with a sign and zeros are read back, and nothing else
is set. Of two garbled variables the capacity with a space is named, not the gate mode. -/
theorem capital_letters_and_zeros_are_read :
    let env (core mode name : String) : Option (List UInt8) :=
      if name = "CRUD_BACKEND_KUBE_PREFER_IN_CLUSTER" then some (Text.Utf8.encode "TRUE".toList)
      else if name = "CRUD_BACKEND_CACHE_CORE_CAPACITY" then some (Text.Utf8.encode core.toList)
      else if name = "CRUD_BACKEND_AUTH_GATE_MODE" then some (Text.Utf8.encode mode.toList)
      else none
    let hostWith (core mode : String) : Host := { Config.bareHost with env := env core mode }
    let layer : ConfigLayer :=
      { kube := some { preferInCluster := some true }, cache := some { core := some 7 } }
    (∃ loaded, environment.load (hostWith "+007" "") = .ok loaded ∧
      ∀ s, loaded.value? s = layer.value? s) ∧
    ∃ cause, environment.load (hostWith " 5" "loose") =
      .error (.invalidValue "CRUD_BACKEND_CACHE_CORE_CAPACITY" cause) := by
  intro env hostWith layer
  have hwrites : (hostWith "+007" "").Writes layer := by
    intro s
    cases s
    case preferInCluster =>
      exact ⟨"TRUE", rfl, .inr ((Text.lowerAscii_eq_iff (by decide)).mp (by decide))⟩
    case coreCapacity =>
      exact ⟨"+007", rfl, .inr ⟨['0', '0', '7'], by decide, 2, by decide⟩, by decide⟩
    case gateMode => exact .inr rfl
    all_goals exact .inl rfl
  obtain ⟨hread, -⟩ := environment_reads_what_is_written (hostWith "+007" "")
  obtain ⟨-, -, -, hfirst, -⟩ := environment_reads_what_is_written (hostWith " 5" "loose")
  refine ⟨hread layer hwrites, hfirst [.preferInCluster] .coreCapacity _ rfl ?_ ?_⟩
  · intro t ht
    obtain rfl := List.mem_singleton.mp ht
    exact Environment.fault?_eq_none_iff.mp rfl
  · by_contra hclean
    have hnone := Environment.fault?_eq_none_iff.mpr hclean
    revert hnone
    decide

/-- Bytes that are no text are in a variable that is neither empty nor set to a written value, and
yet the environment is loaded. -/
theorem environment_passes_over_bytes :
    ¬∀ host : Host, (∃ fault, environment.load host = .error fault) ↔
      ∃ s ∈ Setting.typed, ∃ bytes, host.env s.variableName = some bytes ∧ bytes ≠ [] ∧
        ∀ v text, s.Writes v text → bytes ≠ Text.Utf8.encode text.toList := by
  intro h
  let env (name : String) : Option (List UInt8) :=
    if name = "CRUD_BACKEND_DISABLE_AUTH" then some [0xFF] else none
  let host : Host := { Config.bareHost with env := env }
  have hbytes (text : String) : [0xFF] ≠ Text.Utf8.encode text.toList := by
    intro heq
    have hdecode := Text.Utf8.decode_encode text.toList
    rw [← heq] at hdecode
    cases hdecode
  obtain ⟨fault, hfault⟩ := (h host).mpr
    ⟨.disableAuth, by decide, [0xFF], rfl, by decide, fun _ text _ => hbytes text⟩
  have hload : environment.load host = .ok ⟨some {}, some {}, some {}, some {}⟩ := rfl
  rw [hload] at hfault
  cases hfault

end ConfigSource

end ClusterAccess
