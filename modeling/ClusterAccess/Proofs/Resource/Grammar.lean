import ClusterAccess.Proofs.Resource.Reference
import ClusterAccess.Proofs.Text.Utf8

/-!
The grammar of references: which namespaces and names there are, and what a reference comes to be
that is given one name after another. Namespaces are looked at as bytes and names as characters, and
the constructors accept these and no others.
-/

namespace ClusterAccess

open Text

/-! ### Namespaces -/

def isLabelByte (b : UInt8) : Bool := (0x61 ≤ b && b ≤ 0x7A) || (0x30 ≤ b && b ≤ 0x39) || b = 0x2D

/-- DNS-1123 labels: 1 to 63 bytes of letters, digits and hyphens, with no hyphen at either end. -/
structure IsDnsLabel (bytes : List UInt8) : Prop where
  ne_nil : bytes ≠ []
  length_le : bytes.length ≤ 63
  all : ∀ b ∈ bytes, isLabelByte b = true
  head : bytes.head? ≠ some 0x2D
  last : bytes.getLast? ≠ some 0x2D

theorem ascii_of_isLabelByte {b : UInt8} (hb : isLabelByte b = true) : b < 0x80 := by
  have hall : ∀ n < 256, isLabelByte (UInt8.ofNat n) = true → UInt8.ofNat n < 0x80 := by
    decide +kernel
  have hbyte := hall b.toNat b.toNat_lt
  rw [UInt8.ofNat_toNat] at hbyte
  exact hbyte hb

theorem ascii_of_isLabelChar {c : Char} (hc : isLabelChar c = true) : c.toNat < 128 := by
  have hrange : ∀ {most : Char}, most.toNat < 128 → c.val ≤ most.val → c.toNat < 128 :=
    fun hmost hle => Nat.lt_of_le_of_lt (UInt32.le_iff_toNat_le.mp hle) hmost
  simp only [isLabelChar, Bool.or_eq_true, beq_iff_eq] at hc
  obtain (hlower | hdigit) | rfl := hc
  · have hmost : c.val ≤ 'z'.val := of_decide_eq_true (Bool.and_eq_true_iff.mp hlower).2
    exact hrange (by decide) hmost
  · have hmost : c.val ≤ '9'.val := of_decide_eq_true (Bool.and_eq_true_iff.mp hdigit).2
    exact hrange (by decide) hmost
  · decide

theorem isLabelByte_ofNat {c : Char} (hc : c.toNat < 128) :
    isLabelByte (UInt8.ofNat c.toNat) = isLabelChar c ∧
      (UInt8.ofNat c.toNat = 0x2D ↔ c = '-') := by
  have hall : ∀ n < 128, isLabelByte (UInt8.ofNat n) = isLabelChar (Char.ofNat n) ∧
      (UInt8.ofNat n = 0x2D ↔ Char.ofNat n = '-') := by decide
  have hchar := hall c.toNat hc
  rwa [Char.ofNat_toNat] at hchar

/-- An end of a text is not a hyphen exactly when its byte is not. -/
theorem any_ne_hyphen {o : Option Char} (ho : ∀ c, o = some c → c.toNat < 128) :
    o.any (· != '-') = true ↔
      o ≠ none ∧ (o.map fun c => UInt8.ofNat c.toNat) ≠ some 0x2D := by
  cases o with
  | none => simp
  | some c => simp [(isLabelByte_ofNat (ho c rfl)).2]

theorem isLabel_iff_of_ascii {s : String} (hs : ∀ c ∈ s.toList, c.toNat < 128) :
    isLabel s = true ↔ IsDnsLabel (s.toList.map fun c => UInt8.ofNat c.toNat) := by
  have hall : ∀ c ∈ s.toList, isLabelByte (UInt8.ofNat c.toNat) = isLabelChar c :=
    fun c hc => (isLabelByte_ofNat (hs c hc)).1
  have hhead := any_ne_hyphen fun c hc => hs c (List.mem_of_head? hc)
  have hlast := any_ne_hyphen fun c hc => hs c (List.mem_of_getLast? hc)
  simp only [isLabel, Bool.and_eq_true, decide_eq_true_eq, List.all_eq_true, hhead, hlast]
  constructor
  · rintro ⟨⟨⟨hlength, hlabel⟩, hne, hhead⟩, -, hlast⟩
    refine ⟨?_, by rwa [List.length_map], ?_, by rwa [List.head?_map], by rwa [List.getLast?_map]⟩
    · rwa [ne_eq, List.map_eq_nil_iff, ← List.head?_eq_none_iff]
    · rw [List.forall_mem_map]
      exact fun c hc => (hall c hc).trans (hlabel c hc)
  · rintro ⟨hne, hlength, hlabel, hhead, hlast⟩
    rw [List.length_map] at hlength
    rw [List.forall_mem_map] at hlabel
    rw [List.head?_map] at hhead
    rw [List.getLast?_map] at hlast
    rw [ne_eq, List.map_eq_nil_iff] at hne
    exact ⟨⟨⟨hlength, fun c hc => (hall c hc).symm.trans (hlabel c hc)⟩,
      mt List.head?_eq_none_iff.mp hne, hhead⟩, mt List.getLast?_eq_none_iff.mp hne, hlast⟩

theorem isLabel_iff {s : String} : isLabel s = true ↔ IsDnsLabel (Utf8.encode s.toList) := by
  by_cases hs : ∀ c ∈ s.toList, c.toNat < 128
  · rw [Utf8.encode_of_ascii hs]
    exact isLabel_iff_of_ascii hs
  · -- A character of several bytes is no label's, neither as it is nor byte by byte.
    refine iff_of_false (fun h => hs ?_) fun h => hs ?_
    · simp only [isLabel, Bool.and_eq_true, List.all_eq_true] at h
      exact fun c hc => ascii_of_isLabelChar (h.1.1.2 c hc)
    · exact Utf8.ascii_of_encode fun b hb => ascii_of_isLabelByte (h.all b hb)

/-! ### Names -/

/-- The characters that end or change a path segment or a field selector. -/
def reservedInNames : List Char := ['/', '%', '?', '#', ',', '=', '\\']

structure IsObjectName (name : String) : Prop where
  ne_empty : name ≠ ""
  ne_dot : name ≠ "."
  ne_dots : name ≠ ".."
  plain : ∀ c ∈ name.toList, c ∉ reservedInNames ∧ isBlank c = false ∧ isControl c = false

theorem isUnsafeInName_eq_false_iff {c : Char} :
    isUnsafeInName c = false ↔
      c ∉ reservedInNames ∧ isBlank c = false ∧ isControl c = false := by
  simp [isUnsafeInName, reservedInNames, and_assoc]

theorem isObjectName_iff {name : String} :
    IsObjectName name ↔ name ≠ "" ∧ isSafeName name = true := by
  have hplain : (∀ c ∈ name.toList, isUnsafeInName c = false) ↔
      ∀ c ∈ name.toList, c ∉ reservedInNames ∧ isBlank c = false ∧ isControl c = false :=
    forall₂_congr fun _ _ => isUnsafeInName_eq_false_iff
  simp only [isSafeName, Bool.and_eq_true, bne_iff_ne, Bool.not_eq_true', List.any_eq_false,
    Bool.not_eq_true, hplain]
  exact ⟨fun h => ⟨h.ne_empty, ⟨h.ne_dot, h.ne_dots⟩, h.plain⟩,
    fun ⟨hempty, ⟨hdot, hdots⟩, hall⟩ => ⟨hempty, hdot, hdots, hall⟩⟩

instance : DecidablePred IsObjectName := fun _ => decidable_of_iff _ isObjectName_iff.symm

namespace ResourceRef

variable {kind : ResourceKind} {ns : Option String} {label name : String} {r target : ResourceRef}

theorem exists_named_iff : (∃ target, r.named name = .ok target) ↔ IsObjectName name := by
  simp only [named_eq_ok, isObjectName_iff, exists_and_left, exists_eq, and_true]

/-! ### Constructors -/

theorem namespaced_eq_within : namespaced kind label = within kind (some label) := by
  cases hkind : kind.namespaced <;> simp [namespaced, within, hkind]

theorem cluster_eq_within : cluster kind = within kind none := by
  cases hkind : kind.namespaced <;> simp [cluster, namespaced, within, hkind]

/-- Which namespaces there are for a kind: none, or all labels. -/
theorem exists_within_iff :
    (∃ r, within kind ns = .ok r) ↔
      kind.namespaced = false ∧ ns = none ∨
        kind.namespaced = true ∧
          ∃ label, ns = some label ∧ IsDnsLabel (Utf8.encode label.toList) := by
  cases ns with
  | none =>
      rw [← cluster_eq_within]
      simp [cluster_eq_ok]
  | some label =>
      rw [← namespaced_eq_within]
      simp [namespaced_eq_ok, isLabel_iff]

/-! ### One name after another -/

def narrow (r : ResourceRef) (name : String) : ResourceRef :=
  match r.named name with
  | .ok target => target
  | .error _ => r

def narrowAll (r : ResourceRef) (names : List String) : ResourceRef := names.foldl narrow r

theorem narrow_eq :
    r.narrow name = if IsObjectName name then { r with name := some name } else r := by
  unfold narrow
  split
  next target htarget =>
    obtain ⟨hname, rfl⟩ := named_eq_ok.mp htarget
    rw [if_pos (isObjectName_iff.mpr hname)]
  next hfault =>
    rw [if_neg]
    intro hname
    obtain ⟨target, htarget⟩ := exists_named_iff.mpr hname
    rw [hfault] at htarget
    cases htarget

/-- Only the last of the accepted names is left, and nothing else changes. -/
theorem narrowAll_eq (r : ResourceRef) (names : List String) :
    r.narrowAll names =
      { r with name := (names.filter (IsObjectName ·)).getLast?.or r.name } := by
  induction names generalizing r with
  | nil => rfl
  | cons name names ih =>
      rw [narrowAll, List.foldl_cons, ← narrowAll, ih, narrow_eq]
      by_cases hname : IsObjectName name
      · cases hlast : (names.filter (IsObjectName ·)).getLast? <;>
          simp [hname, List.getLast?_cons, hlast]
      · simp [hname]

/-- A collection of a namespaced kind is always one namespace's. -/
theorem collectionPath_of_within (h : within kind ns = .ok r) (hkind : kind.namespaced = true) :
    ∃ label, ns = some label ∧ label ≠ "" ∧
      r.collectionPath = kind.basePath ++ "/namespaces/" ++ label ++ "/" ++ kind.plural := by
  obtain ⟨rfl, hscoped⟩ := within_eq_ok h
  cases ns with
  | none => simp [Scoped, hkind] at hscoped
  | some label =>
      rw [← namespaced_eq_within] at h
      exact ⟨label, rfl, ne_empty_of_isLabel (namespaced_eq_ok.mp h).2.1, rfl⟩

end ResourceRef

theorem invalidRequest_of_mapError {α : Type} {x : Except ReferenceFault α} {fault : Fault}
    (h : x.mapError ReferenceFault.toFault = .error fault) :
    ∃ message, fault = .invalidRequest message := by
  cases x with
  | ok a => cases h
  | error f => exact ⟨f.message, (Except.error.inj h).symm⟩

open ResourceRef in
/-- A collection is there for every kind outside namespaces and for every label of the others, and
its objects go by the names of the grammar. Whatever names are tried on it one after another, it
keeps its kind and its namespace and goes by the last of the names that are accepted. -/
theorem references_accept_exactly_their_grammar (kind : ResourceKind) :
    (∀ ns, (∃ r, within kind ns = .ok r) ↔
      kind.namespaced = false ∧ ns = none ∨
        kind.namespaced = true ∧
          ∃ label, ns = some label ∧ IsDnsLabel (Utf8.encode label.toList)) ∧
    (∀ label, namespaced kind label = within kind (some label)) ∧
    cluster kind = within kind none ∧
    (∀ (r : ResourceRef) (name : String),
      (∃ target, r.named name = .ok target) ↔ IsObjectName name) ∧
    (∀ (ns : Option String) (r : ResourceRef) (names : List String), within kind ns = .ok r →
      let target := r.narrowAll names
      target.Scoped ∧ target.kind = kind ∧ target.ns = ns ∧
        target.name = (names.filter (IsObjectName ·)).getLast? ∧
        (kind.namespaced = true → ∃ label, ns = some label ∧ label ≠ "" ∧
          target.collectionPath =
            kind.basePath ++ "/namespaces/" ++ label ++ "/" ++ kind.plural)) ∧
    (∀ ns fault, (within kind ns).mapError ReferenceFault.toFault = .error fault →
      ∃ message, fault = .invalidRequest message) ∧
    ∀ (r : ResourceRef) (name : String) (fault : Fault),
      (r.named name).mapError ReferenceFault.toFault = .error fault →
        ∃ message, fault = .invalidRequest message := by
  refine ⟨fun ns => exists_within_iff, fun label => namespaced_eq_within, cluster_eq_within,
    fun r name => exists_named_iff, ?_, fun ns fault => invalidRequest_of_mapError,
    fun r name fault => invalidRequest_of_mapError⟩
  intro ns r names hr target
  obtain ⟨hparts, hscoped⟩ := within_eq_ok hr
  have htarget : target = { r with name := (names.filter (IsObjectName ·)).getLast? } := by
    rw [show target = _ from narrowAll_eq r names, hparts, Option.or_none]
  have hpath : target.collectionPath = r.collectionPath := by rw [htarget]; rfl
  rw [hpath, htarget]
  exact ⟨hscoped, by rw [hparts], by rw [hparts], rfl, collectionPath_of_within hr⟩

/-- A pod that was addressed by a name with a slash, by its own and by the directory above. -/
theorem pod_goes_by_the_name_accepted :
    let r : ResourceRef := ⟨.pods, some "team-a", none⟩
    ResourceRef.within .pods (some "team-a") = .ok r ∧
      (r.narrowAll ["a/b", "web-0", ".."]).name = some "web-0" ∧
      ¬ ∃ r, ResourceRef.within .pods (some "équipe") = .ok r := by
  intro r
  obtain ⟨hnamespaces, -, -, -, hnames, -, -⟩ :=
    references_accept_exactly_their_grammar .pods
  have hr : ResourceRef.within .pods (some "team-a") = .ok r :=
    ResourceRef.namespaced_eq_within.symm.trans
      (ResourceRef.namespaced_eq_ok.mpr ⟨rfl, by decide, rfl⟩)
  refine ⟨hr, ?_, ?_⟩
  · exact (hnames _ _ ["a/b", "web-0", ".."] hr).2.2.2.1.trans (by decide)
  · rw [hnamespaces]
    rintro (⟨-, h⟩ | ⟨-, label, hlabel, h⟩)
    · cases h
    · obtain rfl := Option.some.inj hlabel
      exact absurd (h.all 0xC3 (by decide)) (by decide)

end ClusterAccess
