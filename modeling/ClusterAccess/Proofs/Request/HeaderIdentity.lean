import ClusterAccess.Proofs.Text.Trim
import ClusterAccess.Proofs.Text.Utf8
import ClusterAccess.Request.HeaderIdentity

/-!
Whom the headers of a request name. Only the first value under the configured name counts, and only
if it is visible text. The user is what is left of it behind the leading text and without the white
space at its ends; if nothing is left, nobody is named.
-/

namespace ClusterAccess

open Text

/-! ### Headers as they are sent -/

/-- Headers as they are sent, with their names in any letter case. -/
abbrev SentHeaders := List (String × HeaderValue)

def SentHeaders.first? (sent : SentHeaders) (name : String) : Option HeaderValue :=
  (sent.find? fun header => lowerAscii header.1 = lowerAscii name).map (·.2)

def Headers.ofSent? (sent : SentHeaders) : Option Headers :=
  sent.mapM fun header => (HeaderName.ofText? header.1).map (·, header.2)

theorem HeaderName.eq_of_ofText? {text : String} {name : HeaderName}
    (h : HeaderName.ofText? text = some name) : name = ⟨lowerAscii text⟩ := by
  dsimp only [HeaderName.ofText?] at h
  split at h
  next => exact (Option.some.inj h).symm
  next => cases h

theorem Headers.first?_of_ofSent? {sent : SentHeaders} {headers : Headers} {text : String}
    {name : HeaderName} (hname : HeaderName.ofText? text = some name)
    (h : Headers.ofSent? sent = some headers) : headers.first? name = sent.first? text := by
  obtain rfl := HeaderName.eq_of_ofText? hname
  induction sent generalizing headers with
  | nil =>
      obtain rfl := Option.some.inj h
      rfl
  | cons header sent ih =>
      obtain ⟨other, value⟩ := header
      simp only [Headers.ofSent?, List.mapM_cons, Option.bind_eq_bind, Option.bind_eq_some_iff,
        Option.map_eq_some_iff] at h
      obtain ⟨_, ⟨read, hread, rfl⟩, later, hlater, heq⟩ := h
      obtain rfl := HeaderName.eq_of_ofText? hread
      obtain rfl := Option.some.inj heq
      have hrest := ih hlater
      by_cases hsame : lowerAscii other = lowerAscii text
      · simp [Headers.first?, SentHeaders.first?, hsame]
      · have hne : (⟨lowerAscii text⟩ : HeaderName) ≠ ⟨lowerAscii other⟩ :=
          fun heq => hsame (HeaderName.mk.inj heq).symm
        simpa [Headers.first?, SentHeaders.first?, List.lookup_cons, beq_eq_false_iff_ne.mpr hne,
          hsame] using hrest

/-! ### Values that name a user -/

/-- The bytes of the space and of the visible characters of ASCII, and the tab. -/
def IsVisible (b : UInt8) : Prop := b = 0x09 ∨ 0x20 ≤ b ∧ b ≤ 0x7E

/-- The value is visible text, and what it has behind the leading text is the user, perhaps with
white space around. -/
structure NamesUser (lead : String) (value : HeaderValue) (user : String) : Prop where
  visible : ∀ b ∈ value, IsVisible b
  text : ∃ text rest, value = .ofText text ∧ Behind lead text rest ∧ Trims rest user
  ne_empty : user ≠ ""

namespace HeaderValue

variable {value : HeaderValue} {text : String}

theorem isSendable_of_isVisible {b : UInt8} (h : isVisibleByte b = true) :
    isSendableByte b = true := by
  simp only [isVisibleByte, isSendableByte, Bool.or_eq_true, Bool.and_eq_true,
    decide_eq_true_eq] at h ⊢
  rcases h with htab | ⟨hleast, hmost⟩
  · exact .inl htab
  · refine .inr ⟨hleast, ?_⟩
    rintro rfl
    exact absurd hmost (by decide)

theorem ascii_of_isVisible {b : UInt8} (h : isVisibleByte b = true) : b < 0x80 := by
  simp only [isVisibleByte, Bool.or_eq_true, Bool.and_eq_true, decide_eq_true_eq,
    UInt8.le_iff_toNat_le] at h
  rw [UInt8.lt_iff_toNat_lt]
  rcases h with rfl | ⟨-, hmost⟩
  · decide
  · exact Nat.lt_succ_of_le (Nat.le_succ_of_le hmost)

/-- A text is read back from its header value if it can be read at all. -/
theorem visible?_ofText (s : String) :
    visible? (ofText s) = if (ofText s).all isVisibleByte then some s else none := by
  unfold visible?
  split
  next hvisible =>
    rw [List.all_eq_true] at hvisible
    have hdecode : Text.Utf8.decodeFrom 0 (ofText s) = .ok s.toList :=
      Text.Utf8.decode_encode s.toList
    rw [Text.Utf8.decodeFrom_of_ascii fun b hb => ascii_of_isVisible (hvisible b hb)] at hdecode
    rw [Except.ok.inj hdecode, String.ofList_toList]
  next => rfl

theorem ofText_injective : Function.Injective ofText := by
  intro s t h
  have htext (s : String) : Utf8.text? (ofText s) = some s := Utf8.text?_encode s
  exact Option.some.inj (by rw [← htext s, h, htext t])

theorem all_isVisibleByte_iff :
    value.all isVisibleByte = true ↔ ∀ b ∈ value, IsVisible b := by
  simp [IsVisible, isVisibleByte]

/-- A value is read as the text that it is made of. -/
theorem visible?_eq_some_iff :
    value.visible? = some text ↔ (∀ b ∈ value, IsVisible b) ∧ value = .ofText text := by
  rw [← all_isVisibleByte_iff]
  constructor
  · intro h
    unfold visible? at h
    split at h
    next hvisible =>
      obtain rfl := Option.some.inj h
      rw [List.all_eq_true] at hvisible
      rw [ofText, String.toList_ofList,
        Utf8.encode_map_ofNat fun b hb => ascii_of_isVisible (hvisible b hb)]
      exact ⟨List.all_eq_true.mpr hvisible, rfl⟩
    next => cases h
  · rintro ⟨hvisible, rfl⟩
    rw [visible?_ofText, if_pos hvisible]

theorem ofText?_of_isVisible (h : ∀ b ∈ ofText text, IsVisible b) :
    ofText? text = some (ofText text) := by
  rw [← all_isVisibleByte_iff, List.all_eq_true] at h
  rw [ofText?, if_pos]
  exact List.all_eq_true.mpr fun b hb => isSendable_of_isVisible (h b hb)

theorem visible?_eq_none_iff : value.visible? = none ↔ ¬ ∀ b ∈ value, IsVisible b := by
  rw [← all_isVisibleByte_iff]
  unfold visible?
  split <;> simp_all

end HeaderValue

namespace NamesUser

variable {lead user : String} {value : HeaderValue}

/-- What is taken off a value is not needed to send what is left. -/
theorem isSendable (h : NamesUser lead value user) :
    HeaderValue.ofText? user = some (.ofText user) := by
  obtain ⟨text, rest, rfl, hbehind, -, front, back, hrest, -, -⟩ := h.text
  refine HeaderValue.ofText?_of_isVisible fun b hb => h.visible b ?_
  have hin : b ∈ HeaderValue.ofText rest := by
    rw [HeaderValue.ofText, hrest, Utf8.encode_append, Utf8.encode_append]
    exact List.mem_append_right _ (List.mem_append_left _ hb)
  rcases hbehind with rfl | ⟨-, rfl⟩
  · rw [HeaderValue.ofText, String.toList_append, Utf8.encode_append]
    exact List.mem_append_right _ hin
  · exact hin

theorem tight (h : NamesUser lead value user) : Tight user.toList := by
  obtain ⟨text, rest, -, -, htight, -⟩ := h.text
  exact htight

theorem ofText_iff {text : String} :
    NamesUser lead (.ofText text) user ↔
      (∀ b ∈ HeaderValue.ofText text, IsVisible b) ∧ trim (withoutLeading lead text) = user ∧
        user ≠ "" := by
  constructor
  · rintro ⟨hvisible, ⟨_, rest, htext, hbehind, htrims⟩, hne⟩
    obtain rfl := HeaderValue.ofText_injective htext
    rw [behind_iff.mp hbehind]
    exact ⟨hvisible, trims_iff.mp htrims, hne⟩
  · rintro ⟨hvisible, htrim, hne⟩
    exact ⟨hvisible, ⟨text, _, rfl, behind_iff.mpr rfl, trims_iff.mpr htrim⟩, hne⟩

end NamesUser

/-! ### Sources of identities -/

namespace HeaderIdentitySource

variable {source : HeaderIdentitySource} {headers later : Headers} {id : Identity} {f : Fault}

/-- Nothing matters but the first value under the configured name. -/
theorem identity_congr (h : headers.first? source.header = later.first? source.header) :
    source.identity headers = source.identity later := by
  unfold identity
  rw [h]

theorem identity_of_disabled (hauth : source.authDisabled = true) (headers : Headers) :
    source.identity headers = .ok .ambient := by
  unfold identity
  rw [if_pos hauth]

theorem identity_eq_ok_iff (hauth : source.authDisabled = false) :
    source.identity headers = .ok id ↔
      ∃ value, headers.first? source.header = some value ∧
        NamesUser source.lead value id.name := by
  unfold identity
  rw [if_neg (by simp [hauth])]
  cases hfirst : headers.first? source.header with
  | none => simp
  | some value =>
      cases hread : value.visible? with
      | none =>
          have hnot := HeaderValue.visible?_eq_none_iff.mp hread
          refine iff_of_false (by simp [hread]) ?_
          rintro ⟨_, hvalue, hnames⟩
          obtain rfl := Option.some.inj hvalue
          exact hnot hnames.visible
      | some text =>
          obtain ⟨hvisible, rfl⟩ := HeaderValue.visible?_eq_some_iff.mp hread
          obtain ⟨user⟩ := id
          have hnames : NamesUser source.lead (.ofText text) user ↔
              source.userOf text = user ∧ user ≠ "" := by
            rw [NamesUser.ofText_iff, userOf]
            exact and_iff_right hvisible
          simp only [hread, Option.some.injEq, exists_eq_left', hnames]
          by_cases hempty : source.userOf text = ""
          · rw [if_pos hempty]
            refine iff_of_false (by simp) ?_
            rintro ⟨huser, hne⟩
            exact hne (huser.symm.trans hempty)
          · rw [if_neg hempty, Except.ok.injEq, Identity.mk.injEq]
            exact ⟨fun huser => ⟨huser, huser ▸ hempty⟩, And.left⟩

theorem unauthenticated_of_identity (h : source.identity headers = .error f) :
    ∃ message, f = .unauthenticated message := by
  unfold identity at h
  split at h
  next => cases h
  next =>
    dsimp only at h
    split at h
    next => exact ⟨_, (Except.error.inj h).symm⟩
    next =>
      split at h
      next => exact ⟨_, (Except.error.inj h).symm⟩
      next =>
        split at h
        next => exact ⟨_, (Except.error.inj h).symm⟩
        next => cases h

theorem unauthenticated_of_presenting {user : String} (h : source.presenting user = .error f) :
    ∃ message, f = .unauthenticated message := by
  unfold presenting at h
  split at h
  next => cases h
  next => exact ⟨_, (Except.error.inj h).symm⟩

end HeaderIdentitySource

end ClusterAccess
