import ClusterAccess.Proofs.Json.RoundTrip
import ClusterAccess.Proofs.Wire.Call

/-!
Requests are unambiguous. A reader that knows nothing of a call but its request learns what is
done, with all options, and to what: the number of segments says whether there is a namespace and
a name, and everything that a caller may choose freely is encoded or has no slash.
-/

namespace ClusterAccess

/-! ### Reading a request -/

structure Address where
  group : String
  version : String
  plural : String
  ns : Option String
  name : Option String
  deriving DecidableEq

def ResourceRef.address (r : ResourceRef) : Address :=
  ⟨r.kind.group, r.kind.version, r.kind.plural, r.ns, r.name⟩

namespace Address

/-- The address that the segments below a version name, and whether they go on to its logs. Their
number decides how each is read, so a namespace is never taken for a name, nor a name for a
plural. -/
def below? (group version : String) : List String → Option (Address × Bool)
  | [plural] => some (⟨group, version, plural, none, none⟩, false)
  | [plural, name] => some (⟨group, version, plural, none, some name⟩, false)
  | ["namespaces", ns, plural] => some (⟨group, version, plural, some ns, none⟩, false)
  | ["namespaces", ns, plural, name] => some (⟨group, version, plural, some ns, some name⟩, false)
  | ["namespaces", ns, plural, name, "log"] =>
    some (⟨group, version, plural, some ns, some name⟩, true)
  | _ => none

def ofSegments? : List String → Option (Address × Bool)
  | "api" :: version :: rest => below? "" version rest
  | "apis" :: group :: version :: rest => below? group version rest
  | _ => none

end Address

def PatchStrategy.ofContentType? (type : String) : Option PatchStrategy :=
  if type = "application/merge-patch+json" then some .merge
  else if type = "application/strategic-merge-patch+json" then some .strategicMerge
  else none

namespace HttpRequest

def body? (r : HttpRequest) : Option Json := Json.parse? r.body.toList

def propagation? (r : HttpRequest) : Option Propagation := do
  let policy ← (← r.body?).field? "propagationPolicy"
  Propagation.ofText? (← policy.text?)

def strategy? (r : HttpRequest) : Option PatchStrategy := do
  let type ← (← r.headers.first? .contentType).visible?
  PatchStrategy.ofContentType? type

def operation? (r : HttpRequest) (onObject onLogs : Bool) : Option Operation := do
  let parameters ← parameters? (r.target.query.getD "")
  match r.method, onObject, onLogs with
  | .get, true, false => return .get
  | .get, false, false =>
    return .list
      { labels := parameters.lookup "labelSelector", fields := parameters.lookup "fieldSelector" }
  | .get, true, true => return .logs (parameters.lookup "container")
  | .post, false, false => return .create (← r.body?) (parameters.lookup "dryRun" = some "All")
  | .delete, true, false => return .delete (← r.propagation?)
  | .patch, true, false => return .patch (← r.body?) (← r.strategy?)
  | _, _, _ => none

def decode? (r : HttpRequest) : Option (Address × Operation) := do
  let (address, onLogs) ← Address.ofSegments? (← segments? r.target.path)
  return (address, ← r.operation? address.name.isSome onLogs)

end HttpRequest

/-! ### Calls that can be read back -/

def isWordChar (c : Char) : Bool := c.isAlphanum || c == '.' || c == '-'

def isPlainWord (s : String) : Bool := s != "" && s.toList.all isWordChar

structure ResourceKind.Plain (k : ResourceKind) : Prop where
  group : k.group = "" ∨ isPlainWord k.group = true
  version : isPlainWord k.version = true
  plural : isPlainWord k.plural = true

def Operation.body? : Operation → Option Json
  | create body _ => some body
  | patch body _ => some body
  | _ => none

/-- A call such as accessors make: on a reference that the constructors have built, which has a
name exactly if the operation is on one object, and for logs only of a pod. -/
structure ClusterCall.WellFormed (call : ClusterCall) : Prop where
  built : call.target.Built
  kind : call.target.kind.Plain
  name : call.target.name.isSome = call.operation.onObject
  logs : ∀ container, call.operation = .logs container → call.target.kind = .pods
  body : ∀ body, call.operation.body? = some body → body.isReadable Json.depthLimit = true

variable {call : ClusterCall} {kind : ResourceKind} {c : Char}

/-! ### Characters -/

/-- Whether a character may stand in a name but in no path. -/
def isOutsidePaths (c : Char) : Bool := c == '<' || c == '>' || c == '\x60'

/-- Of the characters of a name all but three may stand in a path. -/
theorem isPathChar_of_safe (hc : isUnsafeInName c = false) :
    RequestTarget.isPathChar c = !isOutsidePaths c := by
  simp only [isUnsafeInName, Text.isBlank, Text.isControl, Bool.or_eq_false_iff,
    beq_eq_false_iff_ne, ne_eq, Bool.and_eq_false_iff, decide_eq_false_iff_not, ← Char.toNat_inj] at hc
  rw [Bool.eq_iff_iff]
  simp only [RequestTarget.isPathChar, isOutsidePaths, Bool.or_eq_true, Bool.and_eq_true,
    decide_eq_true_eq, beq_iff_eq, Bool.not_eq_true', Bool.or_eq_false_iff, beq_eq_false_iff_ne,
    ne_eq, ← Char.toNat_inj]
  have hcodes : '<'.toNat = 60 ∧ '>'.toNat = 62 ∧ '\x60'.toNat = 96 ∧ '#'.toNat = 35 ∧
    '?'.toNat = 63 := by decide
  omega

theorem isPathChar_of_isWordChar (hc : isWordChar c = true) :
    RequestTarget.isPathChar c = true := by
  simp only [isWordChar, Bool.or_eq_true, beq_iff_eq] at hc
  obtain (halnum | rfl) | rfl := hc
  · exact isPathChar_of_isAlphanum halnum
  all_goals rfl

theorem isWordChar_of_isLabelChar (hc : isLabelChar c = true) : isWordChar c = true := by
  simp only [isLabelChar, Bool.or_eq_true] at hc
  show (c.isUpper || c.isLower || c.isDigit || c == '.' || c == '-') = true
  simp only [Bool.or_eq_true]
  obtain (hlower | hdigit) | hyphen := hc
  · exact .inl (.inl (.inl (.inr hlower)))
  · exact .inl (.inl (.inr hdigit))
  · exact .inr hyphen

/-! ### Legal paths -/

theorem all_of_isPlainWord {s : String} (hs : isPlainWord s = true) :
    s.toList.all isWordChar = true := (Bool.and_eq_true_iff.mp hs).2

namespace ResourceKind.Plain

theorem all_of_mem_fields (h : kind.Plain) {s : String} (hs : s ∈ kind.fields) :
    s.toList.all isWordChar = true := by
  simp only [ResourceKind.fields, List.mem_cons, List.not_mem_nil, or_false] at hs
  obtain rfl | rfl | rfl := hs
  · rcases h.group with hempty | hword
    · rw [hempty]
      rfl
    · exact all_of_isPlainWord hword
  · exact all_of_isPlainWord h.version
  · exact all_of_isPlainWord h.plural

theorem unmarked (h : kind.Plain) : ∀ s ∈ kind.fields, s.toList.any isMark = false :=
  fun _ hs => unmarked_of_all (h.all_of_mem_fields hs) (by decide)

end ResourceKind.Plain

namespace ClusterCall.WellFormed

theorem unmarked (h : call.WellFormed) : ∀ s ∈ call.segments, s.toList.any isMark = false :=
  unmarked_segments h.built.valid h.kind.unmarked

/-- Every segment but the name is made of word characters. -/
theorem of_mem_segments (h : call.WellFormed) {s : String} (hs : s ∈ call.segments) :
    s.toList.all isWordChar = true ∨ call.target.name = some s ∧ isSafeName s = true := by
  rcases mem_segments h.built.valid hs with hfixed | hfield | hlabel | hname
  · have hall : ∀ s ∈ fixedSegments, s.toList.all isWordChar = true := by decide
    exact .inl (hall s hfixed)
  · exact .inl (h.kind.all_of_mem_fields hfield)
  · have hall := all_of_isLabel hlabel
    rw [List.all_eq_true] at hall
    exact .inl (List.all_eq_true.mpr fun c hc => isWordChar_of_isLabelChar (hall c hc))
  · exact .inr hname

theorem isPathChar_of_mem_name {name : String} (hname : isSafeName name = true)
    (hc : c ∈ name.toList) : RequestTarget.isPathChar c = !isOutsidePaths c := by
  have hsafe := all_of_isSafeName hname
  rw [List.all_eq_true] at hsafe
  exact isPathChar_of_safe (by simpa using hsafe c hc)

/-- The path is legal unless the name has one of the three characters that only names have. -/
theorem path_legal (h : call.WellFormed) :
    (pathOf call.segments).toList.all RequestTarget.isPathChar = true ↔
      ∀ name, call.target.name = some name → name.toList.any isOutsidePaths = false := by
  rw [List.all_eq_true]
  constructor
  · intro hlegal name hself
    rw [List.any_eq_false]
    intro c hc
    have hmem : name ∈ call.segments := by simp [ClusterCall.segments, hself]
    have hpath := hlegal c (mem_pathOf.mpr ⟨name, hmem, .inr hc⟩)
    rw [isPathChar_of_mem_name (h.built.valid.name _ hself).2 hc] at hpath
    simpa using hpath
  · intro hinside c hc
    obtain ⟨s, hs, rfl | hc⟩ := mem_pathOf.mp hc
    · rfl
    rcases h.of_mem_segments hs with hall | ⟨hself, hname⟩
    · rw [List.all_eq_true] at hall
      exact isPathChar_of_isWordChar (hall c hc)
    · have hinside := hinside s hself
      rw [List.any_eq_false] at hinside
      rw [isPathChar_of_mem_name hname hc]
      simpa using hinside c hc

end ClusterCall.WellFormed

/-! ### What is read -/

def Operation.isOnLogs : Operation → Bool
  | logs _ => true
  | _ => false

/-- A namespace adds two segments and a name one, so their number tells which of them are there. -/
theorem below?_segments (group version plural : String) {ns name : Option String}
    {operation : Operation} (hname : name.isSome = operation.onObject)
    (hlogs : operation.isOnLogs = true → ns.isSome = true) :
    Address.below? group version
        ((ns.elim [] fun ns => ["namespaces", ns]) ++ [plural] ++ name.toList ++
          operation.segments) =
      some (⟨group, version, plural, ns, name⟩, operation.isOnLogs) := by
  cases operation with
  | list | create =>
      obtain rfl : name = none := by simpa [Operation.onObject] using hname
      cases ns <;> rfl
  | get | delete | patch =>
      obtain ⟨name, rfl⟩ : ∃ n, name = some n := Option.isSome_iff_exists.mp hname
      cases ns <;> rfl
  | logs =>
      obtain ⟨name, rfl⟩ : ∃ n, name = some n := Option.isSome_iff_exists.mp hname
      obtain ⟨ns, rfl⟩ : ∃ n, ns = some n := Option.isSome_iff_exists.mp (hlogs rfl)
      rfl

theorem ofSegments?_segments (h : call.WellFormed) :
    Address.ofSegments? call.segments = some (call.target.address, call.operation.isOnLogs) := by
  have hlogs : call.operation.isOnLogs = true → call.target.ns.isSome = true := by
    intro honLogs
    cases hoperation : call.operation with
    | logs container =>
        rw [h.built.valid.isScoped, h.logs container hoperation]
        rfl
    | _ => simp [hoperation, Operation.isOnLogs] at honLogs
  have hbelow := below?_segments call.target.kind.group call.target.kind.version
    call.target.kind.plural h.name hlogs
  unfold ClusterCall.segments ResourceRef.segments ResourceKind.segments
  split
  next hgroup =>
    rw [hgroup] at hbelow
    rw [ResourceRef.address, hgroup]
    exact hbelow
  next => exact hbelow

theorem parameters?_query (operation : Operation) :
    parameters? (operation.query?.getD "") = some (present operation.parameters) := by
  cases operation with
  | get => rfl
  | _ => exact parameters?_queryText (isKey_of_mem_parameters _)

theorem propagation?_sentTo (propagation : Propagation) (target : RequestTarget) :
    ((Operation.delete propagation).sentTo target).propagation? = some propagation := by
  have hbody : (Json.obj [("propagationPolicy", .str propagation.text)]).isReadable
      Json.depthLimit = true := by rfl
  rw [HttpRequest.propagation?, HttpRequest.body?, Operation.sentTo, Json.parse?_compact hbody]
  cases propagation <;> rfl

theorem strategy?_sentTo (body : Json) (strategy : PatchStrategy) (target : RequestTarget) :
    ((Operation.patch body strategy).sentTo target).strategy? = some strategy := by
  cases strategy <;> rfl

/-- What a call sends is read back as its operation. -/
theorem operation?_sentTo {operation : Operation} (target : RequestTarget)
    (hbody : ∀ body, operation.body? = some body → body.isReadable Json.depthLimit = true)
    (hquery : target.query = operation.query?) :
    (operation.sentTo target).operation? operation.onObject operation.isOnLogs =
      some operation := by
  have hparameters : parameters? ((operation.sentTo target).target.query.getD "") =
      some (present operation.parameters) := by
    rw [target_sentTo, hquery]
    exact parameters?_query operation
  rw [HttpRequest.operation?, hparameters]
  cases operation with
  | get => rfl
  | list s =>
      obtain ⟨labels, fields⟩ := s
      cases labels <;> cases fields <;> rfl
  | create body dryRun =>
      have hread := Json.parse?_compact (hbody body rfl)
      simp only [Operation.sentTo, Operation.onObject, Operation.isOnLogs, HttpRequest.body?, hread]
      cases dryRun <;> rfl
  | delete propagation =>
      have hread := propagation?_sentTo propagation target
      simp only [Operation.sentTo] at hread
      simp only [Operation.sentTo, Operation.onObject, Operation.isOnLogs, hread]
      rfl
  | patch body strategy =>
      have hread := Json.parse?_compact (hbody body rfl)
      have hstrategy := strategy?_sentTo body strategy target
      simp only [Operation.sentTo] at hstrategy
      simp only [Operation.sentTo, Operation.onObject, Operation.isOnLogs, HttpRequest.body?, hread,
        hstrategy]
      rfl
  | logs container => cases container <;> rfl

/-- A call has an address if that is short enough and its name may stand in a path. -/
structure ClusterCall.IsAddressable (call : ClusterCall) : Prop where
  length : call.url.utf8ByteSize ≤ Uri.lengthLimit
  name : ∀ name, call.target.name = some name → name.toList.any isOutsidePaths = false

namespace ClusterCall.WellFormed

theorem addressed_of_addressable (h : call.WellFormed) (haddressable : call.IsAddressable) :
    addressed call.url = .ok ⟨pathOf call.segments, call.operation.query?⟩ := by
  rw [addressed_url h.unmarked, if_neg (Nat.not_lt.mpr haddressable.length),
    if_pos (h.path_legal.mpr haddressable.name)]

theorem addressed_of_not_addressable (h : call.WellFormed)
    (hunaddressable : ¬ call.IsAddressable) : ∃ cause, addressed call.url = .error cause := by
  rw [addressed_url h.unmarked]
  split
  next => exact ⟨_, rfl⟩
  next hlength =>
    split
    next hlegal =>
      exact absurd ⟨Nat.not_lt.mp hlength, h.path_legal.mp hlegal⟩ hunaddressable
    next => exact ⟨_, rfl⟩

theorem request_eq_sentTo (h : call.WellFormed) :
    call.request = (addressed call.url).map fun target => call.operation.sentTo target :=
  request_eq h.name fun hempty => (h.built.valid.name _ hempty).1 rfl

/-- Whatever is sent for a call has the parameters of the operation and no others. -/
theorem parameters?_request {r : HttpRequest} (h : call.WellFormed) (hr : call.request = .ok r) :
    parameters? (r.target.query.getD "") = some (present call.operation.parameters) := by
  rw [h.request_eq_sentTo, addressed_url h.unmarked] at hr
  split at hr
  next => cases hr
  next =>
    split at hr
    next =>
      obtain rfl := Except.ok.inj hr
      rw [target_sentTo]
      exact parameters?_query call.operation
    next => cases hr

theorem decode?_sentTo (h : call.WellFormed) :
    (call.operation.sentTo ⟨pathOf call.segments, call.operation.query?⟩).decode? =
      some (call.target.address, call.operation) := by
  have hsegments : segments? (pathOf call.segments) = some call.segments :=
    segments?_eq_some.mpr ⟨rfl, fun s hs => not_mem_of_unmarked (h.unmarked s hs) rfl⟩
  have hoperation := operation?_sentTo ⟨pathOf call.segments, call.operation.query?⟩ h.body rfl
  rw [HttpRequest.decode?, target_sentTo, hsegments]
  simp only [Option.bind_eq_bind, Option.bind_some, ofSegments?_segments h]
  rw [ResourceRef.address, h.name, hoperation]
  rfl

end ClusterCall.WellFormed

/-! ### Calls of accessors -/

namespace Accessor

variable {accessor : Accessor} {plan : Plan}

/-- The call of every accessor is well-formed, as far as that does not lie with its caller. -/
theorem wellFormed_of_plan (h : accessor.plan = .ok plan) (hkind : plan.call.target.kind.Plain)
    (hbody : ∀ body, plan.call.operation.body? = some body →
      body.isReadable Json.depthLimit = true) : plan.call.WellFormed where
  built := (built_of_plan h).1
  kind := hkind
  name := (target_of_plan h).2
  logs := (built_of_plan h).2
  body := hbody

end Accessor

/-- A well-formed call that has an address sends one request, and everything about the call can be
read off it. Without an address it is an invalid request, and nothing is sent. -/
theorem requests_are_unambiguous {σ : Type} (send : Transport (StateM σ)) {call : ClusterCall}
    (h : call.WellFormed) (sent : List HttpRequest) (s : σ) :
    (call.IsAddressable → ∃ r,
      (Transport.perform send.recording call (sent, s)).2.1 = sent ++ [r] ∧
        r.decode? = some (call.target.address, call.operation)) ∧
    (¬ call.IsAddressable → ∃ message,
      Transport.perform send.recording call (sent, s) =
        (.error (.invalidRequest message), (sent, s))) := by
  constructor
  · intro haddressable
    have hrequest := h.request_eq_sentTo
    rw [h.addressed_of_addressable haddressable] at hrequest
    refine ⟨_, ?_, h.decode?_sentTo⟩
    rw [Transport.sent_of_perform send hrequest]
  · intro hunaddressable
    obtain ⟨cause, hcause⟩ := h.addressed_of_not_addressable hunaddressable
    have hrequest := h.request_eq_sentTo
    rw [hcause] at hrequest
    exact ⟨_, Transport.perform_of_error send.recording hrequest (sent, s)⟩

/-- The marks that queries are made of may all be in the name of a container. -/
theorem container_with_marks_is_read_back :
    (⟨⟨.pods, some "team-a", some "web-0"⟩, .logs (some "a&b=c+d %#é")⟩ : ClusterCall).WellFormed ∧
    ∃ r,
      (Transport.perform (Transport.recording fun _ => pure (.error "refused"))
        ⟨⟨.pods, some "team-a", some "web-0"⟩, .logs (some "a&b=c+d %#é")⟩ ([], ())).2.1 = [r] ∧
      r.decode? = some (⟨"", "v1", "pods", some "team-a", some "web-0"⟩,
        .logs (some "a&b=c+d %#é")) := by
  have hplan : (Accessor.podLogs "team-a" "web-0" (some "a&b=c+d %#é") .caller).plan = .ok
      { check := (AccessCheck.ofTarget "get" ⟨.pods, some "team-a", some "web-0"⟩).withSubresource
          "log"
        family := .core
        call := ⟨⟨.pods, some "team-a", some "web-0"⟩, .logs (some "a&b=c+d %#é")⟩ } := rfl
  have hformed :=
    Accessor.wellFormed_of_plan hplan ⟨.inl rfl, by decide, by decide⟩ (by rintro _ ⟨⟩)
  exact ⟨hformed, (requests_are_unambiguous (fun _ => pure (.error "refused")) hformed [] ()).1
    ⟨by decide, by rintro _ ⟨⟩; decide⟩⟩

end ClusterAccess
