import ClusterAccess.Proofs.Request.Question
import ClusterAccess.Proofs.Wire.Target
import ClusterAccess.Wire.ControlPlane

/-!
The request of a call in its parts: the segments of its path, its query, and what an operation
sends beside its address. A call sends this request once, or none if it has no address.
-/

namespace ClusterAccess

variable {call : ClusterCall} {target : RequestTarget}

/-! ### Addresses of calls -/

def ResourceKind.segments (k : ResourceKind) : List String :=
  if k.group = "" then ["api", k.version] else ["apis", k.group, k.version]

def ResourceRef.segments (r : ResourceRef) : List String :=
  r.kind.segments ++ (r.ns.elim [] fun ns => ["namespaces", ns]) ++ [r.kind.plural]

def Operation.segments : Operation → List String
  | logs _ => ["log"]
  | _ => []

def ClusterCall.segments (call : ClusterCall) : List String :=
  call.target.segments ++ call.target.name.toList ++ call.operation.segments

/-- The parameters that an operation has, with their values. -/
def Operation.parameters : Operation → List (String × Option String)
  | list s => [("fieldSelector", s.fields), ("labelSelector", s.labels)]
  | create _ dryRun => [("dryRun", if dryRun then some "All" else none)]
  | logs container => [("container", container)]
  | _ => []

/-- The query of an operation. To get an object needs none, not even an empty one. -/
def Operation.query? : Operation → Option String
  | get => none
  | operation => some (queryText operation.parameters)

def ClusterCall.url (call : ClusterCall) : String :=
  urlOf (pathOf call.segments) call.operation.query?

def Operation.sentTo (target : RequestTarget) : Operation → HttpRequest
  | get | list _ | logs _ => { method := .get, target }
  | create body _ =>
    { method := .post, target, headers := [(.contentType, jsonType)], body := body.compact }
  | delete propagation =>
    { method := .delete, target, headers := [(.contentType, jsonType)]
      body := (Json.obj [("propagationPolicy", .str propagation.text)]).compact }
  | patch body strategy =>
    { method := .patch, target
      headers := [(.accept, jsonType), (.contentType, HeaderValue.ofText strategy.contentType)]
      body := body.compact }

theorem target_sentTo (operation : Operation) (target : RequestTarget) :
    (operation.sentTo target).target = target := by
  cases operation <;> rfl

theorem isKey_of_mem_parameters (operation : Operation) :
    ∀ p ∈ operation.parameters, isKey p.1 = true := by
  cases operation <;> simp [Operation.parameters] <;> decide

theorem query_legal (operation : Operation) (text : String) (h : operation.query? = some text) :
    text.toList.all RequestTarget.isQueryChar = true := by
  have hkeys := isKey_of_mem_parameters operation
  cases operation <;> cases h <;> exact queryText_legal hkeys

theorem basePath_eq (k : ResourceKind) : k.basePath = pathOf k.segments := by
  unfold ResourceKind.basePath ResourceKind.segments
  split <;> simp [pathOf, ← String.toList_inj]

theorem collectionPath_eq (r : ResourceRef) : r.collectionPath = pathOf r.segments := by
  obtain ⟨kind, ns, name⟩ := r
  cases ns with
  | none =>
      rw [ResourceRef.segments, pathOf_append, pathOf_append, ← basePath_eq]
      simp [ResourceRef.collectionPath, pathOf, ← String.toList_inj]
  | some ns =>
      rw [ResourceRef.segments, pathOf_append, pathOf_append, ← basePath_eq]
      simp [ResourceRef.collectionPath, pathOf, ← String.toList_inj]

theorem ok_bind {ε α β : Type} (a : α) (f : α → Except ε β) : (.ok a : Except ε α) >>= f = f a :=
  rfl

theorem mapError_ok {ε ε' α : Type} (f : ε → ε') (a : α) :
    (.ok a : Except ε α).mapError f = .ok a := rfl

theorem pathOf_object (segments : List String) (name : String) :
    pathOf (segments ++ [name]) = pathOf segments ++ "/" ++ name := by
  rw [pathOf_append, String.append_assoc]
  simp [pathOf]

/-- A call's request is what its operation sends to the address of the call. -/
theorem request_eq (hname : call.target.name.isSome = call.operation.onObject)
    (hfull : call.target.name ≠ some "") :
    call.request = (addressed call.url).map fun target => call.operation.sentTo target := by
  obtain ⟨⟨kind, ns, name⟩, operation⟩ := call
  have hmap (url : String) : (addressed url).map (fun target => operation.sentTo target) =
      (do return operation.sentTo (← addressed url)) := by cases addressed url <;> rfl
  rw [hmap, ClusterCall.url, ClusterCall.segments]
  cases operation with
  | list | create =>
      obtain rfl : name = none := by simpa [Operation.onObject] using hname
      simp only [ClusterCall.request, creation, collectionPath_eq, urlOf, Operation.query?,
        Operation.parameters, Operation.segments, Operation.sentTo, Option.toList_none,
        List.append_nil]
  | get | delete | patch =>
      obtain ⟨name, rfl⟩ : ∃ n, name = some n := Option.isSome_iff_exists.mp hname
      have hpath : ResourceRef.pathName ⟨kind, ns, some name⟩ = .ok name :=
        if_neg fun heq => hfull (congrArg some heq)
      simp only [ClusterCall.request, hpath, collectionPath_eq, urlOf, Operation.query?,
        Operation.parameters, Operation.segments, Operation.sentTo, Option.toList_some,
        List.append_nil, pathOf_object, queryText, List.map_nil, String.join_nil,
        String.append_empty, ok_bind]
  | logs container =>
      obtain ⟨name, rfl⟩ : ∃ n, name = some n := Option.isSome_iff_exists.mp hname
      have hlog (path : String) : path ++ "/" ++ "log" ++ "?" = path ++ "/log?" := by
        simp [← String.toList_inj]
      simp only [ClusterCall.request, ResourceRef.requireName, collectionPath_eq, urlOf,
        Operation.query?, Operation.parameters, Operation.segments, Operation.sentTo,
        Option.toList_some, pathOf_object, hlog, mapError_ok, ok_bind]

/-! ### Segments -/

def ResourceKind.fields (k : ResourceKind) : List String := [k.group, k.version, k.plural]

/-- The segments that do not depend on what is called. -/
def fixedSegments : List String := ["api", "apis", "namespaces", "log"]

theorem ResourceKind.mem_segments {k : ResourceKind} {s : String} (hs : s ∈ k.segments) :
    s ∈ fixedSegments ∨ s ∈ k.fields := by
  unfold ResourceKind.segments at hs
  split at hs
  all_goals
    rcases List.mem_cons.mp hs with rfl | hs
    · exact .inl (by decide)
    · exact .inr (by simp only [ResourceKind.fields]; grind)

/-- The segments are fixed words, fields of the kind, the namespace and the name. -/
theorem mem_segments (hvalid : call.target.Valid) {s : String} (hs : s ∈ call.segments) :
    s ∈ fixedSegments ∨ s ∈ call.target.kind.fields ∨ isLabel s = true ∨
      call.target.name = some s ∧ isSafeName s = true := by
  simp only [ClusterCall.segments, ResourceRef.segments, List.mem_append] at hs
  obtain (((hs | hs) | hs) | hs) | hs := hs
  · exact (ResourceKind.mem_segments hs).imp_right .inl
  · cases hns : call.target.ns with
    | none => simp [hns] at hs
    | some ns =>
        simp only [hns, Option.elim_some, List.mem_cons, List.not_mem_nil, or_false] at hs
        obtain rfl | rfl := hs
        · exact .inl (by decide)
        · exact .inr (.inr (.inl (hvalid.ns _ hns)))
  · obtain rfl := List.mem_singleton.mp hs
    exact .inr (.inl (by simp [ResourceKind.fields]))
  · have hname := Option.mem_toList.mp hs
    exact .inr (.inr (.inr ⟨hname, (hvalid.name _ hname).2⟩))
  · cases hoperation : call.operation with
    | logs container =>
        rw [hoperation, Operation.segments, List.mem_singleton] at hs
        obtain rfl := hs
        exact .inl (by decide)
    | _ => simp [hoperation, Operation.segments] at hs

def isMark (c : Char) : Bool := c == '/' || c == '?' || c == '#'

theorem unmarked_of_all {p : Char → Bool} {s : String} (hs : s.toList.all p = true)
    (hp : p '/' = false ∧ p '?' = false ∧ p '#' = false) : s.toList.any isMark = false := by
  rw [List.all_eq_true] at hs
  rw [List.any_eq_false]
  intro c hc hmark
  have hpc := hs c hc
  simp only [isMark, Bool.or_eq_true, beq_iff_eq] at hmark
  obtain (rfl | rfl) | rfl := hmark <;> simp_all

theorem all_of_isLabel {ns : String} (hns : isLabel ns = true) :
    ns.toList.all isLabelChar = true := by
  simp only [isLabel, Bool.and_eq_true] at hns
  exact hns.1.1.2

theorem all_of_isSafeName {name : String} (hname : isSafeName name = true) :
    name.toList.all (!isUnsafeInName ·) = true := by
  simp only [isSafeName, Bool.and_eq_true] at hname
  simpa using hname.2

/-- Only through its kind can a mark get into the segments of a call. -/
theorem unmarked_segments (hvalid : call.target.Valid)
    (hkind : ∀ s ∈ call.target.kind.fields, s.toList.any isMark = false) :
    ∀ s ∈ call.segments, s.toList.any isMark = false := by
  intro s hs
  rcases mem_segments hvalid hs with hfixed | hfield | hlabel | ⟨-, hsafe⟩
  · have hall : ∀ s ∈ fixedSegments, s.toList.any isMark = false := by decide
    exact hall s hfixed
  · exact hkind s hfield
  · exact unmarked_of_all (all_of_isLabel hlabel) (by decide)
  · exact unmarked_of_all (all_of_isSafeName hsafe) (by decide)

theorem mem_pathOf {segments : List String} {c : Char} :
    c ∈ (pathOf segments).toList ↔ ∃ s ∈ segments, c = '/' ∨ c ∈ s.toList := by
  simp [toList_pathOf]

theorem not_mem_of_unmarked {s : String} {c : Char} (hs : s.toList.any isMark = false)
    (hc : isMark c = true) : c ∉ s.toList := by
  intro hmem
  rw [List.any_eq_false] at hs
  exact hs c hmem hc

theorem not_mem_pathOf {segments : List String} {c : Char}
    (hsegments : ∀ s ∈ segments, s.toList.any isMark = false) (hc : isMark c = true)
    (hslash : c ≠ '/') : c ∉ (pathOf segments).toList := by
  intro hmem
  obtain ⟨s, hs, hc'⟩ := mem_pathOf.mp hmem
  exact not_mem_of_unmarked (hsegments s hs) hc (hc'.resolve_left hslash)

/-- Without marks in its segments a call is addressed by exactly these segments, unless the address
is too long or has a character that no path has. -/
theorem addressed_url (hsegments : ∀ s ∈ call.segments, s.toList.any isMark = false) :
    addressed call.url =
      if Uri.lengthLimit < call.url.utf8ByteSize then .error (.address .tooLong)
      else if (pathOf call.segments).toList.all RequestTarget.isPathChar then
        .ok ⟨pathOf call.segments, call.operation.query?⟩
      else .error (.address .invalidCharacter) := by
  refine addressed_urlOf ⟨?_, ?_⟩ (query_legal call.operation)
  · exact not_mem_pathOf hsegments rfl (by decide)
  · exact not_mem_pathOf hsegments rfl (by decide)

/-! ### What is sent -/

namespace Transport

variable {σ α : Type} {request : Except RequestFault HttpRequest} {r : HttpRequest}
  {cause : RequestFault}

def recording (send : Transport (StateM σ)) : Transport (StateM (List HttpRequest × σ)) :=
  fun r (sent, s) =>
    let (answer, s) := send r s
    (answer, (sent ++ [r], s))

theorem exchange_of_error {m : Type → Type} [Monad m] (send : Transport m)
    (read : HttpResponse → Except CallFault α) :
    exchange send (.error cause) read = pure (.error (.request cause)) := rfl

/-- An exchange sends its request and nothing else. -/
theorem sent_of_exchange (send : Transport (StateM σ)) (read : HttpResponse → Except CallFault α)
    (sent : List HttpRequest) (s : σ) :
    (exchange send.recording (.ok r) read (sent, s)).2 = (sent ++ [r], (send r s).2) := by
  obtain ⟨⟨answer, s'⟩, hsend⟩ : ∃ outcome, send r s = outcome := ⟨_, rfl⟩
  cases answer <;> (simp only [exchange, recording, bind, StateT.bind, hsend]; rfl)

/-- A call without a request is an invalid one, and nothing is sent for it. -/
theorem perform_of_error (send : Transport (StateM σ)) (h : call.request = .error cause) (s : σ) :
    perform send call s = (.error (.invalidRequest cause.message), s) := by
  rw [perform, h, exchange_of_error]
  rfl

theorem sent_of_perform (send : Transport (StateM σ)) (h : call.request = .ok r)
    (sent : List HttpRequest) (s : σ) :
    (perform send.recording call (sent, s)).2 = (sent ++ [r], (send r s).2) := by
  rw [← sent_of_exchange send (payload call.operation), perform, h]
  rfl

end Transport

end ClusterAccess
