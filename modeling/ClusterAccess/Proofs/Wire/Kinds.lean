import ClusterAccess.Proofs.Wire.Call

/-!
What the kind of a call does to its request. Namespaces and names are checked before anything is
sent; kinds are not, so the path of a request has the segments that it should have exactly if the
kind brings none of the marks that end a segment, a path or a query.
-/

namespace ClusterAccess

/-- The path has the segments of the call, one each, and the query is that of its operation. -/
structure HttpRequest.KeepsTo (r : HttpRequest) (call : ClusterCall) : Prop where
  path : segments? r.target.path = some call.segments
  query : r.target.query = call.operation.query?

variable {call : ClusterCall} {r : HttpRequest} {target : RequestTarget} {url : String}

theorem Transport.request_of_sent {σ : Type} (send : Transport (StateM σ)) {sent : List HttpRequest}
    {s : σ} (hsent : (perform send.recording call (sent, s)).2.1 = sent ++ [r]) :
    call.request = .ok r := by
  cases hrequest : call.request with
  | error cause =>
      rw [perform_of_error send.recording hrequest] at hsent
      simp at hsent
  | ok r' =>
      rw [sent_of_perform send hrequest] at hsent
      rw [List.append_cancel_left hsent |> List.singleton_inj.mp]

theorem ofChars_of_addressed (h : addressed url = .ok target) :
    RequestTarget.ofChars url.toList = .ok target := by
  unfold addressed at h
  split at h
  next => simp at h
  next => exact mapError_eq_ok.mp h

theorem unmarked_of_clean {segments : List String} (hpath : '?' ∉ (pathOf segments).toList ∧
    '#' ∉ (pathOf segments).toList) (hslash : ∀ s ∈ segments, '/' ∉ s.toList) :
    ∀ s ∈ segments, s.toList.any isMark = false := by
  intro s hs
  rw [List.any_eq_false]
  intro c hc hmark
  simp only [isMark, Bool.or_eq_true, beq_iff_eq] at hmark
  obtain (rfl | rfl) | rfl := hmark
  · exact hslash s hs hc
  · exact hpath.1 (mem_pathOf.mpr ⟨s, hs, .inr hc⟩)
  · exact hpath.2 (mem_pathOf.mpr ⟨s, hs, .inr hc⟩)

/-- The fields of a kind are among the segments, but for a group that is empty. -/
theorem mem_segments_of_mem_fields {field : String}
    (hfield : field ∈ call.target.kind.fields) : field = "" ∨ field ∈ call.segments := by
  have hkind :
      field = "" ∨ field ∈ call.target.kind.segments ∨ field = call.target.kind.plural := by
    simp only [ResourceKind.fields, List.mem_cons, List.not_mem_nil, or_false] at hfield
    unfold ResourceKind.segments
    split <;> grind
  rcases hkind with hempty | hsegment | rfl
  · exact .inl hempty
  · exact .inr (by simp [ClusterCall.segments, ResourceRef.segments, hsegment])
  · exact .inr (by simp [ClusterCall.segments, ResourceRef.segments])

/-- What is sent to the address of a call keeps to the call exactly if its kind has no marks. -/
theorem keepsTo_sentTo (hvalid : call.target.Valid) (haddressed : addressed call.url = .ok target) :
    (call.operation.sentTo target).KeepsTo call ↔
      ∀ field ∈ call.target.kind.fields, field.toList.any isMark = false := by
  constructor
  · rintro ⟨hpath, -⟩ field hfield
    rw [target_sentTo] at hpath
    obtain ⟨hjoined, hslash⟩ := segments?_eq_some.mp hpath
    have hmarks := RequestTarget.not_mem_path (ofChars_of_addressed haddressed)
    rw [hjoined] at hmarks
    rcases mem_segments_of_mem_fields hfield with rfl | hsegment
    · rfl
    · exact unmarked_of_clean hmarks hslash field hsegment
  · intro hkind
    have hsegments := unmarked_segments hvalid hkind
    rw [addressed_url hsegments] at haddressed
    split at haddressed
    next => simp at haddressed
    next =>
      split at haddressed
      next =>
        obtain rfl := Except.ok.inj haddressed
        refine ⟨?_, by rw [target_sentTo]⟩
        rw [target_sentTo, segments?_eq_some]
        exact ⟨rfl, fun s hs => not_mem_of_unmarked (hsegments s hs) rfl⟩
      next => simp at haddressed

/-- A request that an accessor sends has the path and the query that it should have exactly if no
field of the kind has a mark in it. Nothing else that a caller chooses matters. -/
theorem path_kept_iff_kind_unmarked {σ : Type} (send : Transport (StateM σ)) {accessor : Accessor}
    {plan : Plan} (h : accessor.plan = .ok plan) (sent : List HttpRequest) (s : σ)
    (hsent : (Transport.perform send.recording plan.call (sent, s)).2.1 = sent ++ [r]) :
    r.KeepsTo plan.call ↔
      ∀ field ∈ plan.call.target.kind.fields, field.toList.any isMark = false := by
  have hvalid := (Accessor.built_of_plan h).1.valid
  have hrequest := Transport.request_of_sent send hsent
  rw [request_eq (Accessor.target_of_plan h).2 fun hempty => (hvalid.name _ hempty).1 rfl]
    at hrequest
  cases haddressed : addressed plan.call.url with
  | error cause => simp [haddressed, Except.map] at hrequest
  | ok target =>
      obtain rfl : plan.call.operation.sentTo target = r := by
        simpa [haddressed, Except.map] using hrequest
      exact keepsTo_sentTo hvalid haddressed

/-- Widgets with a group of their own are asked for where they are. -/
theorem widget_path_kept :
    ∃ plan r, (Accessor.getCustomResource ⟨"example.com", "v1", "Widget", "widgets", true⟩
        (some "team-a") "w1").plan = .ok plan ∧
      (Transport.perform (Transport.recording fun _ => pure (.error "refused")) plan.call
        ([], ())).2.1 = [r] ∧
      r.KeepsTo plan.call := by
  have hplan : (Accessor.getCustomResource ⟨"example.com", "v1", "Widget", "widgets", true⟩
      (some "team-a") "w1").plan = .ok _ := rfl
  have hkept := path_kept_iff_kind_unmarked (fun _ => pure (.error "refused")) hplan [] () rfl
  exact ⟨_, _, hplan, rfl, hkept.mpr (by decide)⟩

/-- A plural that ends the path of a widget's request makes it one for a secret, which is not what
the gate is asked about. -/
theorem widget_read_as_secret :
    ∃ plan r, (Accessor.getCustomResource ⟨"", "v1", "Widget", "secrets/admin-token?", true⟩
        (some "team-a") "w1").plan = .ok plan ∧
      (Transport.perform (Transport.recording fun _ => pure (.error "refused")) plan.call
        ([], ())).2.1 = [r] ∧
      plan.check.resource = "secrets/admin-token?" ∧ plan.check.name = some "w1" ∧
      r.target = ⟨"/api/v1/namespaces/team-a/secrets/admin-token", some "/w1"⟩ ∧
      segments? r.target.path ≠ some plan.call.segments := by
  refine ⟨_, _, rfl, rfl, rfl, rfl, rfl, ?_⟩
  decide

end ClusterAccess
