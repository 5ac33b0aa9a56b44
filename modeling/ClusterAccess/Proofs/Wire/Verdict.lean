import ClusterAccess.Proofs.Access.EntryPoints
import ClusterAccess.Proofs.Wire.Delivery
import ClusterAccess.Proofs.Wire.Review

/-!
Reviews as they are sent and answered. The body of a review can be read back to the question that it
asks, part by part, so no two questions are the same on the wire. Of all that can come back only a
review with an allowance in its status allows, and one without it denies; all else is an error.
-/

namespace ClusterAccess

/-! ### The question -/

namespace Json

variable {key : String} {fields : List (String × Json)}

theorem lookup_eq_none (h : key ∉ fields.map (·.1)) : lookup key fields = none := by
  induction fields with
  | nil => rfl
  | cons field rest ih =>
      simp only [List.map_cons, List.mem_cons, not_or] at h
      rw [lookup, if_neg (Ne.symm h.1), ih h.2]

theorem lookup_foldl_putField (hkeys : (fields.map (·.1)).Nodup) (before : List (String × Json)) :
    lookup key (fields.foldl (fun done (k, v) => putField k v done) before) =
      (lookup key fields).or (lookup key before) := by
  induction fields generalizing before with
  | nil => rfl
  | cons field rest ih =>
      obtain ⟨k, v⟩ := field
      rw [List.map_cons, List.nodup_cons] at hkeys
      rw [List.foldl_cons, ih hkeys.2, lookup_putField, lookup]
      split
      next hkey =>
        subst hkey
        rw [lookup_eq_none hkeys.1]
        rfl
      next => rfl

/-- Sorting the fields of an object changes none of them. -/
theorem field?_ofFields (hkeys : (fields.map (·.1)).Nodup) :
    (ofFields fields).field? key = lookup key fields := by
  show lookup key (sortFields fields) = _
  rw [sortFields, lookup_foldl_putField hkeys, lookup, Option.or_none]

/-- What stands at the end of a path of keys. -/
def at? (path : List String) (v : Json) : Option Json :=
  path.foldlM (fun v key => v.field? key) v

end Json

namespace AccessReview

/-- The body asks whether the asker may do what the check says. Each part stands at its place as a
text, and a part that the check does not have is not there. -/
structure Asks (v : Json) (asker : Identity) (check : AccessCheck) : Prop where
  user : v.at? ["spec", "user"] = some (.str asker.name)
  verb : v.at? ["spec", "resourceAttributes", "verb"] = some (.str check.verb)
  group : v.at? ["spec", "resourceAttributes", "group"] = some (.str check.group)
  version : v.at? ["spec", "resourceAttributes", "version"] = some (.str check.version)
  resource : v.at? ["spec", "resourceAttributes", "resource"] = some (.str check.resource)
  subresource :
    v.at? ["spec", "resourceAttributes", "subresource"] = check.subresource.map .str
  ns : v.at? ["spec", "resourceAttributes", "namespace"] = check.ns.map .str
  name : v.at? ["spec", "resourceAttributes", "name"] = check.name.map .str

theorem presentFields_sublist (fields : List (String × Option String)) :
    ((presentFields fields).map (·.1)).Sublist (fields.map (·.1)) := by
  induction fields with
  | nil => exact .refl _
  | cons field rest ih =>
      obtain ⟨key, value⟩ := field
      cases value with
      | none => exact ih.cons key
      | some text => exact ih.cons_cons key

theorem lookup_presentFields {key : String} {fields : List (String × Option String)}
    (hkeys : (fields.map (·.1)).Nodup) :
    Json.lookup key (presentFields fields) = ((fields.lookup key).join).map .str := by
  induction fields with
  | nil => rfl
  | cons field rest ih =>
      obtain ⟨k, value⟩ := field
      rw [List.map_cons, List.nodup_cons] at hkeys
      obtain ⟨hk, hrest⟩ := hkeys
      by_cases hkey : key = k
      · subst hkey
        rw [List.lookup_cons_self]
        cases value with
        | none =>
            exact Json.lookup_eq_none fun hmem => hk ((presentFields_sublist rest).subset hmem)
        | some text => exact if_pos rfl
      · rw [List.lookup_cons, beq_false_of_ne hkey]
        cases value with
        | none => exact ih hrest
        | some text => exact (if_neg (Ne.symm hkey)).trans (ih hrest)

def attributes (check : AccessCheck) : List (String × Option String) :=
  [("verb", some check.verb), ("group", some check.group), ("version", some check.version),
    ("resource", some check.resource), ("subresource", check.subresource),
    ("namespace", check.ns), ("name", check.name)]

theorem at?_body (asker : Identity) (check : AccessCheck) (key : String) :
    (body asker check).at? ["spec", "resourceAttributes", key] =
      (((attributes check).lookup key).join).map .str := by
  have hspec : (body asker check).field? "spec" = some (.ofFields
      [("resourceAttributes", .ofFields (presentFields (attributes check))),
        ("user", .str asker.name)]) := by
    rw [body, Json.field?_ofFields (by simp)]
    rfl
  have hattributes : ((presentFields (attributes check)).map (·.1)).Nodup :=
    (presentFields_sublist _).nodup (by simp [attributes])
  rw [← lookup_presentFields (by simp [attributes]), ← Json.field?_ofFields hattributes]
  have hnested : (Json.ofFields
      [("resourceAttributes", .ofFields (presentFields (attributes check))),
        ("user", .str asker.name)]).field? "resourceAttributes" =
      some (.ofFields (presentFields (attributes check))) := by
    rw [Json.field?_ofFields (by simp)]
    rfl
  simp only [Json.at?, List.foldlM_cons, List.foldlM_nil, hspec, hnested, Option.bind_eq_bind,
    Option.bind_some]
  exact Option.bind_fun_some _

theorem asks_body (asker : Identity) (check : AccessCheck) :
    Asks (body asker check) asker check where
  user := field?_body asker check
  verb := at?_body asker check "verb"
  group := at?_body asker check "group"
  version := at?_body asker check "version"
  resource := at?_body asker check "resource"
  subresource := at?_body asker check "subresource"
  ns := at?_body asker check "namespace"
  name := at?_body asker check "name"

/-- A body asks one question. -/
theorem Asks.unique {v : Json} {asker asker' : Identity} {check check' : AccessCheck}
    (h : Asks v asker check) (h' : Asks v asker' check') : asker = asker' ∧ check = check' := by
  have htext {a b : String} (heq : some (Json.str a) = some (.str b)) : a = b := by
    simpa using heq
  have hpart {a b : Option String} (heq : a.map Json.str = b.map .str) : a = b :=
    Option.map_injective (fun _ _ hstr => Json.str.inj hstr) heq
  obtain ⟨⟩ := asker
  obtain ⟨⟩ := asker'
  obtain ⟨⟩ := check
  obtain ⟨⟩ := check'
  simp only [Identity.mk.injEq, AccessCheck.mk.injEq]
  exact ⟨htext (h.user.symm.trans h'.user), htext (h.verb.symm.trans h'.verb),
    htext (h.group.symm.trans h'.group), htext (h.version.symm.trans h'.version),
    htext (h.resource.symm.trans h'.resource), hpart (h.subresource.symm.trans h'.subresource),
    hpart (h.ns.symm.trans h'.ns), hpart (h.name.symm.trans h'.name)⟩

end AccessReview

/-! ### The answer -/

namespace Json

namespace Document

def Missing (part : Option Document) : Prop := ∀ d, part = some d → d.isNull = true

theorem eq_of_isNull {d : Document} (h : d.isNull = true) : d = .scalar (some .null) := by
  unfold isNull at h
  split at h
  next => rfl
  next => cases h

theorem mem_of_field? {key : String} {fields : List (Option String × Document)} {d : Document}
    (h : (object fields).field? key = some d) : (some key, d) ∈ fields := by
  obtain ⟨⟨k, d'⟩, hlast, rfl⟩ := Option.map_eq_some_iff.mp h
  obtain ⟨hmem, hkey⟩ := List.mem_filter.mp (List.mem_of_getLast? hlast)
  obtain rfl : k = some key := by simpa using hkey
  exact hmem

end Document

/-- A field of a record has the shape that is named for it. -/
theorem Shape.acceptsField_of_field? {room : Nat} {required : List String}
    {shapes : List (String × Shape)} {d part : Document} {key : String}
    (h : (record required shapes).accepts room d = true) (hpart : d.field? key = some part) :
    ∃ less, room = less + 1 ∧ acceptsField less shapes key part = true := by
  cases d with
  | object fields =>
      cases room with
      | zero => simp [accepts] at h
      | succ less =>
          simp only [accepts, Bool.and_eq_true, List.all_eq_true] at h
          refine ⟨less, rfl, ?_⟩
          simpa using h.2 _ (Document.mem_of_field? hpart)
  | _ => simp [Document.field?] at hpart

end Json

namespace AccessReview

open Json (Document Shape)
open Json.Document (Missing)

/-- What a review says of the question: what stands in its status, and no where nothing does. -/
inductive Says (review : Document) : Bool → Prop
  | stated {status : Document} {allowed : Bool} (hstatus : review.field? "status" = some status)
      (hallowed : status.field? "allowed" = some (.scalar (some (.bool allowed)))) :
      Says review allowed
  | silent {status : Document} (hstatus : review.field? "status" = some status)
      (hallowed : Missing (status.field? "allowed")) : Says review false
  | open (hstatus : Missing (review.field? "status")) : Says review false

variable {review : Document}

/-- A field that may be missing is null where it does not have its shape. -/
theorem null_or_accepts (shape : Shape) {fields : List (String × Shape)} {room : Nat}
    {d part : Document} {key : String}
    (h : (Shape.record [] fields).accepts room d = true) (hpart : d.field? key = some part)
    (hshape : ∀ room,
      Shape.acceptsField room fields key part = (Shape.optional shape).accepts room part) :
    part.isNull = true ∨ ∃ room, shape.accepts room part = true := by
  obtain ⟨less, -, haccepts⟩ := Shape.acceptsField_of_field? h hpart
  rw [hshape, Shape.accepts, Bool.or_eq_true] at haccepts
  exact haccepts.imp_right fun haccepts => ⟨less, haccepts⟩

theorem eq_of_accepts_flag {room : Nat} {d : Document} (h : Shape.flag.accepts room d = true) :
    ∃ b, d = .scalar (some (.bool b)) := by
  cases d with
  | scalar value =>
      obtain _ | v := value
      · simp [Shape.accepts] at h
      · cases v with
        | bool b => exact ⟨b, rfl⟩
        | _ => simp [Shape.accepts, Shape.acceptsScalar] at h
  | _ => simp [Shape.accepts] at h

theorem isAllowed_of_missing
    (h : Missing ((review.field? "status").bind (·.field? "allowed"))) :
    isAllowed review = false := by
  unfold isAllowed
  split
  next allowed hpart => exact absurd (h _ hpart) (by simp [Document.isNull])
  next => rfl

/-- A review says what is taken from it, and nothing else. -/
theorem isAllowed_iff {b : Bool} (h : shape.fits review = true) :
    isAllowed review = b ↔ Says review b := by
  constructor
  · rintro rfl
    cases hstatus : review.field? "status" with
    | none =>
        rw [isAllowed_of_missing (by simp [Missing, hstatus])]
        exact .open (by simp [Missing, hstatus])
    | some status =>
        rcases null_or_accepts statusShape h hstatus
            (fun room => by simp [Shape.acceptsField]) with hnull | ⟨room, haccepts⟩
        · obtain rfl := Document.eq_of_isNull hnull
          rw [isAllowed_of_missing (by rw [hstatus]; simp [Missing, Document.field?])]
          exact .open (by simp [Missing, hstatus, Document.isNull])
        · cases hallowed : status.field? "allowed" with
          | none =>
              rw [isAllowed_of_missing (by simp [Missing, hstatus, hallowed])]
              exact .silent hstatus (by simp [Missing, hallowed])
          | some part =>
              rcases null_or_accepts .flag haccepts hallowed
                  (fun room => by simp [Shape.acceptsField]) with hnull | ⟨room, hflag⟩
              · rw [isAllowed_of_missing (by simp [Missing, hstatus, hallowed, hnull])]
                exact .silent hstatus (by simp [Missing, hallowed, hnull])
              · obtain ⟨b, rfl⟩ := eq_of_accepts_flag hflag
                have hverdict : isAllowed review = b := by simp [isAllowed, hstatus, hallowed]
                rw [hverdict]
                exact .stated hstatus hallowed
  · rintro (⟨hstatus, hallowed⟩ | ⟨hstatus, hallowed⟩ | hstatus)
    · simp [isAllowed, hstatus, hallowed]
    · exact isAllowed_of_missing (by simpa [hstatus] using hallowed)
    · refine isAllowed_of_missing fun part hpart => ?_
      obtain ⟨status, hfield, hpart⟩ := Option.bind_eq_some_iff.mp hpart
      obtain rfl := Document.eq_of_isNull (hstatus status hfield)
      cases hpart

/-- The reply is a review: no error, and the text of a document that has the shape of one. -/
def IsReview (reply : Except String HttpResponse) (review : Document) : Prop :=
  ∃ response text, reply = .ok response ∧ response.isError = false ∧
    Text.Utf8.decode response.body = .ok text ∧ Json.document? text = some review ∧
    shape.fits review = true

/-- The reply answers the question: it is a review that says so. -/
def Answers (reply : Except String HttpResponse) (allowed : Bool) : Prop :=
  ∃ review, IsReview reply review ∧ Says review allowed

def judged (reply : Except String HttpResponse) : Except CallFault Bool :=
  match reply with
  | .error message => .error (.connection message)
  | .ok response => do readAnswer (← response.text)

theorem readAnswer_eq_ok {text : List Char} {b : Bool} :
    readAnswer text = .ok b ↔
      ∃ review, Json.document? text = some review ∧ shape.fits review = true ∧ Says review b := by
  unfold readAnswer
  cases Json.document? text with
  | none => simp
  | some review =>
      dsimp only
      split
      next hfits => simp [hfits, isAllowed_iff hfits]
      next hfits => simp [hfits]

theorem judged_eq_ok {reply : Except String HttpResponse} {b : Bool} :
    judged reply = .ok b ↔ Answers reply b := by
  unfold judged Answers IsReview
  cases reply with
  | error message => simp
  | ok response =>
      dsimp only
      rw [HttpResponse.text_eq]
      cases hdecode : Text.Utf8.decode response.body with
      | error cause => simp [hdecode, bind, Except.bind]
      | ok text =>
          cases herror : response.isError with
          | true => simp [herror, bind, Except.bind]
          | false =>
              show readAnswer text = .ok b ↔ _
              rw [readAnswer_eq_ok]
              simp [herror, hdecode, and_assoc]

end AccessReview

/-! ### Both together -/

namespace Transport

open AccessReview (Asks)

variable {σ : Type} {send : Transport (StateM σ)} {s : σ} {asker : Identity} {check : AccessCheck}
  {r : HttpRequest}

/-- A review sends its request once and answers by what comes back. -/
theorem review_run (h : AccessReview.request asker check = .ok r) :
    review send asker check s =
      ((AccessReview.judged (send r s).1).mapError (·.toAnonymousFault), (send r s).2) := by
  obtain ⟨⟨reply, s'⟩, hsend⟩ : ∃ outcome, send r s = outcome := ⟨_, rfl⟩
  rw [review, h]
  cases reply <;> (simp only [exchange, bind, StateT.bind, hsend]; rfl)

theorem sent_of_review (h : AccessReview.request asker check = .ok r) (sent : List HttpRequest) :
    (review send.recording asker check (sent, s)).2 = (sent ++ [r], (send r s).2) := by
  rw [review_run h]
  rfl

theorem review_eq_ok (h : AccessReview.request asker check = .ok r) {b : Bool} :
    (review send asker check s).1 = .ok b ↔ AccessReview.Answers (send r s).1 b := by
  rw [review_run h, ← AccessReview.judged_eq_ok]
  exact mapError_eq_ok

/-- For everybody and every check a review is one request, always to the same place, whose body asks
what is to be answered and nothing that another review asks. What comes back allows or denies if it
is a review that says so, and all else is an error. So the gate lets somebody through who has a name
if a review comes back that allows it, and on everything else that person is forbidden to pass. -/
theorem review_asks_and_is_answered (send : Transport (StateM σ)) (s : σ) (asker : Identity)
    (check : AccessCheck) :
    ∃ r, AccessReview.request asker check = .ok r ∧
      (review send.recording asker check ([], s)).2.1 = [r] ∧
      r.method = .post ∧ r.target = ⟨AccessReview.path, some ""⟩ ∧
      (∃ v, r.body? = some v ∧ Asks v asker check) ∧
      (∀ asker' check' r', AccessReview.request asker' check' = .ok r' → r'.body = r.body →
        asker' = asker ∧ check' = check) ∧
      (∀ b, (review send asker check s).1 = .ok b ↔ AccessReview.Answers (send r s).1 b) ∧
      ((∃ f, (review send asker check s).1 = .error f) ↔
        ∀ b, ¬ AccessReview.Answers (send r s).1 b) ∧
      ∀ gate : AuthorizationGate, gate.authDisabled = false → asker ≠ .ambient →
        ((gate.authorize send.review asker check s).1 = .ok () ↔
          AccessReview.Answers (send r s).1 true) ∧
        (¬ AccessReview.Answers (send r s).1 true → ∃ reason,
          (gate.authorize send.review asker check s).1 =
            .error (.forbidden asker.display check.verb check.resourceLabel check.ns reason)) := by
  have hr := AccessReview.request_eq asker check
  have hbody {asker' check' r'} (h : AccessReview.request asker' check' = .ok r') :
      r'.body? = some (AccessReview.body asker' check') := by
    rw [AccessReview.request_eq] at h
    obtain rfl := Except.ok.inj h
    exact Json.parse?_compact (AccessReview.isReadable_body asker' check')
  refine ⟨_, hr, ?_, rfl, rfl, ⟨_, hbody hr, AccessReview.asks_body asker check⟩, ?_,
    fun b => review_eq_ok hr, ?_, fun gate hauth hid => ?_⟩
  · rw [sent_of_review hr, List.nil_append]
  · intro asker' check' r' hr' heq
    have hsame : AccessReview.body asker' check' = AccessReview.body asker check := by
      have hread := hbody hr'
      rw [HttpRequest.body?, heq] at hread
      exact Option.some.inj (hread.symm.trans (hbody hr))
    exact (AccessReview.asks_body asker' check').unique (hsame ▸ AccessReview.asks_body asker check)
  · simp only [← review_eq_ok hr]
    cases (review send asker check s).1 <;> simp
  · have hjudged : (gate.canI send.review asker check s).1 = (review send asker check s).1 := by
      simp [AuthorizationGate.canI_run, hauth, hid]
    obtain ⟨hallowed, hforbidden⟩ : GateUse.Passes ⟨.authorize, asker, check⟩
        (gate.canI send.review asker check s).1 (gate.authorize send.review asker check s).1 :=
      AuthorizationGate.passes_authorize _
    rw [hjudged, review_eq_ok hr] at hallowed
    rw [hjudged, Ne, review_eq_ok hr] at hforbidden
    exact ⟨hallowed, hforbidden⟩

def answering (text : String) : Transport (StateM Unit) := fun _ =>
  pure (.ok ⟨201, Text.Utf8.encode text.toList⟩)

theorem answers_answering {text : String} {b : Bool}
    (h : AccessReview.readAnswer text.toList = .ok b) (r : HttpRequest) :
    AccessReview.Answers (answering text r ()).1 b := by
  obtain ⟨review, hdocument, hfits, hverdict⟩ := AccessReview.readAnswer_eq_ok.mp h
  exact ⟨review, ⟨_, _, rfl, rfl, Text.Utf8.decode_encode _, hdocument, hfits⟩, hverdict⟩

def allowance : String :=
  "\x7b\"apiVersion\":\"authorization.k8s.io/v1\",\"kind\":\"SubjectAccessReview\"," ++
    "\"status\":\x7b\"allowed\":true\x7d\x7d"

def silence : String :=
  "\x7b\"apiVersion\":\"authorization.k8s.io/v1\",\"kind\":\"SubjectAccessReview\"," ++
    "\"status\":\x7b\x7d\x7d"

/-- Alice may read logs if a review allows it. A review that says nothing is a denial, and an answer
that is no review is an error; neither lets her pass. -/
theorem alice_reads_logs_where_allowed :
    let gate : AuthorizationGate := ⟨.strict, false⟩
    let check : AccessCheck := { verb := "get", group := "", version := "v1", resource := "pods"
                                 subresource := some "log", ns := some "ns1", name := some "web-0" }
    (gate.authorize (answering allowance).review ⟨"alice"⟩ check ()).1 = .ok () ∧
      (review (answering silence) ⟨"alice"⟩ check ()).1 = .ok false ∧
      (∃ f, (review (answering "true") ⟨"alice"⟩ check ()).1 = .error f) ∧
      ∃ reason, (gate.authorize (answering silence).review ⟨"alice"⟩ check ()).1 =
        .error (.forbidden "alice" "get" "pods/log" (some "ns1") reason) := by
  intro gate check
  obtain ⟨r, -, -, -, -, -, -, -, -, hallowed⟩ :=
    review_asks_and_is_answered (answering allowance) () ⟨"alice"⟩ check
  obtain ⟨r', -, -, -, -, -, -, hanswered, -, hdenied⟩ :=
    review_asks_and_is_answered (answering silence) () ⟨"alice"⟩ check
  obtain ⟨r'', hr'', -, -, -, -, -, -, hfailed, -⟩ :=
    review_asks_and_is_answered (answering "true") () ⟨"alice"⟩ check
  have hsilence := (hanswered false).mpr (answers_answering rfl r')
  refine ⟨(hallowed gate rfl (by decide)).1.mpr (answers_answering rfl r), hsilence,
    hfailed.mpr fun b hb => ?_, (hdenied gate rfl (by decide)).2 fun htrue => ?_⟩
  · have hread := AccessReview.judged_eq_ok.mpr hb
    cases hread
  · rw [(hanswered true).mpr htrue] at hsilence
    cases hsilence

end Transport

end ClusterAccess
