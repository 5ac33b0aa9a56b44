import ClusterAccess.Proofs.Wire.Call

/-!
What becomes of a request that a client has handed over to be sent. It is answered usably, or the
fault of the call tells how it was not: by an error of the control plane, whose code it keeps, or by
an answer that cannot be read, or by none at all, which have no code.
-/

namespace ClusterAccess

structure Delivery where
  request : HttpRequest
  reply : Except String HttpResponse

namespace Delivery

variable {d : Delivery}

/-- The reply is no error and can be read as what the operation is to bring: a text if it is to
bring logs, and else JSON. -/
def IsUsable (d : Delivery) (operation : Operation) : Prop :=
  ∃ r text, d.reply = .ok r ∧ r.isError = false ∧ Text.Utf8.decode r.body = .ok text ∧
    ((∃ container, operation = .logs container) ∨ ∃ v, Json.read? text = some v)

/-- The error that the reply is, if it is one in a text. -/
def errorAnswer? (d : Delivery) : Option ErrorAnswer :=
  match d.reply with
  | .error _ => none
  | .ok r =>
    if r.isError then (Text.Utf8.decode r.body).toOption.map (ErrorAnswer.ofBody r.status) else none

/-- The code of the error that the reply is: the one in its body if that describes an error, and
else that of the reply itself. -/
def errorCode? (d : Delivery) : Option Nat :=
  match d.reply with
  | .error _ => none
  | .ok r =>
    if r.isError then (Text.Utf8.decode r.body).toOption.map fun text =>
      match (Json.document? text).bind ErrorAnswer.ofDocument? with
      | some described => described.code
      | none => r.status
    else none

theorem not_isUsable_of_errorAnswer? {e : ErrorAnswer} {operation : Operation}
    (h : d.errorAnswer? = some e) : ¬ d.IsUsable operation := by
  rintro ⟨r, text, hreply, herror, -, -⟩
  simp [errorAnswer?, hreply, herror] at h

theorem code_of_errorAnswer? : d.errorAnswer?.map (·.code) = d.errorCode? := by
  unfold errorAnswer? errorCode?
  split
  next => rfl
  next r =>
    split
    next =>
      rw [Option.map_map]
      congr 1
      funext text
      simp only [Function.comp_apply, ErrorAnswer.ofBody]
      cases (Json.document? text).bind ErrorAnswer.ofDocument? <;> rfl
    next => rfl

def outcome (d : Delivery) (operation : Operation) : Except CallFault Json :=
  match d.reply with
  | .error message => .error (.connection message)
  | .ok r => Transport.payload operation r

def answer (d : Delivery) (call : ClusterCall) : Except Fault Json :=
  (d.outcome call.operation).mapError (·.toFault call.target.kind.kind call.target.name)

end Delivery

/-! ### Reading a reply -/

def Operation.read (operation : Operation) (text : List Char) : Except CallFault Json :=
  match operation with
  | .logs _ => .ok (.str (String.ofList text))
  | _ => match Json.read? text with
    | some v => .ok v
    | none => .error (.notReadable "expected a JSON value")

theorem Operation.exists_read_iff {operation : Operation} {text : List Char} :
    (∃ v, operation.read text = .ok v) ↔
      (∃ container, operation = .logs container) ∨ ∃ v, Json.read? text = some v := by
  cases operation <;> cases hread : Json.read? text <;> simp [Operation.read, hread]

theorem Operation.read_eq_error {operation : Operation} {text : List Char} {c : CallFault}
    (h : operation.read text = .error c) : c = .notReadable "expected a JSON value" := by
  cases operation with
  | logs container => cases h
  | _ =>
      cases hread : Json.read? text with
      | some v => simp [Operation.read, hread] at h
      | none => simpa [Operation.read, hread] using h.symm

/-- The text of an answer that is no error, and else why there is none. -/
theorem HttpResponse.text_eq (r : HttpResponse) :
    r.text = match Text.Utf8.decode r.body with
      | .error cause => .error (.notText cause)
      | .ok text =>
        if r.isError then .error (.answered (.ofBody r.status text)) else .ok text := by
  unfold HttpResponse.text
  cases Text.Utf8.decode r.body <;> rfl

/-- Every reply is read in the same three steps, whatever the operation. -/
theorem Transport.payload_eq (operation : Operation) (r : HttpResponse) :
    payload operation r = match Text.Utf8.decode r.body with
      | .error cause => .error (.notText cause)
      | .ok text =>
        if r.isError then .error (.answered (.ofBody r.status text)) else operation.read text := by
  cases operation with
  | logs container =>
      show (r.text).map _ = _
      rw [HttpResponse.text_eq]
      cases Text.Utf8.decode r.body with
      | error cause => rfl
      | ok text => cases r.isError <;> rfl
  | _ =>
      show r.json = _
      rw [HttpResponse.json, HttpResponse.text_eq]
      cases Text.Utf8.decode r.body with
      | error cause => rfl
      | ok text => cases r.isError <;> rfl

namespace Delivery

variable {d : Delivery} {operation : Operation} {c : CallFault}

theorem exists_outcome_iff : (∃ v, d.outcome operation = .ok v) ↔ d.IsUsable operation := by
  unfold outcome IsUsable
  cases hreply : d.reply with
  | error message => simp
  | ok r =>
      dsimp only
      rw [Transport.payload_eq]
      cases hdecode : Text.Utf8.decode r.body with
      | error cause => simp [hdecode]
      | ok text =>
          cases herror : r.isError with
          | true => simp [herror]
          | false => simpa [herror, hdecode] using Operation.exists_read_iff

/-- A call that fails after its request was handed over has the error of the reply as its fault, or
one that came about on the way. -/
theorem outcome_eq_error (h : d.outcome operation = .error c) :
    (∃ e, d.errorAnswer? = some e ∧ c = .answered e) ∨
      d.errorAnswer? = none ∧ ∀ kind name, ∃ message, c.toFault kind name = .transport message := by
  unfold outcome at h
  unfold errorAnswer?
  cases hreply : d.reply with
  | error message =>
      rw [hreply] at h
      obtain rfl := Except.error.inj h
      exact .inr ⟨rfl, fun _ _ => ⟨_, rfl⟩⟩
  | ok r =>
      rw [hreply] at h
      dsimp only at h ⊢
      rw [Transport.payload_eq] at h
      cases hdecode : Text.Utf8.decode r.body with
      | error cause =>
          rw [hdecode] at h
          obtain rfl := Except.error.inj h
          refine .inr ⟨?_, fun _ _ => ⟨_, rfl⟩⟩
          cases r.isError <;> rfl
      | ok text =>
          rw [hdecode] at h
          dsimp only at h
          cases herror : r.isError with
          | true =>
              rw [herror, if_pos rfl] at h
              exact .inl ⟨_, rfl, (Except.error.inj h).symm⟩
          | false =>
              rw [herror, if_neg Bool.false_ne_true] at h
              obtain rfl := Operation.read_eq_error h
              exact .inr ⟨rfl, fun _ _ => ⟨_, rfl⟩⟩

end Delivery

/-! ### Faults -/

/-- What an error of the control plane is to a caller who asked for an object of this kind and
name: that there is none, or one already, or else the error as it is. -/
structure ErrorAnswer.ToldAs (e : ErrorAnswer) (kind : String) (name : Option String) (f : Fault) :
    Prop where
  notFound : e.code = 404 → f = .notFound kind (name.getD e.message)
  conflict : e.code = 409 → f = .conflict kind (name.getD e.message)
  other : e.code ≠ 404 → e.code ≠ 409 → f = .api e.code e.reason e.message

theorem ErrorAnswer.toldAs_toFault (e : ErrorAnswer) (kind : String) (name : Option String) :
    e.ToldAs kind name (CallFault.toFault kind name (.answered e)) where
  notFound h := by simp [CallFault.toFault, h]
  conflict h := by simp [CallFault.toFault, h]
  other h h' := by simp [CallFault.toFault, h, h']

namespace ErrorAnswer.ToldAs

variable {e : ErrorAnswer} {kind : String} {name : Option String} {f : Fault}

theorem blame (h : e.ToldAs kind name f) : f.blame = .remote := by
  by_cases hmissing : e.code = 404
  · rw [h.notFound hmissing, Fault.blame]
  · by_cases hconflict : e.code = 409
    · rw [h.conflict hconflict, Fault.blame]
    · rw [h.other hmissing hconflict, Fault.blame]

theorem statusCode (h : e.ToldAs kind name f) : f.statusCode = some e.code := by
  by_cases hmissing : e.code = 404
  · rw [h.notFound hmissing, Fault.statusCode, hmissing]
  · by_cases hconflict : e.code = 409
    · rw [h.conflict hconflict, Fault.statusCode, hconflict]
    · rw [h.other hmissing hconflict, Fault.statusCode]

end ErrorAnswer.ToldAs

/-- The fault tells of a reply what there is to tell: that the control plane is to blame, the code
of the error that the reply is, if it is one that can be read, and what that error says. -/
structure Delivery.ToldAs (d : Delivery) (call : ClusterCall) (f : Fault) : Prop where
  blame : f.blame = .remote
  statusCode : f.statusCode = d.errorCode?
  answered : ∀ e, d.errorAnswer? = some e →
    e.ToldAs call.target.kind.kind call.target.name f

namespace Delivery

variable {d : Delivery} {call : ClusterCall}

/-- Either the reply is usable and the call succeeds, or its fault tells of the reply. -/
theorem answer_cases (d : Delivery) (call : ClusterCall) :
    (d.IsUsable call.operation ∧ ∃ v, d.answer call = .ok v) ∨
      ¬ d.IsUsable call.operation ∧ ∃ f, d.answer call = .error f ∧ d.ToldAs call f := by
  rw [← exists_outcome_iff]
  unfold answer
  cases houtcome : d.outcome call.operation with
  | ok v => exact .inl ⟨⟨v, rfl⟩, v, rfl⟩
  | error c =>
      refine .inr ⟨by simp, _, rfl, ?_⟩
      rcases outcome_eq_error houtcome with ⟨e, he, rfl⟩ | ⟨hnone, htransport⟩
      · have htold := e.toldAs_toFault call.target.kind.kind call.target.name
        refine ⟨htold.blame, ?_, fun e' he' => ?_⟩
        · rw [htold.statusCode, ← code_of_errorAnswer?, he, Option.map_some]
        · obtain rfl := Option.some.inj (he.symm.trans he')
          exact htold
      · obtain ⟨message, hmessage⟩ := htransport call.target.kind.kind call.target.name
        dsimp only
        rw [hmessage]
        refine ⟨rfl, ?_, fun e he => ?_⟩
        · rw [← code_of_errorAnswer?, hnone]
          rfl
        · rw [hnone] at he
          cases he

end Delivery

/-! ### Handing over -/

namespace Transport

variable {σ : Type} {call : ClusterCall} {r : HttpRequest}

/-- A call with a request hands it over once and answers by what comes back. -/
theorem perform_of_ok (send : Transport (StateM σ)) (h : call.request = .ok r) (s : σ) :
    perform send call s = (Delivery.answer ⟨r, (send r s).1⟩ call, (send r s).2) := by
  have hexchange : exchange send (.ok r) (payload call.operation) s =
      (Delivery.outcome ⟨r, (send r s).1⟩ call.operation, (send r s).2) := by
    obtain ⟨⟨reply, s'⟩, hsend⟩ : ∃ outcome, send r s = outcome := ⟨_, rfl⟩
    cases reply <;> (simp only [exchange, bind, StateT.bind, hsend]; rfl)
  rw [perform, h]
  simp only [bind, StateT.bind, hexchange]
  rfl

end Transport

end ClusterAccess
