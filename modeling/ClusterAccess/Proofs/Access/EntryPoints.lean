import ClusterAccess.Proofs.Client.LeastRecent
import ClusterAccess.Proofs.Request.Stage

/-!
The four ways to ask the gate. All of them come down to one question, which goes to the reviewer
only where authentication is on and somebody asks, and then once. What the gate says depends on
nothing but what the reviewer says now, so whoever asks it twice has the reviewer asked twice.
-/

namespace ClusterAccess

variable {σ : Type}

/-- What a reviewer is asked: by whom something is to be done, and what. -/
abbrev ReviewQuestion := Identity × AccessCheck

namespace Reviewer

/-- Notes every question that comes to the reviewer, in their order. -/
def recording (review : Reviewer (StateM σ)) : Reviewer (StateM (List ReviewQuestion × σ)) :=
  fun id check (asked, s) =>
    ((review id check s).1, (asked ++ [(id, check)], (review id check s).2))

def after (review : Reviewer (StateM σ)) (s : σ) (asked : List ReviewQuestion) : σ :=
  asked.foldl (fun s question => (review question.1 question.2 s).2) s

theorem after_append (review : Reviewer (StateM σ)) (s : σ) (front back : List ReviewQuestion) :
    review.after s (front ++ back) = review.after (review.after s front) back :=
  List.foldl_append

end Reviewer

inductive EntryPoint where
  | canI
  | decide
  | authorize
  | authorizeIfStrict
  deriving DecidableEq

/-- One use of a gate. -/
structure GateUse where
  entry : EntryPoint
  asker : Identity
  check : AccessCheck

def GateUse.question (u : GateUse) : ReviewQuestion := (u.asker, u.check)

inductive GateAnswer where
  | judgement (answer : Except Fault Bool)
  | decision (d : Decision)
  | passage (result : Except Fault Unit)

namespace AuthorizationGate

def use {m : Type → Type} [Monad m] (gate : AuthorizationGate) (review : Reviewer m)
    (u : GateUse) : m GateAnswer :=
  match u.entry with
  | .canI => .judgement <$> gate.canI review u.asker u.check
  | .decide => .decision <$> gate.decide review u.asker u.check
  | .authorize => .passage <$> gate.authorize review u.asker u.check
  | .authorizeIfStrict => .passage <$> gate.authorizeIfStrict review u.asker u.check

def consults (gate : AuthorizationGate) (u : GateUse) : Bool :=
  !gate.authDisabled && u.asker ≠ .ambient &&
    !(u.entry = .authorizeIfStrict && gate.mode = .selective)

def asked (gate : AuthorizationGate) (uses : List GateUse) : List ReviewQuestion :=
  (uses.filter gate.consults).map GateUse.question

end AuthorizationGate

/-- Only an allowance lets pass. All else is forbidden, with the caller and what was asked. -/
structure GateUse.Passes (u : GateUse) (judged : Except Fault Bool) (result : Except Fault Unit) :
    Prop where
  allowed : result = .ok () ↔ judged = .ok true
  forbidden : judged ≠ .ok true → ∃ reason, result =
    .error (.forbidden u.asker.display u.check.verb u.check.resourceLabel u.check.ns reason)

/-- The answer to a use is what is judged, unless the gate lets ordinary uses through unasked. -/
def GateUse.Answers (u : GateUse) (mode : GateMode) (judged : Except Fault Bool)
    (answer : GateAnswer) : Prop :=
  match u.entry with
  | .canI => answer = .judgement judged
  | .decide => ∃ d, answer = .decision d ∧ (d = .allow ↔ judged = .ok true) ∧
      (judged ≠ .ok true → ∃ reason, d = .deny reason)
  | .authorize => ∃ result, answer = .passage result ∧ u.Passes judged result
  | .authorizeIfStrict => ∃ result, answer = .passage result ∧
      (mode = .strict → u.Passes judged result) ∧ (mode = .selective → result = .ok ())

/-! ### One use -/

namespace AuthorizationGate

def decisionOn (gate : AuthorizationGate) (id : Identity) (judged : Except Fault Bool) : Decision :=
  if !gate.authDisabled && id.isAmbient then .deny Decision.noIdentity else .ofReview judged

/-- The answer to a use for which the gate judges. -/
def answerOn (gate : AuthorizationGate) (u : GateUse) (judged : Except Fault Bool) : GateAnswer :=
  match u.entry with
  | .canI => .judgement judged
  | .decide => .decision (gate.decisionOn u.asker judged)
  | .authorize | .authorizeIfStrict =>
    .passage ((gate.decisionOn u.asker judged).toResult u.asker u.check)

variable {gate : AuthorizationGate} {review : Reviewer (StateM σ)} {id : Identity}
  {check : AccessCheck} {s : σ}

theorem canI_run : gate.canI review id check s =
    if gate.authDisabled then (.ok true, s)
    else if id = .ambient then (.error (.unauthenticated Decision.noIdentity), s)
    else review id check s := by
  unfold canI
  split
  next => rfl
  next =>
    by_cases hid : id = .ambient
    · rw [if_pos (Identity.isAmbient_iff.mpr hid), if_pos hid]
      rfl
    · rw [if_neg (mt Identity.isAmbient_iff.mp hid), if_neg hid]

theorem decide_run : gate.decide review id check s =
    (gate.decisionOn id (gate.canI review id check s).1, (gate.canI review id check s).2) := by
  unfold decide decisionOn
  split
  next hnobody =>
    simp only [Bool.and_eq_true, Bool.not_eq_true', Identity.isAmbient_iff] at hnobody
    have hstate : (gate.canI review id check s).2 = s := by simp [canI_run, hnobody]
    rw [hstate]
    rfl
  next => rfl

theorem authorize_run : gate.authorize review id check s =
    ((gate.decisionOn id (gate.canI review id check s).1).toResult id check,
      (gate.canI review id check s).2) := by
  show (Decision.toResult id check (gate.decide review id check s).1,
    (gate.decide review id check s).2) = _
  rw [decide_run]

/-- Every use is judged as if it were asked directly, but for those that are let through unasked. -/
theorem use_run (u : GateUse) : gate.use review u s =
    if u.entry = .authorizeIfStrict ∧ gate.mode = .selective then (.passage (.ok ()), s)
    else (gate.answerOn u (gate.canI review u.asker u.check s).1,
      (gate.canI review u.asker u.check s).2) := by
  obtain ⟨entry, asker, check⟩ := u
  cases entry with
  | canI => rfl
  | decide =>
      show (GateAnswer.decision (gate.decide review asker check s).1,
        (gate.decide review asker check s).2) = _
      rw [decide_run]
      rfl
  | authorize =>
      show (GateAnswer.passage (gate.authorize review asker check s).1,
        (gate.authorize review asker check s).2) = _
      rw [authorize_run]
      rfl
  | authorizeIfStrict =>
      simp only [use, authorizeIfStrict]
      cases gate.mode with
      | selective => rfl
      | strict =>
          show (GateAnswer.passage (gate.authorize review asker check s).1,
            (gate.authorize review asker check s).2) = _
          rw [authorize_run]
          rfl

theorem decisionOn_eq_allow {judged : Except Fault Bool}
    (hjudged : judged = (gate.canI review id check s).1) :
    gate.decisionOn id judged = .allow ↔ judged = .ok true := by
  unfold decisionOn
  split
  next hnobody =>
    simp only [Bool.and_eq_true, Bool.not_eq_true', Identity.isAmbient_iff] at hnobody
    simp [hjudged, canI_run, hnobody]
  next => rcases judged with f | _ | _ <;> simp [Decision.ofReview]

theorem exists_deny {judged : Except Fault Bool}
    (hjudged : judged = (gate.canI review id check s).1) (hne : judged ≠ .ok true) :
    ∃ reason, gate.decisionOn id judged = .deny reason := by
  cases hd : gate.decisionOn id judged with
  | allow => exact absurd ((decisionOn_eq_allow hjudged).mp hd) hne
  | deny reason => exact ⟨reason, rfl⟩

theorem passes_authorize (u : GateUse) : u.Passes (gate.canI review u.asker u.check s).1
    (gate.authorize review u.asker u.check s).1 := by
  rw [authorize_run]
  refine ⟨?_, fun hne => ?_⟩
  · rw [← decisionOn_eq_allow rfl]
    cases gate.decisionOn u.asker (gate.canI review u.asker u.check s).1 <;>
      simp [Decision.toResult]
  · obtain ⟨reason, hreason⟩ := exists_deny rfl hne
    exact ⟨reason, by rw [hreason]; rfl⟩

/-- Whichever way the gate is asked, its answer is what it would answer directly. -/
theorem answers_use (u : GateUse) :
    u.Answers gate.mode (gate.canI review u.asker u.check s).1 (gate.use review u s).1 := by
  have hpasses : u.Passes (gate.canI review u.asker u.check s).1
      (gate.authorize review u.asker u.check s).1 := passes_authorize u
  rw [authorize_run] at hpasses
  rw [use_run]
  unfold GateUse.Answers answerOn
  cases u.entry with
  | canI => simp
  | decide => exact ⟨_, by simp, decisionOn_eq_allow rfl, exists_deny rfl⟩
  | authorize => exact ⟨_, by simp, hpasses⟩
  | authorizeIfStrict =>
      cases gate.mode with
      | selective => exact ⟨_, rfl, by simp, fun _ => rfl⟩
      | strict => exact ⟨_, rfl, fun _ => hpasses, by simp⟩

/-! ### One use after the other -/

theorem asked_cons (u : GateUse) (uses : List GateUse) :
    gate.asked (u :: uses) = gate.asked [u] ++ gate.asked uses := by
  simp only [asked, List.filter_cons, List.filter_nil]
  split <;> rfl

/-- A use puts at most its own question, and only so it leaves something behind. -/
theorem use_recording (u : GateUse) (asked : List ReviewQuestion) :
    gate.use review.recording u (asked, s) =
      ((gate.use review u s).1, (asked ++ gate.asked [u], review.after s (gate.asked [u]))) := by
  rw [use_run, use_run, canI_run, canI_run]
  simp only [AuthorizationGate.asked, consults, List.filter_cons, List.filter_nil]
  split
  next hskips => simp [hskips, Reviewer.after]
  next hskips =>
    have hjudges : (u.entry = .authorizeIfStrict && gate.mode = .selective) = false := by
      simpa using hskips
    split
    next hdisabled => simp [hdisabled, Reviewer.after]
    next hdisabled =>
      split
      next hid => simp [hid, Reviewer.after]
      next hid =>
        simp [hid, hdisabled, hjudges, Reviewer.after, Reviewer.recording, GateUse.question]

theorem uses_recording (uses : List GateUse) (asked : List ReviewQuestion) :
    (uses.mapM (gate.use review.recording) (asked, s)).2 =
      (asked ++ gate.asked uses, review.after s (gate.asked uses)) := by
  induction uses generalizing asked s with
  | nil => simp [AuthorizationGate.asked, Reviewer.after]; rfl
  | cons u uses ih =>
      rw [mapM_cons_run, use_recording, ih, asked_cons u uses, List.append_assoc,
        Reviewer.after_append]

/-- Each use is answered as one that stands alone after the questions of those before it. -/
theorem answer_at (before : List GateUse) (u : GateUse) (later : List GateUse)
    (asked : List ReviewQuestion) :
    ((before ++ u :: later).mapM (gate.use review.recording) (asked, s)).1[before.length]? =
      some (gate.use review u (review.after s (gate.asked before))).1 := by
  induction before generalizing asked s with
  | nil =>
      rw [List.nil_append, mapM_cons_run, use_recording]
      rfl
  | cons first before ih =>
      rw [List.cons_append, mapM_cons_run, use_recording, List.length_cons,
        List.getElem?_cons_succ, ih, asked_cons first before, Reviewer.after_append]

/-- However the gate is asked one time after the other, the reviewer is asked once for each use with
authentication on, an asker and no exemption, in this order, and no more. Each use is answered by
what the gate would answer directly at this point, and that is the reviewer's own answer where the
reviewer is asked. -/
theorem gate_keeps_no_memory (gate : AuthorizationGate) (review : Reviewer (StateM σ)) (s : σ)
    (uses : List GateUse) :
    let run := uses.mapM (gate.use review.recording) ([], s)
    run.2 = (gate.asked uses, review.after s (gate.asked uses)) ∧
    ∀ before u later, uses = before ++ u :: later →
      let now := review.after s (gate.asked before)
      let judged := (gate.canI review u.asker u.check now).1
      (∃ answer, run.1[before.length]? = some answer ∧ u.Answers gate.mode judged answer) ∧
      (gate.authDisabled = true → judged = .ok true) ∧
      (gate.authDisabled = false → u.asker = .ambient →
        judged = .error (.unauthenticated Decision.noIdentity)) ∧
      (gate.authDisabled = false → u.asker ≠ .ambient →
        judged = (review u.asker u.check now).1) := by
  refine ⟨uses_recording uses [], ?_⟩
  rintro before u later rfl
  refine ⟨⟨_, answer_at before u later [], answers_use u⟩, ?_, ?_, ?_⟩
  · intro hdisabled
    simp [canI_run, hdisabled]
  · intro hdisabled hid
    simp [canI_run, hdisabled, hid]
  · intro hdisabled hid
    simp [canI_run, hdisabled, hid]

def fickleReviewer : Reviewer (StateM Nat) := fun _ _ n =>
  (match n with | 0 => .ok true | 1 => .ok false | _ => .error .cancelled, n + 1)

/-- One caller asks the same three times, once past the gate and once without a name between them.
The reviewer is asked three times, and the caller is allowed, denied and told of the failure. -/
theorem fickle_reviewer_is_asked_again :
    let alice : Identity := ⟨"alice"⟩
    let check : AccessCheck := .ofKind "list" .namespaces none
    let uses : List GateUse := [⟨.decide, alice, check⟩, ⟨.authorizeIfStrict, alice, check⟩,
      ⟨.authorize, alice, check⟩, ⟨.decide, .ambient, check⟩, ⟨.canI, alice, check⟩]
    let run := uses.mapM (use ⟨.selective, false⟩ fickleReviewer.recording) ([], 0)
    run.2 = ([(alice, check), (alice, check), (alice, check)], 3) ∧
      run.1[0]? = some (.decision .allow) ∧
      (∃ f, run.1[2]? = some (.passage (.error f))) ∧
      run.1[4]? = some (.judgement (.error .cancelled)) := by
  intro alice check uses run
  obtain ⟨hasked, hanswers⟩ := gate_keeps_no_memory ⟨.selective, false⟩ fickleReviewer 0 uses
  obtain ⟨⟨first, hfirst, d, rfl, hallow, -⟩, -, -, hallowed⟩ := hanswers [] _ _ rfl
  obtain ⟨⟨third, hthird, result, rfl, hpasses⟩, -, -, hdenied⟩ :=
    hanswers [⟨.decide, alice, check⟩, ⟨.authorizeIfStrict, alice, check⟩] _ _ rfl
  obtain ⟨⟨last, hlast, rfl⟩, -, -, hfailed⟩ :=
    hanswers [⟨.decide, alice, check⟩, ⟨.authorizeIfStrict, alice, check⟩,
      ⟨.authorize, alice, check⟩, ⟨.decide, .ambient, check⟩] _ _ rfl
  refine ⟨hasked, ?_, ?_, ?_⟩
  · rw [hallow.mpr (hallowed rfl (by decide))] at hfirst
    exact hfirst
  · have hdenied : _ = Except.ok false := hdenied rfl (by decide)
    obtain ⟨reason, rfl⟩ := hpasses.forbidden (by simp [hdenied])
    exact ⟨_, hthird⟩
  · rw [hfailed rfl (by decide)] at hlast
    exact hlast

end AuthorizationGate

end ClusterAccess
