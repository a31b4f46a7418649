import GovSec.PipelineRuns
import GovSec.Lib.Threads

/-!
Approvals and authorizations lock by lock.

An approval enters the three maps of the ledger under three locks. An authorization reads the
index and the record, and then records its decision and issues its token, each under a lock of
its own. Consuming and pruning hold the lock of the store once. The layers before an approval,
and every other call, hold locks of other components; here they are one step.
-/

namespace GovSec.DefenceInDepth

open GovSec.Lib.Text GovSec.Lib.Maps GovSec.Lib.Actions GovSec.Lib.Threads GovSec.Pipeline

/-! ### The steps of a call -/

section Steps

variable (P : Platform)

/-- `inbound` before it records an approval: the result, and the signal of the approval. -/
def decideInbound (env : Supply) (userInput sessionId : Str) :
    StateM Pipeline (EnforcementResult × GovernanceSignal) := do
  let (t, signal) ← inboundTurn P (env.part 0) userInput sessionId
  let (result, _) ← govern P (env.part 1) t (trackHighest signal none)
  pure (result, signal)

/-- `inbound_context` of a verified envelope before it records an approval. -/
def decideContext (env : Supply) (envelope : ModelContextEnvelope) :
    StateM Pipeline (EnforcementResult × GovernanceSignal) := do
  let (t, highest) ← contextTurn P (env.part 0) envelope
  let (result, highest) ← govern P (env.part 1) t highest
  pure (result,
    highest.getD (contextSignal (env.part 2) envelope.sessionId envelope.contextHash))

/-- A request of either kind. -/
inductive Request
  | provider (req : ProviderAuthorizationRequest)
  | action (req : ActionAuthorizationRequest)

namespace Request

def contextHash : Request → Str
  | provider req => req.contextHash
  | action req => req.contextHash

def sessionId : Request → Str
  | provider req => req.sessionId
  | action req => req.sessionId

def runId : Request → Str
  | provider req => req.runId
  | action req => req.runId

end Request

/-- A call on the pipeline, or on its store. -/
inductive Call
  | op (op : Op)
  | pruneExpired (now : Str → DateTime)

/-- Where a call stands. -/
inductive Pc
  | begin (call : Call)
  | insertVerdict (govTxId : Str) (signal : GovernanceSignal) (contextHash runId : Option Str)
      (answer : Answer)
  | insertByTx (record : VerdictRecord) (answer : Answer)
  | insertByContext (record : VerdictRecord) (contextHash : Str) (answer : Answer)
  | readIndex (req : Request)
  | readRecord (req : Request) (verdictId : Str)
  | evaluate (req : ActionAuthorizationRequest) (verdictId : Str)
  | recordDecision (req : DecisionRequest)
  | issue (decisionId : Str)
  | done (answer : Answer)
  /-- The panic of an index entry without its decision. -/
  | indexPanic

namespace Pc

def refused (e : AuthorizationError) : Pc := .done (.authorization (.error e))

/-- What follows the approval behind a request. -/
def granted : Request → Str → Pc
  | .provider req, verdictId => .recordDecision (req.decision verdictId)
  | .action req, verdictId => .evaluate req verdictId

end Pc

/-- The lookup that an authorization starts with. -/
def readIndex (l : VerdictLedger) (req : Request) : Except ApprovalError Str := do
  failIf (isSha256Hex req.contextHash = false) .malformedContextHash
  okOr (l.approvedVerdictIdByContext req.contextHash req.sessionId) .approvedVerdictMissing

/-- The checks of an authorization on the record of the verdict it found. -/
def readRecord (l : VerdictLedger) (req : Request) (verdictId : Str) :
    Except ApprovalError VerdictRecord := do
  let record ← VerdictLedger.foundRecord (l.resolveByContext verdictId req.sessionId)
  failIf (record.finalApproved = false) .verdictNotFinalApproved
  failIf (record.direction ≠ .inbound) .verdictWrongDirection
  failIf (record.contextHash ≠ some req.contextHash) .contextHashMismatch
  failIf (record.runId ≠ some req.runId) .runIdMismatch
  pure record

/-- The first step of a call. -/
def beginStep (p : Pipeline) : Call → Pipeline × Pc
  | .op (.inbound env userInput sessionId govTxId) =>
    let ((r, signal), p) := result (decideInbound P env userInput sessionId) p
    (p, if r.isApproved then .insertVerdict govTxId signal none none (.enforced r)
      else .done (.enforced r))
  | .op (.inboundContext env envelope govTxId) =>
    match envelope.verify P with
    | .error e => (p, .done (.context (.error e)))
    | .ok () =>
      let ((r, signal), p) := result (decideContext P env envelope) p
      (p, if r.isApproved then
          .insertVerdict govTxId signal (some envelope.contextHash) (some envelope.runId)
            (.context (.ok r))
        else .done (.context (.ok r)))
  | .op (.authorizeProviderExecution _ req) => (p, .readIndex (.provider req))
  | .op (.authorizeActionExecution _ req) => (p, .readIndex (.action req))
  | .op op => ((step P p op).2, .done (step P p op).1)
  | .pruneExpired now =>
    let (_, capabilityStore) := p.capabilityStore.pruneExpired now
    ({ p with capabilityStore }, .done .done)

/-- One lock-guarded step; `env` has its draws. -/
def atomicStep : Atomic Pipeline Pc Supply := fun env p pc =>
  match pc with
  | .begin call => beginStep P p call
  | .insertVerdict govTxId signal contextHash runId answer =>
    let record := VerdictLedger.newRecord env govTxId signal contextHash runId
    ({ p with verdictLedger :=
        { p.verdictLedger with
          verdicts := p.verdictLedger.verdicts.insert record.verdictId record } },
      .insertByTx record answer)
  | .insertByTx record answer =>
    ({ p with verdictLedger :=
        { p.verdictLedger with
          approvedByTx := p.verdictLedger.approvedByTx.insert
            (indexKey record.govTxId record.sessionId) record.verdictId } },
      match record.contextHash with
      | some contextHash => .insertByContext record contextHash answer
      | none => .done answer)
  | .insertByContext record contextHash answer =>
    ({ p with verdictLedger :=
        { p.verdictLedger with
          approvedByContext := p.verdictLedger.approvedByContext.insert
            (indexKey contextHash record.sessionId) record.verdictId } },
      .done answer)
  | .readIndex req =>
    (p, match readIndex p.verdictLedger req with
      | .error e => .refused (.approval e)
      | .ok verdictId => .readRecord req verdictId)
  | .readRecord req verdictId =>
    (p, match readRecord p.verdictLedger req verdictId with
      | .error e => .refused (.approval e)
      | .ok _ => .granted req verdictId)
  | .evaluate req verdictId =>
    (p, match ActionEnvelope.seal P req.envelope with
      | .error e => .refused (.envelope e)
      | .ok envelope =>
        match envelope.evaluateStrict P with
        | .error e => .refused (.envelope e)
        | .ok decision =>
          if decision.disposition = .deny then .refused (.denied decision.riskClasses)
          else .recordDecision (req.decision verdictId envelope decision.disposition
            (p.sessionDrs envelope.sessionId)))
  | .recordDecision req =>
    match CapabilityStore.recordDecision env p.capabilityStore req with
    | none => (p, .indexPanic)
    | some (.error e, capabilityStore) => ({ p with capabilityStore }, .refused (.decision e))
    | some (.ok decisionId, capabilityStore) => ({ p with capabilityStore }, .issue decisionId)
  | .issue decisionId =>
    match CapabilityStore.issueAfterAuthorization P env p.capabilityStore decisionId with
    | none => (p, .done .panicked)
    | some (.issued token, capabilityStore) =>
      ({ p with capabilityStore }, .done (.authorization (.ok token)))
    | some (.decisionNotFound, capabilityStore) =>
      ({ p with capabilityStore }, .refused .decisionNotFound)
    | some (.alreadyIssued, capabilityStore) =>
      ({ p with capabilityStore }, .refused .alreadyIssued)
  | .done answer => (p, .done answer)
  | .indexPanic => (p, .indexPanic)

/-- A pipeline with one thread for each call. -/
def calls {ι : Type} (p : Pipeline) (call : ι → Call) : Config Pipeline Pc ι where
  shared := p
  thread i := .begin (call i)

end Steps

/-! ### One call alone -/

section Alone

variable {P : Platform} {p : Pipeline}

/-- What a call that stands there has answered. -/
def Pc.answer : Pc → Option Answer
  | done answer => some answer
  | indexPanic => some .panicked
  | _ => none

/-- The steps of one thread on its own. -/
def alone (P : Platform) (r : Pipeline × Pc) (envs : List Supply) : Pipeline × Pc :=
  envs.foldl (fun r env => atomicStep P env r.1 r.2) r

@[simp] lemma alone_nil (r : Pipeline × Pc) : alone P r [] = r := rfl

lemma alone_cons (r : Pipeline × Pc) (env : Supply) (envs : List Supply) :
    alone P r (env :: envs) = alone P (atomicStep P env r.1 r.2) envs := rfl

@[simp] lemma alone_done (answer : Answer) (envs : List Supply) :
    alone P (p, .done answer) envs = (p, .done answer) := by
  induction envs with
  | nil => rfl
  | cons env envs ih => rw [alone_cons]; exact ih

@[simp] lemma alone_indexPanic (envs : List Supply) :
    alone P (p, .indexPanic) envs = (p, .indexPanic) := by
  induction envs with
  | nil => rfl
  | cons env envs ih => rw [alone_cons]; exact ih

/-- The call has answered as the whole operation does. -/
def AnswersAs (r : Pipeline × Pc) (whole : Answer × Pipeline) : Prop :=
  r.1 = whole.2 ∧ r.2.answer = some whole.1

/-- What follows a decision: its record, if it is an approval. -/
lemma step_inbound_eq (env : Supply) (userInput sessionId govTxId : Str) :
    step P p (.inbound env userInput sessionId govTxId) =
      let d := result (decideInbound P env userInput sessionId) p
      (.enforced d.1.1, if d.1.1.isApproved then
        (result (recordApproval (env.part 2) govTxId d.1.2 none none) d.2).2 else d.2) := by
  have hwhole : inbound P env userInput sessionId govTxId =
      (decideInbound P env userInput sessionId >>= fun d => do
        if d.1.isApproved then
          let _ ← recordApproval (env.part 2) govTxId d.2 none none
          pure d.1
        else pure d.1) := rfl
  simp only [step]
  rw [hwhole, result_bind]
  generalize result (decideInbound P env userInput sessionId) p = d
  cases d.1.1.isApproved
  · rfl
  · rfl

lemma step_inboundContext_eq {envelope : ModelContextEnvelope} (env : Supply) (govTxId : Str)
    (hv : envelope.verify P = .ok ()) :
    step P p (.inboundContext env envelope govTxId) =
      let d := result (decideContext P env envelope) p
      (.context (.ok d.1.1), if d.1.1.isApproved then
        (result (recordApproval (env.part 3) govTxId d.1.2 (some envelope.contextHash)
          (some envelope.runId)) d.2).2 else d.2) := by
  have hwhole : inboundContext P env envelope govTxId =
      (decideContext P env envelope >>= fun d => do
        if d.1.isApproved then
          let _ ← recordApproval (env.part 3) govTxId d.2 (some envelope.contextHash)
            (some envelope.runId)
          pure (.ok d.1)
        else pure (.ok d.1)) := by
    rw [inboundContext, hv]
    rfl
  simp only [step]
  rw [hwhole, result_bind]
  generalize result (decideContext P env envelope) p = d
  cases d.1.1.isApproved
  · rfl
  · rfl

/-- **A plain approval that runs alone is the sequential call.** -/
theorem alone_inbound (env e₁ e₂ : Supply) (userInput sessionId govTxId : Str) :
    AnswersAs (alone P (p, .begin (.op (.inbound env userInput sessionId govTxId)))
      [e₁, env.part 2, e₂]) (step P p (.inbound env userInput sessionId govTxId)) := by
  have hbegin : atomicStep P e₁ p (.begin (.op (.inbound env userInput sessionId govTxId))) =
      let d := result (decideInbound P env userInput sessionId) p
      (d.2, if d.1.1.isApproved then .insertVerdict govTxId d.1.2 none none (.enforced d.1.1)
        else .done (.enforced d.1.1)) := rfl
  rw [alone_cons, hbegin, step_inbound_eq]
  generalize result (decideInbound P env userInput sessionId) p = d
  dsimp only
  split
  · exact ⟨rfl, rfl⟩
  · rw [alone_done]
    exact ⟨rfl, rfl⟩

/-- **The approval of a context that runs alone is the sequential call.** -/
theorem alone_inboundContext (env e₁ e₂ e₃ : Supply) (envelope : ModelContextEnvelope)
    (govTxId : Str) :
    AnswersAs (alone P (p, .begin (.op (.inboundContext env envelope govTxId)))
      [e₁, env.part 3, e₂, e₃]) (step P p (.inboundContext env envelope govTxId)) := by
  cases hv : envelope.verify P with
  | error e =>
    have hbegin : atomicStep P e₁ p (.begin (.op (.inboundContext env envelope govTxId))) =
        (p, .done (.context (.error e))) := by simp only [atomicStep, beginStep, hv]
    rw [alone_cons, hbegin, alone_done]
    simp only [step, inboundContext, hv]
    exact ⟨rfl, rfl⟩
  | ok u =>
    have hbegin : atomicStep P e₁ p (.begin (.op (.inboundContext env envelope govTxId))) =
        let d := result (decideContext P env envelope) p
        (d.2, if d.1.1.isApproved then
            .insertVerdict govTxId d.1.2 (some envelope.contextHash) (some envelope.runId)
              (.context (.ok d.1.1))
          else .done (.context (.ok d.1.1))) := by simp only [atomicStep, beginStep, hv]
    rw [alone_cons, hbegin, step_inboundContext_eq env govTxId hv]
    generalize result (decideContext P env envelope) p = d
    dsimp only
    split
    · exact ⟨rfl, rfl⟩
    · rw [alone_done]
      exact ⟨rfl, rfl⟩

/-- The approval is resolved in two steps. -/
lemma resolveApproval_eq (l : VerdictLedger) (req : Request) :
    l.resolveApproval req.contextHash req.sessionId req.runId = (do
      let verdictId ← readIndex l req
      let record ← readRecord l req verdictId
      pure (verdictId, record)) := by
  simp only [VerdictLedger.resolveApproval, readIndex, readRecord, bind_assoc, pure_bind]

/-- The two steps of minting are the store's. -/
lemma alone_recordDecision (req : DecisionRequest) (env : Supply) :
    AnswersAs (alone P (p, .recordDecision req) [env.part 0, env.part 1])
      ((mint P env p req).map .ofAuthorization id) := by
  have hfirst : atomicStep P (env.part 0) p (.recordDecision req) =
      match CapabilityStore.recordDecision (env.part 0) p.capabilityStore req with
      | none => (p, .indexPanic)
      | some (.error e, capabilityStore) => ({ p with capabilityStore }, .refused (.decision e))
      | some (.ok decisionId, capabilityStore) => ({ p with capabilityStore }, .issue decisionId) :=
    rfl
  rw [alone_cons, hfirst]
  unfold mint CapabilityStore.authorize
  rcases CapabilityStore.recordDecision (env.part 0) p.capabilityStore req with _ | ⟨e | id, s⟩
  · exact ⟨rfl, rfl⟩
  · exact ⟨rfl, rfl⟩
  · have hsecond : atomicStep P (env.part 1) { p with capabilityStore := s } (.issue id) =
        match CapabilityStore.issueAfterAuthorization P (env.part 1) s id with
        | none => ({ p with capabilityStore := s }, .done .panicked)
        | some (.issued token, capabilityStore) =>
          ({ p with capabilityStore }, .done (.authorization (.ok token)))
        | some (.decisionNotFound, capabilityStore) =>
          ({ p with capabilityStore }, .refused .decisionNotFound)
        | some (.alreadyIssued, capabilityStore) =>
          ({ p with capabilityStore }, .refused .alreadyIssued) := rfl
    dsimp only
    rw [alone_cons, hsecond, alone_nil]
    rcases CapabilityStore.issueAfterAuthorization P (env.part 1) s id with _ | ⟨t | _ | _, s'⟩ <;>
      exact ⟨rfl, rfl⟩

lemma alone_refused (e : AuthorizationError) (envs : List Supply) :
    alone P (p, .refused e) envs = (p, .refused e) := alone_done _ _

/-- The two reads find the approval behind a request. -/
lemma alone_readIndex (req : Request) (e₁ e₂ : Supply) (envs : List Supply) :
    alone P (p, .readIndex req) (e₁ :: e₂ :: envs) =
      match p.verdictLedger.resolveApproval req.contextHash req.sessionId req.runId with
      | .error e => (p, .refused (.approval e))
      | .ok (verdictId, _) => alone P (p, .granted req verdictId) envs := by
  rw [resolveApproval_eq, alone_cons]
  simp only [atomicStep]
  cases readIndex p.verdictLedger req with
  | error e => exact alone_refused _ _
  | ok verdictId =>
    rw [alone_cons]
    simp only [atomicStep]
    cases hrecord : readRecord p.verdictLedger req verdictId with
    | error e =>
      have hbind : (do
          let verdictId ← (.ok verdictId : Except ApprovalError Str)
          let record ← readRecord p.verdictLedger req verdictId
          pure (verdictId, record)) = .error e := by
        simp only [bind, Except.bind, hrecord]
      rw [hbind]
      exact alone_refused _ _
    | ok record =>
      have hbind : (do
          let verdictId ← (.ok verdictId : Except ApprovalError Str)
          let record ← readRecord p.verdictLedger req verdictId
          pure (verdictId, record)) = .ok (verdictId, record) := by
        simp only [bind, Except.bind, hrecord, pure, Except.pure]
      rw [hbind]

/-- **A provider authorization that runs alone is the sequential call.** -/
theorem alone_authorizeProviderExecution (env e₁ e₂ e₃ : Supply)
    (req : ProviderAuthorizationRequest) :
    AnswersAs (alone P (p, .begin (.op (.authorizeProviderExecution env req)))
      [e₁, e₂, e₃, env.part 0, env.part 1])
      (step P p (.authorizeProviderExecution env req)) := by
  have hbegin : atomicStep P e₁ p (.begin (.op (.authorizeProviderExecution env req))) =
      (p, .readIndex (.provider req)) := rfl
  rw [alone_cons, hbegin, alone_readIndex]
  simp only [step, authorizeProviderExecution]
  simp only [Request.contextHash, Request.sessionId, Request.runId]
  rcases p.verdictLedger.resolveApproval req.contextHash req.sessionId req.runId with
    e | ⟨verdictId, record⟩
  · exact ⟨rfl, rfl⟩
  · exact alone_recordDecision (req.decision verdictId) env

/-- **An action authorization that runs alone is the sequential call.** -/
theorem alone_authorizeActionExecution (env e₁ e₂ e₃ e₄ : Supply)
    (req : ActionAuthorizationRequest) :
    AnswersAs (alone P (p, .begin (.op (.authorizeActionExecution env req)))
      [e₁, e₂, e₃, e₄, env.part 0, env.part 1])
      (step P p (.authorizeActionExecution env req)) := by
  have hbegin : atomicStep P e₁ p (.begin (.op (.authorizeActionExecution env req))) =
      (p, .readIndex (.action req)) := rfl
  rw [alone_cons, hbegin, alone_readIndex]
  simp only [step, authorizeActionExecution]
  simp only [Request.contextHash, Request.sessionId, Request.runId]
  rcases p.verdictLedger.resolveApproval req.contextHash req.sessionId req.runId with
    e | ⟨verdictId, record⟩
  · exact ⟨rfl, rfl⟩
  · simp only [Pc.granted]
    rw [alone_cons]
    simp only [atomicStep]
    cases ActionEnvelope.seal P req.envelope with
    | error e => rw [alone_refused]; exact ⟨rfl, rfl⟩
    | ok envelope =>
      dsimp only
      cases envelope.evaluateStrict P with
      | error e => rw [alone_refused]; exact ⟨rfl, rfl⟩
      | ok decision =>
        dsimp only
        split
        · rw [alone_refused]; exact ⟨rfl, rfl⟩
        · exact alone_recordDecision _ env

end Alone

end GovSec.DefenceInDepth
