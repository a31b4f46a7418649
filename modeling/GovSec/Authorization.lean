import GovSec.Pipeline
import GovSec.ActionEnvelope

/-!
From an approved context to a capability: the approval is looked up in the verdict ledger, an
action is sealed and classified, and the store mints the token.

Each step has a predicate on the state before it that says exactly when it lets a request
through.
-/

namespace GovSec

open GovSec.Lib.Text GovSec.Lib.Maps

/-! ### Requests and errors -/

structure ProviderAuthorizationRequest where
  govTxId : Str
  sessionId : Str
  principalFingerprint : Str
  backend : Str
  model : Str
  actionClass : Str
  policyHash : Str
  authorizationBasis : Str
  agency : Str
  drs : ℕ
  contextHash : Str
  runId : Str
  policyVersion : Str

structure ActionAuthorizationRequest where
  govTxId : Str
  sessionId : Str
  runId : Str
  principalFingerprint : Str
  toolName : Str
  arguments : Value
  resourceKind : Str
  resourceLocator : Str
  toolCallId : Str
  contextHash : Str
  policyVersion : Str
  policyHash : Str

/-- Why no approved context stands behind a request. -/
inductive ApprovalError
  | malformedContextHash
  | approvedVerdictMissing
  | verdictNotFound
  | verdictSessionMismatch
  | verdictNotFinalApproved
  | verdictWrongDirection
  | contextHashMismatch
  | runIdMismatch
  deriving DecidableEq

/-- The errors of both authorizations; only an action fails at its envelope or is denied. -/
inductive AuthorizationError
  | approval (e : ApprovalError)
  | envelope (e : EnvelopeError)
  | denied (risks : List ActionRiskClass)
  | decision (e : CapabilityError)
  | decisionNotFound
  | alreadyIssued
  deriving DecidableEq

/-! ### The approval behind a context -/

namespace VerdictLedger

def foundRecord : ContextResolveOutcome × Option VerdictRecord → Except ApprovalError VerdictRecord
  | (.found, some record) => .ok record
  | (.found, none) => .error .verdictNotFound
  | (.notFound, _) => .error .verdictNotFound
  | (.sessionMismatch, _) => .error .verdictSessionMismatch

/-- The checks that every use of an approved context starts with: the verdict id and the
record of the approval. -/
def resolveApproval (l : VerdictLedger) (contextHash sessionId runId : Str) :
    Except ApprovalError (Str × VerdictRecord) := do
  failIf (isSha256Hex contextHash = false) .malformedContextHash
  let verdictId ← okOr (l.approvedVerdictIdByContext contextHash sessionId)
    .approvedVerdictMissing
  let record ← foundRecord (l.resolveByContext verdictId sessionId)
  failIf (record.finalApproved = false) .verdictNotFinalApproved
  failIf (record.direction ≠ .inbound) .verdictWrongDirection
  failIf (record.contextHash ≠ some contextHash) .contextHashMismatch
  failIf (record.runId ≠ some runId) .runIdMismatch
  pure (verdictId, record)

/-- The ledger approves a context for a run of a session, by a verdict and its record. -/
structure Approves (l : VerdictLedger) (contextHash sessionId runId verdictId : Str)
    (record : VerdictRecord) : Prop where
  wellFormed : isSha256Hex contextHash = true
  index : l.approvedVerdictIdByContext contextHash sessionId = some verdictId
  stored : l.verdicts.lookup verdictId = some record
  session : record.sessionId = sessionId
  approved : record.finalApproved = true
  direction : record.direction = .inbound
  context : record.contextHash = some contextHash
  run : record.runId = some runId

variable {l : VerdictLedger} {contextHash sessionId runId verdictId : Str} {record : VerdictRecord}

lemma foundRecord_eq_ok :
    foundRecord (l.resolveByContext verdictId sessionId) = .ok record ↔
      l.verdicts.lookup verdictId = some record ∧ record.sessionId = sessionId := by
  unfold resolveByContext
  cases l.verdicts.lookup verdictId with
  | none => simp [foundRecord]
  | some r =>
    simp only [Option.some.injEq]
    split
    · next hs =>
      simp only [foundRecord, reduceCtorEq, false_iff, not_and]
      rintro rfl
      exact hs
    · next hs =>
      simp only [foundRecord, Except.ok.injEq, iff_self_and]
      rintro rfl
      exact not_not.mp hs

/-- **The checks pass exactly on an approved context.** -/
theorem resolveApproval_eq_ok :
    l.resolveApproval contextHash sessionId runId = .ok (verdictId, record) ↔
      Approves l contextHash sessionId runId verdictId record := by
  constructor
  · intro h
    simp only [resolveApproval, bind_eq_ok, failIf_eq_ok, pure_eq_ok, Prod.mk.injEq] at h
    obtain ⟨_, hwf, id, hid, r, hr, _, hfinal, _, hdir, _, hctx, _, hrun, rfl, rfl⟩ := h
    obtain ⟨hstored, hsession⟩ := foundRecord_eq_ok.mp hr
    exact ⟨by simpa using hwf, okOr_eq_ok.mp hid, hstored, hsession, by simpa using hfinal,
      not_not.mp hdir, not_not.mp hctx, not_not.mp hrun⟩
  · intro h
    simp only [resolveApproval, bind_eq_ok, failIf_eq_ok, pure_eq_ok]
    exact ⟨(), by simp [h.wellFormed], verdictId, okOr_eq_ok.mpr h.index, record,
      foundRecord_eq_ok.mpr ⟨h.stored, h.session⟩, (), by simp [h.approved], (),
      not_not.mpr h.direction, (), not_not.mpr h.context, (), not_not.mpr h.run, rfl⟩

end VerdictLedger

/-! ### Minting -/

/-- A provider's scope names no tool, the scope of an action names one. -/
def CapabilityScope.Shaped (s : CapabilityScope) : Prop :=
  (s.authority = authorityProviderExecute ∧ s.toolName = []) ∨
    (s.authority = authorityActionExecute ∧ s.toolName ≠ [])

lemma CapabilityScope.Shaped.authority_eq {s s' : CapabilityScope} (h : s.Shaped) (h' : s'.Shaped)
    (htool : s.toolName = s'.toolName) : s.authority = s'.authority := by
  rcases h with ⟨ha, ht⟩ | ⟨ha, ht⟩ <;> rcases h' with ⟨ha', ht'⟩ | ⟨ha', ht'⟩
  · rw [ha, ha']
  · exact absurd (htool.symm.trans ht) ht'
  · exact absurd (htool.trans ht') ht
  · rw [ha, ha']

namespace CapabilityStore

variable (P : Platform) (env : Supply)

/-- Record the decision and issue its token. `none` is a panic, after which the decision may
stay recorded. -/
def authorize (s : CapabilityStore) (req : DecisionRequest) :
    Option (Except AuthorizationError CapabilityToken) × CapabilityStore :=
  match recordDecision (env.part 0) s req with
  | none => (none, s)
  | some (.error e, s) => (some (.error (.decision e)), s)
  | some (.ok decisionId, s) =>
    match issueAfterAuthorization P (env.part 1) s decisionId with
    | none => (none, s)
    | some (.issued token, s) => (some (.ok token), s)
    | some (.decisionNotFound, s) => (some (.error .decisionNotFound), s)
    | some (.alreadyIssued, s) => (some (.error .alreadyIssued), s)

/-- The request is valid, and a decision already made for its transaction has its scope and no
token yet. -/
def Admits (s : CapabilityStore) (req : DecisionRequest) : Prop :=
  req.validate = .ok () ∧ ∀ id d,
    s.decisionByTx.lookup (txKey req.govTxId req.authority) = some id →
    s.decisions.lookup id = some d → req.sameScope d = true ∧ d.issued = false

variable {P env} {s : CapabilityStore} {req : DecisionRequest}

lemma recordDecision_of_invalid {e : CapabilityError} (hv : req.validate = .error e) :
    recordDecision env s req = some (.error e, s) := by
  unfold recordDecision; rw [hv]

lemma recordDecision_of_lookup (hv : req.validate = .ok ()) {id : Str}
    (hk : s.decisionByTx.lookup (txKey req.govTxId req.authority) = some id) :
    recordDecision env s req = (s.decisions.lookup id).map fun d =>
      (if req.sameScope d then .ok id else .error .transactionScopeConflict, s) := by
  unfold recordDecision
  rw [hv]
  dsimp only
  rw [hk]
  dsimp only
  split
  · next hd => rw [hd, Option.map_none]
  · next d hd =>
    rw [hd, Option.map_some]
    split <;> rfl

lemma recordDecision_of_new (hv : req.validate = .ok ())
    (hk : s.decisionByTx.lookup (txKey req.govTxId req.authority) = none) :
    recordDecision env s req = some (.ok (newDecision env req).decisionId,
      { s with
        decisions := s.decisions.insert (newDecision env req).decisionId (newDecision env req)
        decisionByTx := s.decisionByTx.insert (txKey req.govTxId req.authority)
          (newDecision env req).decisionId }) := by
  unfold recordDecision
  rw [hv]
  dsimp only
  rw [hk]

variable (P env) in
/-- Of a stored decision without a token, the store issues one or panics. -/
lemma issueAfterAuthorization_of_lookup {id : Str} {d : Decision}
    (hd : s.decisions.lookup id = some d) :
    (d.issued = true → issueAfterAuthorization P env s id = some (.alreadyIssued, s)) ∧
    (d.issued = false → issueAfterAuthorization P env s id = none ∨
      ∃ t s', issueAfterAuthorization P env s id = some (.issued t, s')) := by
  unfold issueAfterAuthorization
  rw [hd]
  dsimp only
  constructor
  · exact fun h => if_pos h
  · intro h
    rw [h, if_neg Bool.false_ne_true]
    split
    · exact .inl rfl
    · exact .inr ⟨_, _, rfl⟩

/-- **An admitted request is not refused**, and every other one is. -/
theorem authorize_error_iff :
    (∃ e, (authorize P env s req).1 = some (.error e)) ↔ ¬ Admits s req := by
  unfold authorize
  cases hv : req.validate with
  | error e => simp [recordDecision_of_invalid hv, Admits, hv]
  | ok u =>
    cases hk : s.decisionByTx.lookup (txKey req.govTxId req.authority) with
    | none =>
      have hadm : Admits s req := ⟨hv, fun id d hid => by simp [hk] at hid⟩
      rw [recordDecision_of_new hv hk]
      dsimp only
      have hissue := issueAfterAuthorization_of_lookup P (env.part 1)
        (s := { s with
          decisions := s.decisions.insert (newDecision (env.part 0) req).decisionId
            (newDecision (env.part 0) req)
          decisionByTx := s.decisionByTx.insert (txKey req.govTxId req.authority)
            (newDecision (env.part 0) req).decisionId }) (Finmap.lookup_insert _)
      rcases hissue.2 rfl with h | ⟨t, s', h⟩ <;> simp [h, hadm]
    | some id =>
      rw [recordDecision_of_lookup hv hk]
      cases hd : s.decisions.lookup id with
      | none =>
        have hadm : Admits s req := ⟨hv, fun id' d hid hd' => by
          obtain rfl : id = id' := Option.some.inj (hk.symm.trans hid)
          simp [hd] at hd'⟩
        simp [hadm]
      | some d =>
        have hadm : Admits s req ↔ req.sameScope d = true ∧ d.issued = false := by
          refine ⟨fun h => h.2 id d hk hd, fun h => ⟨hv, fun id' d' hid hd' => ?_⟩⟩
          obtain rfl : id = id' := Option.some.inj (hk.symm.trans hid)
          obtain rfl : d = d' := Option.some.inj (hd.symm.trans hd')
          exact h
        rw [hadm]
        dsimp only [Option.map_some]
        have hissue := issueAfterAuthorization_of_lookup P (env.part 1) hd
        cases hs : req.sameScope d with
        | false => simp
        | true =>
          cases hi : d.issued with
          | true => simp [hissue.1 hi]
          | false => rcases hissue.2 hi with h | ⟨t, s', h⟩ <;> simp [h]

/-- An authorization stops before its decision, after it, or with a token. -/
lemma authorize_cases (P : Platform) (env : Supply) (s : CapabilityStore) (req : DecisionRequest) :
    ((∀ t, (authorize P env s req).1 ≠ some (.ok t)) ∧ (authorize P env s req).2 = s) ∨
    ∃ id s₁, recordDecision (env.part 0) s req = some (.ok id, s₁) ∧
      (((∀ t, (authorize P env s req).1 ≠ some (.ok t)) ∧ (authorize P env s req).2 = s₁) ∨
      ∃ t s₂, issueAfterAuthorization P (env.part 1) s₁ id = some (.issued t, s₂) ∧
        authorize P env s req = (some (.ok t), s₂)) := by
  unfold authorize
  rcases hr : recordDecision (env.part 0) s req with _ | ⟨e | id, s₁⟩
  · exact .inl ⟨by simp, rfl⟩
  · rcases recordDecision_cases hr with ⟨_, -, rfl⟩ | ⟨_, _, h, -⟩ | ⟨-, -, h, -⟩
    · exact .inl ⟨by simp, rfl⟩
    · cases h
    · cases h
  · refine .inr ⟨id, s₁, rfl, ?_⟩
    dsimp only
    rcases hi : issueAfterAuthorization P (env.part 1) s₁ id with _ | ⟨t | _ | _, s₂⟩
    · exact .inl ⟨by simp, rfl⟩
    · exact .inr ⟨t, s₂, rfl, rfl⟩
    all_goals
      rcases issueAfterAuthorization_cases hi with ⟨rfl, -⟩ | ⟨_, _, -, -, h, -⟩
      · exact .inl ⟨by simp, rfl⟩
      · cases h

/-- The scope of every decision is that of an old one or of the request. -/
lemma recordDecision_decisions {r : Except CapabilityError Str} {s' : CapabilityStore}
    (h : recordDecision env s req = some (r, s')) {id : Str} {d : Decision}
    (hd : s'.decisions.lookup id = some d) :
    s.decisions.lookup id = some d ∨
      (req.validate = .ok () ∧ d.toCapabilityScope = req.toCapabilityScope) := by
  rcases recordDecision_cases h with ⟨_, -, rfl⟩ | ⟨_, _, -, rfl, -⟩ | ⟨hv, -, -, rfl⟩
  · exact .inl hd
  · exact .inl hd
  · rw [lookup_insert_eq_ite] at hd
    split at hd
    · exact .inr ⟨hv, Option.some.inj hd ▸ rfl⟩
    · exact .inl hd

lemma authorize_decisions {id : Str} {d : Decision}
    (hd : (authorize P env s req).2.decisions.lookup id = some d) :
    (∃ d₀, s.decisions.lookup id = some d₀ ∧ d.toCapabilityScope = d₀.toCapabilityScope) ∨
      (req.validate = .ok () ∧ d.toCapabilityScope = req.toCapabilityScope) := by
  rcases authorize_cases P env s req with ⟨-, heq⟩ | ⟨id', s₁, hr, ⟨-, heq⟩ | ⟨t, s₂, hi, heq⟩⟩
  · exact .inl ⟨d, heq ▸ hd, rfl⟩
  · exact (recordDecision_decisions hr (heq ▸ hd)).imp_left fun h => ⟨d, h, rfl⟩
  · rw [heq] at hd
    rcases issueAfterAuthorization_cases hi with ⟨-, h | h⟩ | ⟨_, _, -, -, -, rfl⟩
    · cases h
    · cases h
    · rw [lookup_modifyAt] at hd
      split at hd
      · next hid =>
        obtain ⟨d₁, hd₁, rfl⟩ := Option.map_eq_some_iff.mp hd
        exact (recordDecision_decisions hr (hid ▸ hd₁)).imp_left fun h => ⟨d₁, h, rfl⟩
      · exact (recordDecision_decisions hr hd).imp_left fun h => ⟨d, h, rfl⟩

/-- A stored token is an old one or the one just answered. -/
lemma authorize_capabilities {tid : Str} {t : CapabilityToken}
    (ht : (authorize P env s req).2.capabilities.lookup tid = some t) :
    s.capabilities.lookup tid = some t ∨
      (authorize P env s req).1 = some (.ok t) ∧ t.tokenId = tid := by
  have hrec {r : Except CapabilityError Str} {s₁ : CapabilityStore}
      (hr : recordDecision (env.part 0) s req = some (r, s₁)) :
      s₁.capabilities = s.capabilities := by
    rcases recordDecision_cases hr with ⟨_, -, rfl⟩ | ⟨_, _, -, rfl, -⟩ | ⟨-, -, -, rfl⟩ <;> rfl
  rcases authorize_cases P env s req with ⟨-, heq⟩ | ⟨id', s₁, hr, ⟨-, heq⟩ | ⟨t', s₂, hi, heq⟩⟩
  · exact .inl (heq ▸ ht)
  · rw [heq, hrec hr] at ht
    exact .inl ht
  · rw [heq] at ht ⊢
    rcases issueAfterAuthorization_cases hi with ⟨-, h | h⟩ | ⟨_, _, -, -, h, rfl⟩
    · cases h
    · cases h
    · obtain rfl := IssueOutcome.issued.inj h
      rw [lookup_insert_eq_ite] at ht
      split at ht
      · next htid =>
        obtain rfl := Option.some.inj ht
        exact .inr ⟨rfl, htid.symm⟩
      · exact .inl (hrec hr ▸ ht)

/-- **The scope of an answered token** is that of the request, or of an old decision that an
identical request made. -/
theorem authorize_ok {t : CapabilityToken} (hok : (authorize P env s req).1 = some (.ok t)) :
    req.validate = .ok () ∧ (t.toCapabilityScope = req.toCapabilityScope ∨
      ∃ id d, s.decisions.lookup id = some d ∧ req.sameScope d = true ∧
        t.toCapabilityScope = d.toCapabilityScope) := by
  rcases authorize_cases P env s req with ⟨hno, -⟩ | ⟨id, s₁, hr, ⟨hno, -⟩ | ⟨t', s₂, hi, heq⟩⟩
  · exact absurd hok (hno t)
  · exact absurd hok (hno t)
  · obtain rfl : t' = t := by simpa [heq] using hok
    rcases issueAfterAuthorization_cases hi with ⟨-, h | h⟩ | ⟨d, _, hd, -, ht, -⟩
    · cases h
    · cases h
    · obtain rfl := IssueOutcome.issued.inj ht
      rcases recordDecision_cases hr with ⟨_, h, -⟩ | ⟨id', d', h, rfl, hv, -, hd', hs⟩ |
        ⟨hv, -, h, rfl⟩
      · cases h
      · obtain rfl : id = id' := Except.ok.inj h
        exact ⟨hv, .inr ⟨id, d', hd', hs, by rw [hd'] at hd; cases hd; rfl⟩⟩
      · obtain rfl := Except.ok.inj h
        rw [Finmap.lookup_insert] at hd
        exact ⟨hv, .inl (by cases hd; rfl)⟩

/-- A token is for the execution that a request asks for. -/
structure Serves (t : CapabilityToken) (req : DecisionRequest) : Prop where
  authority : t.authority = req.authority
  session : t.sessionId = req.sessionId
  run : t.runId = req.runId
  contextHash : t.contextHash = req.contextHash
  backend : t.backend = req.backend
  model : t.model = req.model

/-- A retry compares no authority; the shapes of the scopes tell it all the same. -/
lemma authorize_serves {t : CapabilityToken} (hok : (authorize P env s req).1 = some (.ok t))
    (hreq : req.Shaped) (hs : ∀ id d, s.decisions.lookup id = some d → d.Shaped) :
    Serves t req := by
  rcases (authorize_ok hok).2 with heq | ⟨id, d, hd, hsame, heq⟩
  · constructor <;> rw [heq]
  · simp only [DecisionRequest.sameScope, Bool.and_eq_true, decide_eq_true_eq, and_assoc] at hsame
    obtain ⟨hsid, -, hb, hm, -, hr, hc, -, -, htool, -⟩ := hsame
    have ha := (hs id d hd).authority_eq hreq htool
    constructor <;> rw [heq] <;> assumption

end CapabilityStore

/-! ### The two authorizations -/

def ProviderAuthorizationRequest.decision (req : ProviderAuthorizationRequest) (verdictId : Str) :
    DecisionRequest where
  govTxId := req.govTxId
  sessionId := req.sessionId
  principalFingerprint := req.principalFingerprint
  authority := authorityProviderExecute
  backend := req.backend
  model := req.model
  actionClass := req.actionClass
  sentinelVerdictId := verdictId
  policyHash := req.policyHash
  authorizationBasis := req.authorizationBasis
  agency := req.agency
  drs := req.drs
  runId := req.runId
  contextHash := req.contextHash
  policyVersion := req.policyVersion
  actionHash := []
  toolName := []
  resourceKind := []
  resourceLocator := []
  toolCallId := []
  actionPlane := .tool
  normalizedAction := []
  requiredForSafeCompletion := true

/-- The envelope of the call, before it is sealed. -/
def ActionAuthorizationRequest.envelope (req : ActionAuthorizationRequest) : ActionEnvelope where
  schemaVersion := actionEnvelopeSchemaVersion
  toolName := req.toolName
  arguments := req.arguments
  resource := ⟨req.resourceKind, req.resourceLocator⟩
  principalId := req.principalFingerprint
  sessionId := req.sessionId
  runId := req.runId
  toolCallId := req.toolCallId
  policyVersion := req.policyVersion
  policyHash := req.policyHash
  contextHash := req.contextHash
  actionHash := []

/-- The `Debug` form. -/
def ActionDisposition.text : ActionDisposition → Str
  | allow => "Allow"
  | requireAuthorization => "RequireAuthorization"
  | deny => "Deny"

def ActionAuthorizationRequest.decision (req : ActionAuthorizationRequest) (verdictId : Str)
    (envelope : ActionEnvelope) (disposition : ActionDisposition) (drs : ℕ) : DecisionRequest :=
  let semantics := deriveActionSemanticsForTool envelope.toolName
  { govTxId := req.govTxId
    sessionId := envelope.sessionId
    principalFingerprint := req.principalFingerprint
    authority := authorityActionExecute
    backend := []
    model := []
    actionClass := "tool:" ++ envelope.toolName
    sentinelVerdictId := verdictId
    policyHash := envelope.policyHash
    authorizationBasis := disposition.text
    agency := "ExecuteActions"
    drs
    runId := envelope.runId
    contextHash := envelope.contextHash
    policyVersion := envelope.policyVersion
    actionHash := envelope.actionHash
    toolName := envelope.toolName
    resourceKind := envelope.resource.kind
    resourceLocator := envelope.resource.locator
    toolCallId := envelope.toolCallId
    actionPlane := semantics.plane
    normalizedAction := semantics.normalizedAction
    requiredForSafeCompletion := semantics.requiredForSafeCompletion }

lemma ProviderAuthorizationRequest.decision_shaped (req : ProviderAuthorizationRequest)
    (verdictId : Str) : (req.decision verdictId).Shaped := .inl ⟨rfl, rfl⟩

lemma ActionAuthorizationRequest.decision_shaped {req : ActionAuthorizationRequest}
    {verdictId : Str} {envelope : ActionEnvelope} {disposition : ActionDisposition} {drs : ℕ}
    (hv : (req.decision verdictId envelope disposition drs).validate = .ok ()) :
    (req.decision verdictId envelope disposition drs).Shaped := by
  refine .inr ⟨rfl, fun htool => ?_⟩
  have hauth : (req.decision verdictId envelope disposition drs).authority =
    authorityActionExecute := rfl
  simp only [DecisionRequest.validate, DecisionRequest.nonempty, bind_eq_ok, hauth,
    if_neg authorityProviderExecute_ne.symm, if_true, failIf_eq_ok, htool] at hv
  obtain ⟨-, -, -, -, -, -, -, -, -, -, -, -, -, -, -, -, -, -, -, -, -, -, -, ht, -⟩ := hv
  exact ht rfl

namespace Pipeline

variable (P : Platform) (env : Supply) (p : Pipeline)

/-- `resolve_outbound_context_binding`: the record of the approval behind a context. -/
def resolveOutboundContextBinding (contextHash sessionId runId : Str) :
    Except ApprovalError VerdictRecord :=
  (p.verdictLedger.resolveApproval contextHash sessionId runId).map (·.2)

/-- The store's answer, with the store put back. -/
def mint (req : DecisionRequest) :
    Option (Except AuthorizationError CapabilityToken) × Pipeline :=
  let (answer, capabilityStore) := p.capabilityStore.authorize P env req
  (answer, { p with capabilityStore })

def authorizeProviderExecution (req : ProviderAuthorizationRequest) :
    Option (Except AuthorizationError CapabilityToken) × Pipeline :=
  match p.verdictLedger.resolveApproval req.contextHash req.sessionId req.runId with
  | .error e => (some (.error (.approval e)), p)
  | .ok (verdictId, _) => mint P env p (req.decision verdictId)

def authorizeActionExecution (req : ActionAuthorizationRequest) :
    Option (Except AuthorizationError CapabilityToken) × Pipeline :=
  match p.verdictLedger.resolveApproval req.contextHash req.sessionId req.runId with
  | .error e => (some (.error (.approval e)), p)
  | .ok (verdictId, _) =>
    match ActionEnvelope.seal P req.envelope with
    | .error e => (some (.error (.envelope e)), p)
    | .ok envelope =>
      match envelope.evaluateStrict P with
      | .error e => (some (.error (.envelope e)), p)
      | .ok decision =>
        if decision.disposition = .deny then (some (.error (.denied decision.riskClasses)), p)
        else
          mint P env p (req.decision verdictId envelope decision.disposition
            (p.sessionDrs envelope.sessionId))

def consumeProviderCapability (now : DateTime) (binding : PresentedBinding) :
    ConsumeOutcome × Pipeline :=
  let (outcome, capabilityStore) := p.capabilityStore.consume P now binding
  (outcome, { p with capabilityStore })

/-! ### When a request is granted -/

/-- The ledger approves the context of the request and the store admits its decision. -/
def GrantsProvider (req : ProviderAuthorizationRequest) : Prop :=
  ∃ verdictId record,
    p.verdictLedger.Approves req.contextHash req.sessionId req.runId verdictId record ∧
    p.capabilityStore.Admits (req.decision verdictId)

/-- Moreover the envelope of the call is sealed and not denied. -/
def GrantsAction (req : ActionAuthorizationRequest) : Prop :=
  ∃ verdictId record envelope decision,
    p.verdictLedger.Approves req.contextHash req.sessionId req.runId verdictId record ∧
    ActionEnvelope.seal P req.envelope = .ok envelope ∧
    envelope.evaluateStrict P = .ok decision ∧ decision.disposition ≠ .deny ∧
    p.capabilityStore.Admits (req.decision verdictId envelope decision.disposition
      (p.sessionDrs envelope.sessionId))

variable {P env p}

variable (P env p) in
/-- A request that mints nothing is refused and changes nothing. -/
lemma authorizeProviderExecution_cases (req : ProviderAuthorizationRequest) :
    (∃ e, authorizeProviderExecution P env p req = (some (.error e), p) ∧
      ∀ id r, ¬ p.verdictLedger.Approves req.contextHash req.sessionId req.runId id r) ∨
    ∃ id r, p.verdictLedger.Approves req.contextHash req.sessionId req.runId id r ∧
      authorizeProviderExecution P env p req = mint P env p (req.decision id) := by
  unfold authorizeProviderExecution
  cases h : p.verdictLedger.resolveApproval req.contextHash req.sessionId req.runId with
  | error e =>
    refine .inl ⟨_, rfl, fun id r ha => ?_⟩
    rw [VerdictLedger.resolveApproval_eq_ok.mpr ha] at h
    cases h
  | ok v => exact .inr ⟨v.1, v.2, VerdictLedger.resolveApproval_eq_ok.mp h, rfl⟩

/-- The approval behind a context is one. -/
lemma approves_unique {l : VerdictLedger} {c s r id id' : Str} {rec rec' : VerdictRecord}
    (h : l.Approves c s r id rec) (h' : l.Approves c s r id' rec') : id = id' ∧ rec = rec' := by
  obtain rfl : id = id' := Option.some.inj (h.index.symm.trans h'.index)
  exact ⟨rfl, Option.some.inj (h.stored.symm.trans h'.stored)⟩

variable (P env) in
/-- **Provider requests are refused exactly when they are not granted.** -/
theorem authorizeProviderExecution_error_iff {req : ProviderAuthorizationRequest} :
    (∃ e, (authorizeProviderExecution P env p req).1 = some (.error e)) ↔
      ¬ p.GrantsProvider req := by
  rcases authorizeProviderExecution_cases P env p req with
    ⟨e, heq, hno⟩ | ⟨id, r, ha, heq⟩
  · have hn : ¬ p.GrantsProvider req := fun ⟨id, r, ha, _⟩ => hno id r ha
    simp [heq, hn]
  · rw [heq]
    refine CapabilityStore.authorize_error_iff.trans (not_congr ?_)
    constructor
    · exact fun h => ⟨id, r, ha, h⟩
    · rintro ⟨id', r', ha', hadm⟩
      obtain ⟨rfl, -⟩ := approves_unique ha ha'
      exact hadm

variable (P env p) in
/-- An action request that mints nothing is refused and changes nothing. -/
lemma authorizeActionExecution_cases (req : ActionAuthorizationRequest) :
    (∃ e, authorizeActionExecution P env p req = (some (.error e), p) ∧ ¬ GrantsAction P p req) ∨
    ∃ id r envelope decision,
      p.verdictLedger.Approves req.contextHash req.sessionId req.runId id r ∧
      ActionEnvelope.seal P req.envelope = .ok envelope ∧
      envelope.evaluateStrict P = .ok decision ∧ decision.disposition ≠ .deny ∧
      authorizeActionExecution P env p req = mint P env p (req.decision id envelope
        decision.disposition (p.sessionDrs envelope.sessionId)) := by
  unfold authorizeActionExecution
  cases h : p.verdictLedger.resolveApproval req.contextHash req.sessionId req.runId with
  | error e =>
    refine .inl ⟨_, rfl, fun ⟨id, r, _, _, ha, _⟩ => ?_⟩
    rw [VerdictLedger.resolveApproval_eq_ok.mpr ha] at h
    cases h
  | ok v =>
    have ha := VerdictLedger.resolveApproval_eq_ok.mp h
    cases hs : ActionEnvelope.seal P req.envelope with
    | error e =>
      refine .inl ⟨_, rfl, fun ⟨_, _, _, _, _, hs', _⟩ => ?_⟩
      rw [hs] at hs'
      cases hs'
    | ok envelope =>
      dsimp only
      cases he : envelope.evaluateStrict P with
      | error e =>
        refine .inl ⟨_, rfl, fun ⟨_, _, _, _, _, hs', he', _⟩ => ?_⟩
        obtain rfl := Except.ok.inj (hs.symm.trans hs')
        rw [he] at he'
        cases he'
      | ok decision =>
        dsimp only
        split
        · next hd =>
          refine .inl ⟨_, rfl, fun ⟨_, _, _, _, _, hs', he', hd', _⟩ => ?_⟩
          obtain rfl := Except.ok.inj (hs.symm.trans hs')
          obtain rfl := Except.ok.inj (he.symm.trans he')
          exact hd' hd
        · next hd => exact .inr ⟨v.1, v.2, envelope, decision, ha, rfl, he, hd, rfl⟩

variable (P env) in
/-- **Action requests are refused exactly when they are not granted.** -/
theorem authorizeActionExecution_error_iff {req : ActionAuthorizationRequest} :
    (∃ e, (authorizeActionExecution P env p req).1 = some (.error e)) ↔
      ¬ GrantsAction P p req := by
  rcases authorizeActionExecution_cases P env p req with
    ⟨e, heq, hno⟩ | ⟨id, r, envelope, decision, ha, hs, he, hd, heq⟩
  · simp [heq, hno]
  · rw [heq]
    refine CapabilityStore.authorize_error_iff.trans (not_congr ?_)
    constructor
    · exact fun h => ⟨id, r, envelope, decision, ha, hs, he, hd, h⟩
    · rintro ⟨id', r', envelope', decision', ha', hs', he', -, hadm⟩
      obtain ⟨rfl, -⟩ := approves_unique ha ha'
      obtain rfl := Except.ok.inj (hs.symm.trans hs')
      obtain rfl := Except.ok.inj (he.symm.trans he')
      exact hadm

end Pipeline

end GovSec
