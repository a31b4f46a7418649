import GovSec.PipelineRuns
import GovSec.EvidenceRuns

/-!
The pipeline behind a decorator that records evidence: every wrapped call asks the inner
pipeline, appends one signed event of what it answered, and hands on the answer with a receipt
of the event.
-/

namespace GovSec

open GovSec.Lib.Text GovSec.Lib.Actions GovSec.Lib.Runs GovSec.Pipeline

/-! ### Texts of outcomes -/

/-- The `Debug` form of an ASCII character within a text. -/
def debugChar (c : Char) : Str :=
  if c = '"' ∨ c = '\\' then ['\\', c]
  else if c = '\t' then ['\\', 't']
  else if c = '\n' then ['\\', 'n']
  else if c = '\r' then ['\\', 'r']
  else if c.toNat = 0 then ['\\', '0']
  else if c.toNat < 32 ∨ c.toNat = 127 then
    '\\' :: 'u' :: '\x7b' :: Nat.toDigits 16 c.toNat ++ ['\x7d']
  else [c]

/-- The `Debug` form of a text, such as the name of a field. -/
def debugText (t : Str) : Str := '"' :: t.flatMap debugChar ++ ['"']

def ApprovalError.debug : ApprovalError → Str
  | malformedContextHash => "MalformedContextHash"
  | approvedVerdictMissing => "ApprovedVerdictMissing"
  | verdictNotFound => "VerdictNotFound"
  | verdictSessionMismatch => "VerdictSessionMismatch"
  | verdictNotFinalApproved => "VerdictNotFinalApproved"
  | verdictWrongDirection => "VerdictWrongDirection"
  | contextHashMismatch => "ContextHashMismatch"
  | runIdMismatch => "RunIdMismatch"

def CapabilityError.debug : CapabilityError → Str
  | emptyField field => "EmptyField(" ++ debugText field ++ ")"
  | malformedDigest field => "MalformedDigest(" ++ debugText field ++ ")"
  | invalidTtl => "InvalidTtl"
  | transactionScopeConflict => "TransactionScopeConflict"
  | wrongAuthority => "WrongAuthority"

def EnvelopeError.debug : EnvelopeError → Str
  | missingField field => "MissingField(" ++ debugText field ++ ")"
  | invalidField field => "InvalidField(" ++ debugText field ++ ")"
  | invalidDigest field => "InvalidDigest(" ++ debugText field ++ ")"
  | limitExceeded field => "LimitExceeded(" ++ debugText field ++ ")"
  | invalidContextSegment ordinal reason =>
    "InvalidContextSegment \x7b ordinal: " ++ natText ordinal ++ ", reason: " ++
      debugText reason ++ " \x7d"
  | duplicateAttachmentId id => "DuplicateAttachmentId(" ++ debugText id ++ ")"
  | unknownAttachmentId id => "UnknownAttachmentId(" ++ debugText id ++ ")"
  | hashMismatch field => "HashMismatch(" ++ debugText field ++ ")"
  | canonicalization reason => "Canonicalization(" ++ debugText reason ++ ")"

def ActionRiskClass.debug : ActionRiskClass → Str
  | unknownTool => "UnknownTool"
  | pathTraversal => "PathTraversal"
  | credentialAccess => "CredentialAccess"
  | protectedResourceMutation => "ProtectedResourceMutation"
  | destructiveShell => "DestructiveShell"
  | privilegeEscalation => "PrivilegeEscalation"
  | remoteCodeExecution => "RemoteCodeExecution"
  | browserScriptExecution => "BrowserScriptExecution"
  | filesystemMutation => "FilesystemMutation"
  | shellExecution => "ShellExecution"
  | externalInteraction => "ExternalInteraction"
  | controlSchemaViolation => "ControlSchemaViolation"
  | controlAction => "ControlAction"

def AuthorizationError.debug : AuthorizationError → Str
  | approval e => e.debug
  | envelope e => "Envelope(" ++ e.debug ++ ")"
  | denied risks =>
    "Denied([" ++ List.intercalate (", " : Str) (risks.map ActionRiskClass.debug) ++ "])"
  | decision e => "Decision(" ++ e.debug ++ ")"
  | decisionNotFound => "DecisionNotFound"
  | alreadyIssued => "AlreadyIssued"

def ConsumeOutcome.isAuthorized (o : ConsumeOutcome) : Bool := o = authorized

def ConsumeOutcome.asAuditStr : ConsumeOutcome → Str
  | authorized => "CAPABILITY_CONSUMED"
  | notFound => "CAPABILITY_NOT_FOUND"
  | signatureInvalid => "CAPABILITY_SIGNATURE_INVALID"
  | alreadyConsumed => "CAPABILITY_REPLAY_REJECTED"
  | expired => "CAPABILITY_EXPIRED"
  | transactionMismatch => "CAPABILITY_TX_MISMATCH"
  | sessionMismatch => "CAPABILITY_SESSION_MISMATCH"
  | principalMismatch => "CAPABILITY_PRINCIPAL_MISMATCH"
  | authorityMismatch => "CAPABILITY_AUTHORITY_MISMATCH"
  | backendMismatch => "CAPABILITY_BACKEND_MISMATCH"
  | modelMismatch => "CAPABILITY_MODEL_MISMATCH"
  | runMismatch => "CAPABILITY_RUN_MISMATCH"
  | contextHashMismatch => "CAPABILITY_CONTEXT_HASH_MISMATCH"
  | policyVersionMismatch => "CAPABILITY_POLICY_VERSION_MISMATCH"
  | policyHashMismatch => "CAPABILITY_POLICY_HASH_MISMATCH"
  | actionHashMismatch => "CAPABILITY_ACTION_HASH_MISMATCH"
  | toolMismatch => "CAPABILITY_TOOL_MISMATCH"
  | resourceMismatch => "CAPABILITY_RESOURCE_MISMATCH"
  | toolCallIdMismatch => "CAPABILITY_TOOL_CALL_ID_MISMATCH"
  | planeMismatch => "CAPABILITY_PLANE_MISMATCH"

def enforcementOutcome : EnforcementResult → Str
  | .approved _ => "APPROVED"
  | .restricted _ _ => "RESTRICTED"
  | .quarantined _ => "QUARANTINED"
  | .hardLocked _ => "HARD_LOCKED"
  | .haapGated _ _ _ => "HAAP_GATED"

/-- `active_policy_version`. -/
def Pipeline.activePolicyVersion (p : Pipeline) : Str :=
  (p.constitutionalEvaluator.map (·.constitution.policyVersion)).getD "unconstituted"

/-! ### Payloads -/

def EvidencePayload.default : EvidencePayload :=
  { govTxId := none, sessionId := none, runId := none, principalFingerprint := none,
    authority := none, contextHash := none, decisionId := none, capabilityId := none,
    actionHash := none, outboundHash := none, toolName := none, resourceKind := none,
    resourceLocatorHash := none, toolCallId := none, policyVersion := none, policyHash := none,
    outcome := [] }

def nonemptyText (value : Str) : Option Str := if value = [] then none else some value

section Payloads

variable (P : Platform)

def resourceLocatorHash (locator : Str) : Option Str :=
  if locator = [] then none else some (computeHash P locator)

def payloadFromToken (token : CapabilityToken) (outcome : Str) : EvidencePayload where
  govTxId := some token.govTxId
  sessionId := some token.sessionId
  runId := some token.runId
  principalFingerprint := some token.principalFingerprint
  authority := some token.authority
  contextHash := some token.contextHash
  decisionId := some token.haapDecisionId
  capabilityId := some token.tokenId
  actionHash := nonemptyText token.actionHash
  outboundHash := none
  toolName := nonemptyText token.toolName
  resourceKind := nonemptyText token.resourceKind
  resourceLocatorHash := resourceLocatorHash P token.resourceLocator
  toolCallId := nonemptyText token.toolCallId
  policyVersion := some token.policyVersion
  policyHash := some token.policyHash
  outcome

/-- The type and the payload of the event of an answer. -/
abbrev Evidence := EvidenceEventType × EvidencePayload

/-- A structural failure names none of the fields that failed verification. -/
def contextEvidence (envelope : ModelContextEnvelope) (govTxId : Str) :
    Except EnvelopeError EnforcementResult → Evidence
  | .ok r =>
    (if r.isApproved then .contextApproved else .contextRefused,
      { EvidencePayload.default with
        govTxId := some govTxId
        sessionId := some envelope.sessionId
        runId := some envelope.runId
        contextHash := some envelope.contextHash
        policyVersion := some envelope.policyVersion
        policyHash := some envelope.policyHash
        outcome := enforcementOutcome r })
  | .error _ =>
    (.contextRefused, { EvidencePayload.default with outcome := "STRUCTURAL_VALIDATION_FAILED" })

def providerEvidence (req : ProviderAuthorizationRequest) :
    Except AuthorizationError CapabilityToken → Evidence
  | .ok token => (.providerAuthorized, payloadFromToken P token "AUTHORIZED")
  | .error e =>
    (.providerRefused,
      { EvidencePayload.default with
        govTxId := some req.govTxId
        sessionId := some req.sessionId
        runId := some req.runId
        principalFingerprint := some req.principalFingerprint
        authority := some "provider.execute"
        contextHash := some req.contextHash
        policyVersion := some req.policyVersion
        policyHash := some req.policyHash
        outcome := e.debug })

def actionEvidence (req : ActionAuthorizationRequest) :
    Except AuthorizationError CapabilityToken → Evidence
  | .ok token => (.actionAuthorized, payloadFromToken P token "AUTHORIZED")
  | .error e =>
    (.actionRefused,
      { EvidencePayload.default with
        govTxId := some req.govTxId
        sessionId := some req.sessionId
        runId := some req.runId
        principalFingerprint := some req.principalFingerprint
        authority := some authorityActionExecute
        contextHash := some req.contextHash
        toolName := some req.toolName
        resourceKind := some req.resourceKind
        resourceLocatorHash := some (computeHash P req.resourceLocator)
        toolCallId := some req.toolCallId
        policyVersion := some req.policyVersion
        policyHash := some req.policyHash
        outcome := e.debug })

def consumeEvidence (binding : PresentedBinding) (outcome : ConsumeOutcome) : Evidence :=
  (if outcome.isAuthorized then .capabilityConsumed else .capabilityRejected,
    { EvidencePayload.default with
      govTxId := some binding.govTxId
      sessionId := some binding.sessionId
      runId := some binding.runId
      principalFingerprint := some binding.principalFingerprint
      authority := some binding.authority
      contextHash := some binding.contextHash
      capabilityId := some binding.tokenId
      actionHash := nonemptyText binding.actionHash
      toolName := nonemptyText binding.toolName
      resourceKind := nonemptyText binding.resourceKind
      resourceLocatorHash := resourceLocatorHash P binding.resourceLocator
      toolCallId := nonemptyText binding.toolCallId
      policyVersion := some binding.policyVersion
      policyHash := some binding.policyHash
      outcome := outcome.asAuditStr })

def outboundType (r : EnforcementResult) : EvidenceEventType :=
  if r.isApproved then .outboundReleased else .outboundWithheld

/-- The legacy entry names no context. -/
def outboundEvidence (modelOutput : Str) (r : EnforcementResult) : Evidence :=
  (outboundType r,
    { EvidencePayload.default with
      outboundHash := some (computeHash P modelOutput)
      outcome := enforcementOutcome r })

def correlationEvidence (modelOutput : Str) (e : ApprovalError) : Evidence :=
  (.outboundWithheld,
    { EvidencePayload.default with
      outboundHash := some (computeHash P modelOutput)
      outcome := "CORRELATION_REJECTED::" ++ e.debug })

/-- What names the context is the ledger's record, not the caller. -/
def correlatedEvidence (modelOutput policyVersion : Str) (record : VerdictRecord)
    (r : EnforcementResult) : Evidence :=
  (outboundType r,
    { EvidencePayload.default with
      govTxId := some record.govTxId
      sessionId := some record.sessionId
      runId := record.runId
      contextHash := record.contextHash
      outboundHash := some (computeHash P modelOutput)
      policyVersion := some policyVersion
      outcome := enforcementOutcome r })

end Payloads

/-! ### The decorator -/

structure EvidenceGovernedPipeline where
  pipeline : Pipeline
  evidence : EvidencePlane

namespace EvidenceGovernedPipeline

section Wrappers

variable (P : Platform) (K : KeyRing P)

def new (env : Supply) (pipeline : Pipeline) (sink : Option EvidenceSink) :
    EvidenceGovernedPipeline := ⟨pipeline, EvidencePlane.new P K env sink⟩

def fromCheckpoint (env : Supply) (pipeline : Pipeline) (checkpoint : EvidenceCheckpoint)
    (sink : Option EvidenceSink) : Except EvidenceVerificationError EvidenceGovernedPipeline :=
  (EvidencePlane.fromCheckpoint P K env checkpoint sink).map (⟨pipeline, ·⟩)

variable (env : Supply) (fault : Option EvidenceSinkError)

/-- After a call of the inner pipeline: one event of its answer, and the receipt. -/
def observe {α : Type} (plane : EvidencePlane) (called : α × Pipeline) (evidence : α → Evidence) :
    (α × EvidenceAppendReceipt) × EvidenceGovernedPipeline :=
  let (eventType, payload) := evidence called.1
  let (receipt, plane) := EvidencePlane.append P K env plane eventType payload fault
  ((called.1, receipt), ⟨called.2, plane⟩)

/-- A call that panicked leaves no event. -/
def observeReturned {α : Type} (plane : EvidencePlane) (called : Option α × Pipeline)
    (evidence : α → Evidence) : Option (α × EvidenceAppendReceipt) × EvidenceGovernedPipeline :=
  match called with
  | (none, pipeline) => (none, ⟨pipeline, plane⟩)
  | (some answer, pipeline) =>
    (observe P K env fault plane (answer, pipeline) evidence).map some id

variable (g : EvidenceGovernedPipeline)

def inboundContextWithIdentityAndEvidence (envelope : ModelContextEnvelope) (govTxId : Str) :
    (Except EnvelopeError EnforcementResult × EvidenceAppendReceipt) × EvidenceGovernedPipeline :=
  observe P K (env.part 1) fault g.evidence
    (result (inboundContext P (env.part 0) envelope govTxId) g.pipeline)
    (contextEvidence envelope govTxId)

def inboundContextWithIdentity (envelope : ModelContextEnvelope) (govTxId : Str) :
    Except EnvelopeError EnforcementResult × EvidenceGovernedPipeline :=
  (inboundContextWithIdentityAndEvidence P K env fault g envelope govTxId).map (·.1) id

def authorizeProviderExecutionWithEvidence (req : ProviderAuthorizationRequest) :
    Option (Except AuthorizationError CapabilityToken × EvidenceAppendReceipt) ×
      EvidenceGovernedPipeline :=
  observeReturned P K (env.part 1) fault g.evidence
    (g.pipeline.authorizeProviderExecution P (env.part 0) req) (providerEvidence P req)

def authorizeProviderExecution (req : ProviderAuthorizationRequest) :
    Option (Except AuthorizationError CapabilityToken) × EvidenceGovernedPipeline :=
  (authorizeProviderExecutionWithEvidence P K env fault g req).map (·.map (·.1)) id

def authorizeActionExecutionWithEvidence (req : ActionAuthorizationRequest) :
    Option (Except AuthorizationError CapabilityToken × EvidenceAppendReceipt) ×
      EvidenceGovernedPipeline :=
  observeReturned P K (env.part 1) fault g.evidence
    (g.pipeline.authorizeActionExecution P (env.part 0) req) (actionEvidence P req)

def authorizeActionExecution (req : ActionAuthorizationRequest) :
    Option (Except AuthorizationError CapabilityToken) × EvidenceGovernedPipeline :=
  (authorizeActionExecutionWithEvidence P K env fault g req).map (·.map (·.1)) id

def consumeProviderCapabilityWithEvidence (binding : PresentedBinding) :
    (ConsumeOutcome × EvidenceAppendReceipt) × EvidenceGovernedPipeline :=
  observe P K (env.part 1) fault g.evidence
    (g.pipeline.consumeProviderCapability P (env.part 0).now binding) (consumeEvidence P binding)

def consumeProviderCapability (binding : PresentedBinding) :
    ConsumeOutcome × EvidenceGovernedPipeline :=
  (consumeProviderCapabilityWithEvidence P K env fault g binding).map (·.1) id

/-- The legacy entry, which drops the receipt. -/
def outbound (modelOutput sessionId : Str) : EnforcementResult × EvidenceGovernedPipeline :=
  (observe P K (env.part 1) fault g.evidence
    (result (Pipeline.outbound P (env.part 0) modelOutput sessionId) g.pipeline)
    (outboundEvidence P modelOutput)).map (·.1) id

/-- The presented context is resolved first; without it nothing is asked of the layers. -/
def outboundWithEvidence (modelOutput sessionId contextHash runId : Str) :
    (Except ApprovalError EnforcementResult × EvidenceAppendReceipt) × EvidenceGovernedPipeline :=
  match g.pipeline.resolveOutboundContextBinding contextHash sessionId runId with
  | .error e =>
    (observe P K (env.part 1) fault g.evidence (e, g.pipeline)
      (correlationEvidence P modelOutput)).map (·.map .error id) id
  | .ok record =>
    (observe P K (env.part 1) fault g.evidence
      (result (Pipeline.outbound P (env.part 0) modelOutput record.sessionId) g.pipeline)
      (correlatedEvidence P modelOutput g.pipeline.activePolicyVersion record)).map
        (·.map .ok id) id

end Wrappers

/-! ### Wrapped calls -/

/-- A wrapped call with its arguments. -/
inductive Call
  | inboundContextWithIdentity (envelope : ModelContextEnvelope) (govTxId : Str)
  | inboundContextWithIdentityAndEvidence (envelope : ModelContextEnvelope) (govTxId : Str)
  | authorizeProviderExecution (req : ProviderAuthorizationRequest)
  | authorizeProviderExecutionWithEvidence (req : ProviderAuthorizationRequest)
  | authorizeActionExecution (req : ActionAuthorizationRequest)
  | authorizeActionExecutionWithEvidence (req : ActionAuthorizationRequest)
  | consumeProviderCapability (binding : PresentedBinding)
  | consumeProviderCapabilityWithEvidence (binding : PresentedBinding)
  | outbound (modelOutput sessionId : Str)
  | outboundWithEvidence (modelOutput sessionId contextHash runId : Str)

inductive Decision
  | context (r : Except EnvelopeError EnforcementResult)
  | authorization (r : Except AuthorizationError CapabilityToken)
  | consumed (o : ConsumeOutcome)
  | enforced (r : EnforcementResult)
  | correlated (r : Except ApprovalError EnforcementResult)

namespace Decision

/-- `Approved`, `Ok` or `Authorized`. -/
def isPositive : Decision → Bool
  | context (.ok r) => r.isApproved
  | authorization (.ok _) => true
  | consumed o => o.isAuthorized
  | enforced r => r.isApproved
  | correlated (.ok r) => r.isApproved
  | _ => false

/-- The content that a decision about an output hands to the caller. -/
def released : Decision → Option Str
  | enforced (.approved content) => some content
  | correlated (.ok (.approved content)) => some content
  | _ => none

end Decision

namespace Call

/-- The type of the event of a granted call. -/
def positive : Call → EvidenceEventType
  | inboundContextWithIdentity _ _ | inboundContextWithIdentityAndEvidence _ _ => .contextApproved
  | authorizeProviderExecution _ | authorizeProviderExecutionWithEvidence _ => .providerAuthorized
  | authorizeActionExecution _ | authorizeActionExecutionWithEvidence _ => .actionAuthorized
  | consumeProviderCapability _ | consumeProviderCapabilityWithEvidence _ => .capabilityConsumed
  | outbound _ _ | outboundWithEvidence _ _ _ _ => .outboundReleased

/-- The type of the event of every other call. -/
def negative : Call → EvidenceEventType
  | inboundContextWithIdentity _ _ | inboundContextWithIdentityAndEvidence _ _ => .contextRefused
  | authorizeProviderExecution _ | authorizeProviderExecutionWithEvidence _ => .providerRefused
  | authorizeActionExecution _ | authorizeActionExecutionWithEvidence _ => .actionRefused
  | consumeProviderCapability _ | consumeProviderCapabilityWithEvidence _ => .capabilityRejected
  | outbound _ _ | outboundWithEvidence _ _ _ _ => .outboundWithheld

/-- The call returns the receipt. -/
def receipted : Call → Bool
  | inboundContextWithIdentityAndEvidence _ _ => true
  | authorizeProviderExecutionWithEvidence _ => true
  | authorizeActionExecutionWithEvidence _ => true
  | consumeProviderCapabilityWithEvidence _ => true
  | outboundWithEvidence _ _ _ _ => true
  | _ => false

/-- What the inner pipeline alone answers and leaves. -/
def plain (P : Platform) (env : Supply) (p : Pipeline) : Call → Option Decision × Pipeline
  | inboundContextWithIdentity envelope govTxId
  | inboundContextWithIdentityAndEvidence envelope govTxId =>
    (result (Pipeline.inboundContext P env envelope govTxId) p).map (some ∘ .context) id
  | authorizeProviderExecution req | authorizeProviderExecutionWithEvidence req =>
    (p.authorizeProviderExecution P env req).map (·.map .authorization) id
  | authorizeActionExecution req | authorizeActionExecutionWithEvidence req =>
    (p.authorizeActionExecution P env req).map (·.map .authorization) id
  | consumeProviderCapability binding | consumeProviderCapabilityWithEvidence binding =>
    (p.consumeProviderCapability P env.now binding).map (some ∘ .consumed) id
  | outbound modelOutput sessionId =>
    (result (Pipeline.outbound P env modelOutput sessionId) p).map (some ∘ .enforced) id
  | outboundWithEvidence modelOutput sessionId contextHash runId =>
    match p.resolveOutboundContextBinding contextHash sessionId runId with
    | .error e => (some (.correlated (.error e)), p)
    | .ok _ =>
      (result (Pipeline.outbound P env modelOutput sessionId) p).map
        (some ∘ .correlated ∘ .ok) id

end Call

structure Reply where
  decision : Decision
  receipt : Option EvidenceAppendReceipt

namespace Reply

variable {α : Type} (decision : α → Decision)

def bare (answer : α) : Reply := ⟨decision answer, none⟩

def withReceipt (answer : α × EvidenceAppendReceipt) : Reply := ⟨decision answer.1, some answer.2⟩

end Reply

section Serve

variable (P : Platform) (K : KeyRing P) (env : Supply) (fault : Option EvidenceSinkError)
  (g : EvidenceGovernedPipeline)

/-- What a call returns, unless it panics. -/
def serve : Call → Option Reply × EvidenceGovernedPipeline
  | .inboundContextWithIdentity envelope govTxId =>
    (inboundContextWithIdentity P K env fault g envelope govTxId).map (some ∘ .bare .context) id
  | .inboundContextWithIdentityAndEvidence envelope govTxId =>
    (inboundContextWithIdentityAndEvidence P K env fault g envelope govTxId).map
      (some ∘ .withReceipt .context) id
  | .authorizeProviderExecution req =>
    (authorizeProviderExecution P K env fault g req).map (·.map (.bare .authorization)) id
  | .authorizeProviderExecutionWithEvidence req =>
    (authorizeProviderExecutionWithEvidence P K env fault g req).map
      (·.map (.withReceipt .authorization)) id
  | .authorizeActionExecution req =>
    (authorizeActionExecution P K env fault g req).map (·.map (.bare .authorization)) id
  | .authorizeActionExecutionWithEvidence req =>
    (authorizeActionExecutionWithEvidence P K env fault g req).map
      (·.map (.withReceipt .authorization)) id
  | .consumeProviderCapability binding =>
    (consumeProviderCapability P K env fault g binding).map (some ∘ .bare .consumed) id
  | .consumeProviderCapabilityWithEvidence binding =>
    (consumeProviderCapabilityWithEvidence P K env fault g binding).map
      (some ∘ .withReceipt .consumed) id
  | .outbound modelOutput sessionId =>
    (outbound P K env fault g modelOutput sessionId).map (some ∘ .bare .enforced) id
  | .outboundWithEvidence modelOutput sessionId contextHash runId =>
    (outboundWithEvidence P K env fault g modelOutput sessionId contextHash runId).map
      (some ∘ .withReceipt .correlated) id

/-- Whatever can be done with the decorator: a wrapped call, or one on the pipeline or the plane
it lends. -/
inductive Op
  | call (env : Supply) (fault : Option EvidenceSinkError) (c : Call)
  | inner (op : Pipeline.Op)
  | plane (op : EvidencePlane.PlaneOp)

inductive Answer
  | reply (r : Option Reply)
  | inner (a : Pipeline.Answer)
  | plane (a : EvidencePlane.PlaneAnswer)

def step : Op → Answer × EvidenceGovernedPipeline
  | .call env fault c => (serve P K env fault g c).map .reply id
  | .inner op => (Pipeline.step P g.pipeline op).map .inner (⟨·, g.evidence⟩)
  | .plane op => (EvidencePlane.planeStep P K g.evidence op).map .plane (⟨g.pipeline, ·⟩)

end Serve

def system (P : Platform) (K : KeyRing P) : System EvidenceGovernedPipeline Op Answer :=
  ⟨fun g => step P K g⟩

variable (P : Platform) (K : KeyRing P) in
/-- A decorator as `new` or `from_checkpoint` returns it. -/
inductive Opened : EvidenceGovernedPipeline → Prop
  | new (env : Supply) (pipeline : Pipeline) (sink : Option EvidenceSink) :
    Opened (EvidenceGovernedPipeline.new P K env pipeline sink)
  | fromCheckpoint {env : Supply} {pipeline : Pipeline} {checkpoint : EvidenceCheckpoint}
      {sink : Option EvidenceSink} {g : EvidenceGovernedPipeline}
      (h : EvidenceGovernedPipeline.fromCheckpoint P K env pipeline checkpoint sink = .ok g) :
    Opened g

/-! ### What the layers release -/

section Released

variable {P : Platform} {content : Str}

/-- An approval is of the content. -/
def Releases (content : Str) (r : EnforcementResult) : Prop :=
  ∀ content', r = .approved content' → content' = content

lemma releases_of_not_approved {r : EnforcementResult} (h : r.isApproved = false) :
    Releases content r := by
  rintro _ rfl
  cases h

lemma releases_enforcementResult (state : SecurityState) :
    Releases content (enforcementResult state content) := by
  cases state <;> rintro _ ⟨⟩
  rfl

lemma arbitrate_releases {env : Supply} {signal : GovernanceSignal} {modifier : ℚ}
    {next : StateM Pipeline EnforcementResult}
    (hn : Meets next fun _ r _ => Releases content r) :
    Meets (arbitrate P env signal modifier id next) fun _ r _ => Releases content r := by
  refine Meets.value fun state => ?_
  cases hcheck : checkHardBlock state with
  | some r =>
    exact Meets.pure fun _ => releases_of_not_approved (not_approved_of_checkHardBlock hcheck)
  | none => exact hn

/-- An outbound call releases what it was given, or nothing. -/
lemma outbound_releases (env : Supply) (sessionId : Str) :
    Meets (Pipeline.outbound P env content sessionId) fun _ r _ => Releases content r :=
  Meets.value fun _ => Meets.value fun _ => arbitrate_releases <|
    Meets.value fun _ => arbitrate_releases <|
      Meets.value fun _ => arbitrate_releases <|
        Meets.value fun _ => Meets.value fun state =>
          Meets.pure fun _ => releases_enforcementResult state

end Released

/-! ### The event of a call -/

section Event

variable {P : Platform} {K : KeyRing P}

lemma Call.positive_ne_negative (c : Call) : c.positive ≠ c.negative := by
  cases c <;> rintro ⟨⟩

/-- The evidence is that of a decision on the call. -/
structure Describes (P : Platform) (c : Call) (d : Decision) (evidence : Evidence) : Prop where
  eventType : evidence.1 = if d.isPositive then c.positive else c.negative
  outboundHash : evidence.1 = .outboundReleased → ∃ content, d.released = some content ∧
    evidence.2.outboundHash = some (computeHash P content)

/-- The receipt has the identity of the event. -/
structure Names (receipt : EvidenceAppendReceipt) (event : EvidenceEvent) : Prop where
  eventId : receipt.eventId = event.eventId
  eventHash : receipt.eventHash = event.eventHash
  sequence : receipt.sequence = event.sequence
  epochId : receipt.epochId = event.epochId

/-- **One event of a reply**: it is the only one that joined the chain, its type says whether
the decision was positive, a receipt names it and no other, and if it releases an output then
its hash is that of the content handed out. -/
structure Records (P : Platform) (c : Call) (reply : Reply) (before after : EvidencePlane)
    (event : EvidenceEvent) : Prop where
  events : after.state.events = before.state.events ++ [event]
  positive : event.eventType = c.positive ↔ reply.decision.isPositive = true
  negative : event.eventType = c.negative ↔ reply.decision.isPositive = false
  receipted : reply.receipt.isSome = c.receipted
  names : ∀ receipt, reply.receipt = some receipt →
    ∀ e ∈ after.state.events, Names receipt e ↔ e = event
  outboundHash : event.eventType = .outboundReleased → ∃ content,
    reply.decision.released = some content ∧
      event.payload.outboundHash = some (computeHash P content)

/-- The sequence number tells the events of a plane apart. -/
lemma eq_of_sequence_eq {p : EvidencePlane} (h : EvidencePlane.Chained P K p)
    {e e' : EvidenceEvent} (he : e ∈ p.state.events) (he' : e' ∈ p.state.events)
    (hseq : e.sequence = e'.sequence) : e = e' := by
  obtain ⟨i, hi⟩ := List.getElem?_of_mem he
  obtain ⟨j, hj⟩ := List.getElem?_of_mem he'
  have hij : i = j := by
    have hei := (h.wrote i e hi).sequence
    have hej := (h.wrote j e' hj).sequence
    omega
  subst hij
  exact Option.some.inj (hi.symm.trans hj)

variable (env : Supply) (fault : Option EvidenceSinkError) (plane : EvidencePlane)
  (evidence : Evidence)

/-- The receipt of an append is of the event it wrote. -/
lemma append_names : Names
    (EvidencePlane.append P K env plane evidence.1 evidence.2 fault).1
    (EvidencePlane.newEvent P K env plane evidence.1 evidence.2) := by
  constructor <;> rfl

lemma append_events :
    (EvidencePlane.append P K env plane evidence.1 evidence.2 fault).2.state.events =
      plane.state.events ++ [EvidencePlane.newEvent P K env plane evidence.1 evidence.2] := by
  rcases EvidencePlane.append_cases (P := P) (K := K) env plane evidence.1 evidence.2 fault with
    ⟨-, heq⟩ | ⟨_, -, heq⟩ | ⟨_, -, -, heq⟩ <;> rw [heq] <;> rfl

variable {env fault plane evidence}

/-- **The step lemma**: evidence that describes a decision is recorded for its reply. -/
theorem Describes.records {c : Call} {d : Decision} {reply : Reply}
    (h : Describes P c d evidence) (hd : reply.decision = d)
    (hchain : EvidencePlane.Chained P K plane) (hreceipt : reply.receipt =
      if c.receipted then some (EvidencePlane.append P K env plane evidence.1 evidence.2 fault).1
      else none) :
    Records P c reply plane (EvidencePlane.append P K env plane evidence.1 evidence.2 fault).2
      (EvidencePlane.newEvent P K env plane evidence.1 evidence.2) := by
  subst hd
  have hevents := append_events (P := P) (K := K) env fault plane evidence
  have htype : (EvidencePlane.newEvent P K env plane evidence.1 evidence.2).eventType =
      if reply.decision.isPositive then c.positive else c.negative := h.eventType
  have hne := c.positive_ne_negative
  refine ⟨hevents, ?_, ?_, ?_, fun receipt hr e he => ?_, h.outboundHash⟩
  · rw [htype]
    split
    · next hpos => exact iff_of_true rfl hpos
    · next hneg => exact iff_of_false hne.symm hneg
  · rw [htype]
    split
    · next hpos => exact iff_of_false hne (by simp [hpos])
    · next hneg => exact iff_of_true rfl (by simpa using hneg)
  · rw [hreceipt]
    cases c.receipted <;> rfl
  · have hnames : Names receipt (EvidencePlane.newEvent P K env plane evidence.1 evidence.2) := by
      rw [hreceipt] at hr
      split at hr
      · exact Option.some.inj hr ▸ append_names env fault plane evidence
      · cases hr
    refine ⟨fun hn => ?_, fun heq => heq ▸ hnames⟩
    refine eq_of_sequence_eq (hchain.append env evidence.1 evidence.2 fault) he ?_
      (hn.sequence.symm.trans hnames.sequence)
    rw [hevents]
    exact List.mem_append_right _ (List.mem_singleton.mpr rfl)

/-! ### Every wrapped call -/

/-- A served call answers and leaves what the inner pipeline does, records one event for its
reply, and none when it panics. -/
structure Serves (P : Platform) (c : Call) (plane : EvidencePlane)
    (plain : Option Decision × Pipeline) (served : Option Reply × EvidenceGovernedPipeline) :
    Prop where
  refines : (served.1.map (·.decision), served.2.pipeline) = plain
  panicked : served.1 = none → served.2.evidence = plane
  recorded : ∀ reply, served.1 = some reply →
    ∃ event, Records P c reply plane served.2.evidence event

/-- The reply to a call with a decision: after the append of its evidence. -/
lemma Describes.serves {c : Call} {d : Decision} (h : Describes P c d evidence)
    (hchain : EvidencePlane.Chained P K plane) (pipeline : Pipeline) :
    Serves P c plane (some d, pipeline)
      (some ⟨d, if c.receipted then
          some (EvidencePlane.append P K env plane evidence.1 evidence.2 fault).1 else none⟩,
        ⟨pipeline, (EvidencePlane.append P K env plane evidence.1 evidence.2 fault).2⟩) where
  refines := rfl
  panicked h := by cases h
  recorded := by
    rintro _ ⟨⟩
    exact ⟨_, h.records rfl hchain rfl⟩

lemma serves_panicked (c : Call) (plane : EvidencePlane) (pipeline : Pipeline) :
    Serves P c plane (none, pipeline) (none, ⟨pipeline, plane⟩) :=
  ⟨rfl, fun _ => rfl, by rintro _ ⟨⟩⟩

lemma contextEvidence_describes {c : Call} {envelope : ModelContextEnvelope} {govTxId : Str}
    (hpos : c.positive = .contextApproved) (hneg : c.negative = .contextRefused)
    (r : Except EnvelopeError EnforcementResult) :
    Describes P c (.context r) (contextEvidence envelope govTxId r) := by
  have htype : (contextEvidence envelope govTxId r).1 =
      if (Decision.context r).isPositive then .contextApproved else .contextRefused := by
    cases r <;> rfl
  refine ⟨by rw [htype, hpos, hneg], fun h => ?_⟩
  rw [htype] at h
  split at h <;> cases h

lemma providerEvidence_describes {c : Call} {req : ProviderAuthorizationRequest}
    (hpos : c.positive = .providerAuthorized) (hneg : c.negative = .providerRefused)
    (r : Except AuthorizationError CapabilityToken) :
    Describes P c (.authorization r) (providerEvidence P req r) := by
  cases r with
  | ok token => exact ⟨hpos.symm, by rintro ⟨⟩⟩
  | error e => exact ⟨hneg.symm, by rintro ⟨⟩⟩

lemma actionEvidence_describes {c : Call} {req : ActionAuthorizationRequest}
    (hpos : c.positive = .actionAuthorized) (hneg : c.negative = .actionRefused)
    (r : Except AuthorizationError CapabilityToken) :
    Describes P c (.authorization r) (actionEvidence P req r) := by
  cases r with
  | ok token => exact ⟨hpos.symm, by rintro ⟨⟩⟩
  | error e => exact ⟨hneg.symm, by rintro ⟨⟩⟩

lemma consumeEvidence_describes {c : Call} {binding : PresentedBinding}
    (hpos : c.positive = .capabilityConsumed) (hneg : c.negative = .capabilityRejected)
    (o : ConsumeOutcome) : Describes P c (.consumed o) (consumeEvidence P binding o) := by
  have htype : (consumeEvidence P binding o).1 =
      if (Decision.consumed o).isPositive then .capabilityConsumed else .capabilityRejected := rfl
  refine ⟨by rw [htype, hpos, hneg], fun h => ?_⟩
  rw [htype] at h
  split at h <;> cases h

lemma outboundType_describes {c : Call} {content : Str} {r : EnforcementResult} {d : Decision}
    (hpos : c.positive = .outboundReleased) (hneg : c.negative = .outboundWithheld)
    (hr : Releases content r) (hd : d = .enforced r ∨ d = .correlated (.ok r))
    (htype : evidence.1 = outboundType r)
    (hhash : evidence.2.outboundHash = some (computeHash P content)) :
    Describes P c d evidence := by
  have hres : d.isPositive = r.isApproved := by rcases hd with rfl | rfl <;> rfl
  refine ⟨by rw [htype, hpos, hneg, hres, outboundType], fun h => ?_⟩
  rw [htype, outboundType] at h
  split at h
  · next happ =>
    obtain ⟨content', rfl⟩ := exists_approved happ
    obtain rfl := hr _ rfl
    exact ⟨content', by rcases hd with rfl | rfl <;> rfl, hhash⟩
  · cases h

/-- A context resolves to a record of its session. -/
lemma session_of_resolveOutboundContextBinding {p : Pipeline} {contextHash sessionId runId : Str}
    {record : VerdictRecord}
    (h : p.resolveOutboundContextBinding contextHash sessionId runId = .ok record) :
    record.sessionId = sessionId := by
  unfold resolveOutboundContextBinding at h
  cases hres : p.verdictLedger.resolveApproval contextHash sessionId runId with
  | error e => simp [hres, Except.map] at h
  | ok found =>
    obtain ⟨id, r⟩ := found
    obtain rfl : r = record := by simpa [hres, Except.map] using h
    exact (VerdictLedger.resolveApproval_eq_ok.mp hres).session

variable (P K env fault) in
/-- **Every wrapped call**, one case for each. -/
theorem serve_serves {g : EvidenceGovernedPipeline} (hchain : EvidencePlane.Chained P K g.evidence)
    (c : Call) :
    Serves P c g.evidence (c.plain P (env.part 0) g.pipeline) (serve P K env fault g c) := by
  cases c with
  | inboundContextWithIdentity envelope govTxId =>
    exact (contextEvidence_describes rfl rfl _).serves hchain _
  | inboundContextWithIdentityAndEvidence envelope govTxId =>
    exact (contextEvidence_describes rfl rfl _).serves hchain _
  | authorizeProviderExecution req =>
    simp only [serve, authorizeProviderExecution, authorizeProviderExecutionWithEvidence,
      Call.plain]
    obtain ⟨_ | r, pipeline⟩ := g.pipeline.authorizeProviderExecution P (env.part 0) req
    · exact serves_panicked _ _ _
    · exact (providerEvidence_describes rfl rfl r).serves hchain pipeline
  | authorizeProviderExecutionWithEvidence req =>
    simp only [serve, authorizeProviderExecutionWithEvidence, Call.plain]
    obtain ⟨_ | r, pipeline⟩ := g.pipeline.authorizeProviderExecution P (env.part 0) req
    · exact serves_panicked _ _ _
    · exact (providerEvidence_describes rfl rfl r).serves hchain pipeline
  | authorizeActionExecution req =>
    simp only [serve, authorizeActionExecution, authorizeActionExecutionWithEvidence, Call.plain]
    obtain ⟨_ | r, pipeline⟩ := g.pipeline.authorizeActionExecution P (env.part 0) req
    · exact serves_panicked _ _ _
    · exact (actionEvidence_describes rfl rfl r).serves hchain pipeline
  | authorizeActionExecutionWithEvidence req =>
    simp only [serve, authorizeActionExecutionWithEvidence, Call.plain]
    obtain ⟨_ | r, pipeline⟩ := g.pipeline.authorizeActionExecution P (env.part 0) req
    · exact serves_panicked _ _ _
    · exact (actionEvidence_describes rfl rfl r).serves hchain pipeline
  | consumeProviderCapability binding =>
    exact (consumeEvidence_describes rfl rfl _).serves hchain _
  | consumeProviderCapabilityWithEvidence binding =>
    exact (consumeEvidence_describes rfl rfl _).serves hchain _
  | outbound modelOutput sessionId =>
    simp only [serve, outbound, Call.plain]
    have hrel : Releases modelOutput _ :=
      outbound_releases (P := P) (env.part 0) sessionId g.pipeline
    generalize result (Pipeline.outbound P (env.part 0) modelOutput sessionId) g.pipeline = called
      at hrel ⊢
    obtain ⟨r, pipeline⟩ := called
    have hdesc : Describes P (.outbound modelOutput sessionId) (.enforced r)
        (outboundEvidence P modelOutput r) :=
      outboundType_describes rfl rfl hrel (.inl rfl) rfl rfl
    exact hdesc.serves hchain pipeline
  | outboundWithEvidence modelOutput sessionId contextHash runId =>
    simp only [serve, outboundWithEvidence, Call.plain]
    cases hres : g.pipeline.resolveOutboundContextBinding contextHash sessionId runId with
    | error e =>
      have hdesc : Describes P (.outboundWithEvidence modelOutput sessionId contextHash runId)
          (.correlated (.error e)) (correlationEvidence P modelOutput e) := ⟨rfl, by rintro ⟨⟩⟩
      exact hdesc.serves hchain g.pipeline
    | ok record =>
      -- the record is of the presented session
      simp only [session_of_resolveOutboundContextBinding hres]
      have hrel : Releases modelOutput _ :=
        outbound_releases (P := P) (env.part 0) sessionId g.pipeline
      generalize result (Pipeline.outbound P (env.part 0) modelOutput sessionId) g.pipeline = called
        at hrel ⊢
      obtain ⟨r, pipeline⟩ := called
      have hdesc : Describes P (.outboundWithEvidence modelOutput sessionId contextHash runId)
          (.correlated (.ok r)) (correlatedEvidence P modelOutput
            g.pipeline.activePolicyVersion record r) :=
        outboundType_describes rfl rfl hrel (.inr rfl) rfl rfl
      exact hdesc.serves hchain pipeline

end Event

/-! ### Runs -/

section Runs

variable {P : Platform} {K : KeyRing P} {g₀ g : EvidenceGovernedPipeline}
  {es : List (Op × Answer)}

lemma Opened.chained (h : Opened P K g₀) : EvidencePlane.Chained P K g₀.evidence := by
  cases h with
  | new env pipeline sink => exact (EvidencePlane.Opened.new env sink).chained
  | @fromCheckpoint env pipeline checkpoint sink _ h =>
    unfold EvidenceGovernedPipeline.fromCheckpoint at h
    cases hplane : EvidencePlane.fromCheckpoint P K env checkpoint sink with
    | error e => simp [hplane, Except.map] at h
    | ok plane =>
      obtain rfl : ⟨pipeline, plane⟩ = g₀ := by simpa [hplane, Except.map] using h
      exact (EvidencePlane.Opened.fromCheckpoint hplane).chained

/-- The plane of a served call is the one before, or has one event more. -/
lemma chained_serve (env : Supply) (fault : Option EvidenceSinkError) (c : Call)
    (h : EvidencePlane.Chained P K g.evidence) :
    EvidencePlane.Chained P K (serve P K env fault g c).2.evidence := by
  cases c with
  | authorizeProviderExecution req | authorizeProviderExecutionWithEvidence req =>
    simp only [serve, authorizeProviderExecution, authorizeProviderExecutionWithEvidence]
    obtain ⟨_ | r, pipeline⟩ := g.pipeline.authorizeProviderExecution P (env.part 0) req
    · exact h
    · exact h.append _ _ _ _
  | authorizeActionExecution req | authorizeActionExecutionWithEvidence req =>
    simp only [serve, authorizeActionExecution, authorizeActionExecutionWithEvidence]
    obtain ⟨_ | r, pipeline⟩ := g.pipeline.authorizeActionExecution P (env.part 0) req
    · exact h
    · exact h.append _ _ _ _
  | outboundWithEvidence modelOutput sessionId contextHash runId =>
    simp only [serve, outboundWithEvidence]
    cases g.pipeline.resolveOutboundContextBinding contextHash sessionId runId with
    | error e => exact h.append _ _ _ _
    | ok record => exact h.append _ _ _ _
  | inboundContextWithIdentity | inboundContextWithIdentityAndEvidence | consumeProviderCapability
  | consumeProviderCapabilityWithEvidence | outbound => exact h.append _ _ _ _

lemma chained_step (op : Op) (h : EvidencePlane.Chained P K g.evidence) :
    EvidencePlane.Chained P K (step P K g op).2.evidence := by
  cases op with
  | call env fault c => exact chained_serve env fault c h
  | inner op => exact h
  | plane op => exact h.step op

/-- A wrapped call is at most one operation of the inner pipeline. -/
lemma plain_exec (env : Supply) (p : Pipeline) (c : Call) :
    ∃ ops, (c.plain P env p).2 = ((Pipeline.system P).exec p ops).2 := by
  cases c with
  | inboundContextWithIdentity envelope govTxId
  | inboundContextWithIdentityAndEvidence envelope govTxId =>
    exact ⟨[.inboundContext env envelope govTxId], rfl⟩
  | authorizeProviderExecution req | authorizeProviderExecutionWithEvidence req =>
    exact ⟨[.authorizeProviderExecution env req], rfl⟩
  | authorizeActionExecution req | authorizeActionExecutionWithEvidence req =>
    exact ⟨[.authorizeActionExecution env req], rfl⟩
  | consumeProviderCapability binding | consumeProviderCapabilityWithEvidence binding =>
    exact ⟨[.consumeProviderCapability env.now binding], rfl⟩
  | outbound modelOutput sessionId => exact ⟨[.outbound env modelOutput sessionId], rfl⟩
  | outboundWithEvidence modelOutput sessionId contextHash runId =>
    simp only [Call.plain]
    cases p.resolveOutboundContextBinding contextHash sessionId runId with
    | error e => exact ⟨[], rfl⟩
    | ok record => exact ⟨[.outbound env modelOutput sessionId], rfl⟩

lemma Opened.chained_run (hopen : Opened P K g₀) (hrun : (system P K).Run g₀ es g) :
    EvidencePlane.Chained P K g.evidence :=
  hrun.invariant (I := fun _ g => EvidencePlane.Chained P K g.evidence) hopen.chained
    fun _ _ op h => chained_step op h

/-- **A decorator's pipeline is one that runs alone**: whatever is done with the decorator, its
pipeline is where a run of the pipeline's own operations leads. -/
theorem pipeline_run (hopen : Opened P K g₀) (hrun : (system P K).Run g₀ es g) :
    ∃ hs, (Pipeline.system P).Run g₀.pipeline hs g.pipeline := by
  induction hrun with
  | nil => exact ⟨[], .nil⟩
  | @snoc es g hrun op ih =>
    obtain ⟨hs, hp⟩ := ih
    cases op with
    | call env fault c =>
      have hserved := (serve_serves P K env fault (hopen.chained_run hrun) c).refines
      obtain ⟨ops, hops⟩ := plain_exec (P := P) (env.part 0) g.pipeline c
      have hpipeline : (serve P K env fault g c).2.pipeline =
          ((Pipeline.system P).exec g.pipeline ops).2 := (congrArg Prod.snd hserved).trans hops
      exact ⟨_, hpipeline ▸ hp.append_exec ops⟩
    | inner op => exact ⟨_, hp.snoc op⟩
    | plane op => exact ⟨hs, hp⟩

/-- **Refinement.** In every state a decorator reaches, every wrapped call answers and leaves
what the inner pipeline alone would, and records exactly one event, the event of its reply. -/
theorem serve_refines (hopen : Opened P K g₀) (hrun : (system P K).Run g₀ es g) (env : Supply)
    (fault : Option EvidenceSinkError) (c : Call) :
    Serves P c g.evidence (c.plain P (env.part 0) g.pipeline) (serve P K env fault g c) :=
  serve_serves P K env fault (hopen.chained_run hrun) c

/-- A decorator over the fixed pipeline, with the sink down. -/
def fixedGoverned : EvidenceGovernedPipeline :=
  new silentPlatform (fixedKeys _) (fixedSupply 0 1) (fixedPipeline .default)
    (some ⟨"memory", []⟩)

/-- The context "hi" is approved through the decorator. -/
def governedOps : List Op :=
  [.call (fixedSupply 0 2) (some ⟨"memory", "down"⟩)
    (.inboundContextWithIdentityAndEvidence (fixedContext "hi") "tx")]

def governed : List (Op × Answer) × EvidenceGovernedPipeline :=
  (system silentPlatform (fixedKeys _)).exec fixedGoverned governedOps

theorem serve_refines_afterApproval :
    Serves silentPlatform (.authorizeProviderExecutionWithEvidence (fixedRequest "groq" "llama"))
      governed.2.evidence
      (Call.plain silentPlatform ((fixedSupply 0 3).part 0) governed.2.pipeline
        (.authorizeProviderExecutionWithEvidence (fixedRequest "groq" "llama")))
      (serve silentPlatform (fixedKeys _) (fixedSupply 0 3) none governed.2
        (.authorizeProviderExecutionWithEvidence (fixedRequest "groq" "llama"))) :=
  serve_refines (.new _ _ _) (.of_exec fixedGoverned governedOps) _ _ _

end Runs

end EvidenceGovernedPipeline

end GovSec
