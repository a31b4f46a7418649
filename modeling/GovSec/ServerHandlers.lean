import GovSec.GovernedPipeline
import GovSec.SerdeJson
import GovSec.ServerHeaders
import GovSec.VerdictJson

/-!
The endpoints that admit a text, authorize its execution and review an output.

A handler reads its fields from the body, makes one call of the pipeline and writes the answer as
JSON. A body is given as it was read: not at all, or as a tree.
-/

namespace GovSec

open GovSec.Lib.Text GovSec.Lib.Actions GovSec.Lib.Runs GovSec.Lib.JsonText GovSec.SerdeJson
open GovSec.EvidenceGovernedPipeline (outboundWithEvidence inboundContextWithIdentityAndEvidence
  authorizeProviderExecutionWithEvidence)

/-! ### Replies -/

def EvidenceSinkStatus.tree : EvidenceSinkStatus → JsonTree
  | notConfigured => .string "NotConfigured"
  | delivered sink => .object [("Delivered", .object [("sink", .string sink)])]
  | deferred sink error =>
    .object [("Deferred", .object [("sink", .string sink), ("error", .string error)])]

namespace Server

structure Response where
  status : ℕ
  body : JsonTree

/-- A text in the body of a reply. -/
def Response.text (r : Response) (key : Str) : Option Str := (member r.body key).bind readString

/-- A flag in the body of a reply. -/
def Response.flag (r : Response) (key : Str) : Option Bool := (member r.body key).bind readBool

def evidenceReceiptJson (receipt : EvidenceAppendReceipt) : JsonTree :=
  .object
    [("event_id", .string receipt.eventId), ("event_hash", .string receipt.eventHash),
      ("sequence", .number (natText receipt.sequence)), ("epoch_id", .string receipt.epochId),
      ("sink_status", receipt.sinkStatus.tree)]

/-- A reply that only names an error. -/
def failed (error : Str) : Response := ⟨400, .object [("ok", .bool false), ("error", .string error)]⟩

def errJson (status : ℕ) (msg : Str) : Response :=
  ⟨status, .object [("ok", .bool false), ("error", .string (singleQuoted msg))]⟩

def invalidBody : Response := failed "valid JSON body required"

/-- The text of a verdict, read back; a text that is not JSON is answered for. -/
def verdictValue (r : EnforcementResult) (sessionId : Str) : JsonTree :=
  (parse (verdictJson r sessionId)).getD
    (.object [("ok", .bool false), ("verdict", .string "SERIALIZATION_ERROR"),
      ("session_id", .string sessionId)])

def requiredJsonString (value : JsonTree) (key : Str) : Except Str Str :=
  let field := trim (((member value key).bind readString).getD [])
  if field = [] then .error (key ++ " required") else .ok field

lemma requiredJsonString_of_text {value : JsonTree} {key t : Str}
    (h : (member value key).bind readString = some t) (ht : trim t ≠ []) :
    requiredJsonString value key = .ok (trim t) := by
  simp only [requiredJsonString, h, Option.getD_some, if_neg ht]

/-- What the process was started with, and how `serde` writes an instant. -/
structure Service where
  token : Str
  industryProfile : Str
  govmemMode : Str
  writeInstant : DateTime → Str

section Handlers

variable (P : Platform) (K : KeyRing P) (S : Service)

def servicePrincipalFingerprint : Str := computeHash P S.token

def runtimePolicyHash : Str :=
  computeHash P ("governance-spine:1.0.0|industry:" ++ S.industryProfile ++ "|govmem:" ++
    S.govmemMode)

def newGovTxId (env : Supply) : Str := "GTX-" ++ env.fresh.simple

/-! ### POST /inspect -/

def inspectFields (value : JsonTree) : Except Str (Str × Str) := do
  let payload ← requiredJsonString value "payload"
  let sessionId ← requiredJsonString value "session_id"
  pure (payload, sessionId)

/-- The reply to a result, with the verdict that the ledger has for the transaction. -/
def inspectReply (r : EnforcementResult) (verdictId : Option Str) (sessionId govTxId : Str) :
    Response :=
  match r, verdictId with
  | .approved _, some verdictId =>
    ⟨200, .object [("ok", .bool true), ("verdict", .string "APPROVED"),
      ("session_id", .string sessionId), ("gov_tx_id", .string govTxId),
      ("verdict_id", .string verdictId), ("provider_authorizable", .bool true)]⟩
  | .approved _, none =>
    ⟨500, .object [("ok", .bool false), ("verdict", .string "INTERNAL_AUTHORITY_ERROR"),
      ("session_id", .string sessionId), ("gov_tx_id", .string govTxId),
      ("provider_authorizable", .bool false),
      ("error", .string "final approval receipt missing")]⟩
  | r, _ =>
    ⟨200, setMember (setMember (verdictValue r sessionId) "gov_tx_id" (.string govTxId))
      "provider_authorizable" (.bool false)⟩

def handleInspect (env : Supply) (g : EvidenceGovernedPipeline) (body : Option JsonTree) :
    Response × EvidenceGovernedPipeline :=
  match body with
  | none => (invalidBody, g)
  | some value =>
    match inspectFields value with
    | .error error => (errJson 400 error, g)
    | .ok (payload, sessionId) =>
      let govTxId := newGovTxId (env.part 0)
      let (r, pipeline) :=
        result (Pipeline.inbound P (env.part 1) payload sessionId govTxId) g.pipeline
      (inspectReply r (pipeline.verdictLedger.approvedVerdictId govTxId sessionId) sessionId
        govTxId, ⟨pipeline, g.evidence⟩)

/-! ### POST /context/inspect -/

def contextReply (envelope : ModelContextEnvelope) (verdictId : Option Str) (govTxId : Str)
    (receipt : EvidenceAppendReceipt) : Except EnvelopeError EnforcementResult → Response
  | .error e =>
    ⟨400, .object [("ok", .bool false),
      ("error", .string ("envelope validation failed: " ++ e.text)),
      ("evidence", evidenceReceiptJson receipt)]⟩
  | .ok r =>
    match r, verdictId with
    | .approved _, some verdictId =>
      ⟨200, .object [("ok", .bool true), ("verdict", .string "APPROVED"),
        ("session_id", .string envelope.sessionId), ("gov_tx_id", .string govTxId),
        ("verdict_id", .string verdictId), ("context_hash", .string envelope.contextHash),
        ("run_id", .string envelope.runId), ("provider_authorizable", .bool true),
        ("action_authorizable", .bool true), ("evidence", evidenceReceiptJson receipt)]⟩
    | .approved _, none =>
      ⟨500, .object [("ok", .bool false), ("verdict", .string "INTERNAL_AUTHORITY_ERROR"),
        ("session_id", .string envelope.sessionId), ("gov_tx_id", .string govTxId),
        ("provider_authorizable", .bool false), ("action_authorizable", .bool false),
        ("error", .string "final approval receipt missing"),
        ("evidence", evidenceReceiptJson receipt)]⟩
    | r, _ =>
      ⟨200, setMember (setMember (setMember (setMember (verdictValue r envelope.sessionId)
        "gov_tx_id" (.string govTxId)) "provider_authorizable" (.bool false))
        "action_authorizable" (.bool false)) "evidence" (evidenceReceiptJson receipt)⟩

/-- The body as an envelope, or why it is none. -/
def handleContextInspect (env : Supply) (fault : Option EvidenceSinkError)
    (g : EvidenceGovernedPipeline) (body : Except Str ModelContextEnvelope) :
    Response × EvidenceGovernedPipeline :=
  match body with
  | .error e => (failed ("invalid model context envelope: " ++ e), g)
  | .ok envelope =>
    let govTxId := newGovTxId (env.part 0)
    let ((answer, receipt), g) :=
      inboundContextWithIdentityAndEvidence P K (env.part 1) fault g envelope govTxId
    (contextReply envelope
      (g.pipeline.verdictLedger.approvedVerdictId govTxId envelope.sessionId) govTxId receipt
      answer, g)

/-! ### POST /outbound -/

def outboundFields (value : JsonTree) : Except Str (Str × Str × Str × Str) := do
  let payload ← requiredJsonString value "payload"
  let sessionId ← requiredJsonString value "session_id"
  let contextHash ← requiredJsonString value "context_hash"
  let runId ← requiredJsonString value "run_id"
  pure (payload, sessionId, contextHash, runId)

def outboundReply (sessionId : Str) (receipt : EvidenceAppendReceipt) :
    Except ApprovalError EnforcementResult → Response
  | .ok r => ⟨200, setMember (verdictValue r sessionId) "evidence" (evidenceReceiptJson receipt)⟩
  | .error e =>
    ⟨403, .object [("ok", .bool false), ("verdict", .string "OUTBOUND_WITHHELD"),
      ("authorized", .bool false), ("error", .string e.debug),
      ("evidence", evidenceReceiptJson receipt)]⟩

def handleOutbound (env : Supply) (fault : Option EvidenceSinkError)
    (g : EvidenceGovernedPipeline) (body : Option JsonTree) :
    Response × EvidenceGovernedPipeline :=
  match body with
  | none => (invalidBody, g)
  | some value =>
    match outboundFields value with
    | .error error => (failed error, g)
    | .ok (payload, sessionId, contextHash, runId) =>
      let ((answer, receipt), g) :=
        outboundWithEvidence P K env fault g payload sessionId contextHash runId
      (outboundReply sessionId receipt answer, g)

/-! ### POST /provider/authorize -/

/-- The principal, the policy and the risk score are the server's own. -/
def providerRequest (p : Pipeline) (value : JsonTree) :
    Except Str ProviderAuthorizationRequest := do
  let govTxId ← requiredJsonString value "gov_tx_id"
  let sessionId ← requiredJsonString value "session_id"
  let backend ← requiredJsonString value "backend"
  let model ← requiredJsonString value "model"
  let actionClass ← requiredJsonString value "action_class"
  let contextHash ← requiredJsonString value "context_hash"
  let runId ← requiredJsonString value "run_id"
  pure
    { govTxId
      sessionId
      principalFingerprint := servicePrincipalFingerprint P S
      backend
      model
      actionClass
      policyHash := runtimePolicyHash P S
      authorizationBasis := "FinalPipelineApproved"
      agency := "ExecuteActions"
      drs := p.sessionDrs sessionId
      contextHash
      runId
      policyVersion := p.activePolicyVersion }

def providerReply (receipt : EvidenceAppendReceipt) :
    Except AuthorizationError CapabilityToken → Response
  | .ok token =>
    ⟨200, .object [("ok", .bool true), ("decision_id", .string token.haapDecisionId),
      ("capability_id", .string token.tokenId), ("gov_tx_id", .string token.govTxId),
      ("session_id", .string token.sessionId),
      ("principal_fingerprint", .string token.principalFingerprint),
      ("authority", .string token.authority), ("backend", .string token.backend),
      ("model", .string token.model), ("action_class", .string token.actionClass),
      ("verdict_id", .string token.sentinelVerdictId), ("policy_hash", .string token.policyHash),
      ("run_id", .string token.runId), ("context_hash", .string token.contextHash),
      ("policy_version", .string token.policyVersion),
      ("expires_at", .string (S.writeInstant token.expiresAt)),
      ("max_uses", .number (natText token.maxUses)), ("evidence", evidenceReceiptJson receipt)]⟩
  | .error e =>
    ⟨403, .object [("ok", .bool false), ("authorized", .bool false), ("error", .string e.debug),
      ("evidence", evidenceReceiptJson receipt)]⟩

/-- A panic of the pipeline leaves the request without a reply. -/
def handleProviderAuthorize (env : Supply) (fault : Option EvidenceSinkError)
    (g : EvidenceGovernedPipeline) (body : Option JsonTree) :
    Option Response × EvidenceGovernedPipeline :=
  match body with
  | none => (some invalidBody, g)
  | some value =>
    match providerRequest P S g.pipeline value with
    | .error error => (some (failed error), g)
    | .ok req =>
      let (answer, g) := authorizeProviderExecutionWithEvidence P K env fault g req
      (answer.map fun a => providerReply S a.2 a.1, g)

/-! ### The server -/

/-- A request with the draws and the faults of its call. Of the other endpoints, what they ask of
the pipeline. -/
inductive Request
  | inspect (env : Supply) (body : Option JsonTree)
  | contextInspect (env : Supply) (fault : Option EvidenceSinkError)
      (body : Except Str ModelContextEnvelope)
  | outbound (env : Supply) (fault : Option EvidenceSinkError) (body : Option JsonTree)
  | providerAuthorize (env : Supply) (fault : Option EvidenceSinkError) (body : Option JsonTree)
  | other (op : EvidenceGovernedPipeline.Op)

def handle (g : EvidenceGovernedPipeline) : Request → Option Response × EvidenceGovernedPipeline
  | .inspect env body => (handleInspect P env g body).map some id
  | .contextInspect env fault body => (handleContextInspect P K env fault g body).map some id
  | .outbound env fault body => (handleOutbound P K env fault g body).map some id
  | .providerAuthorize env fault body => handleProviderAuthorize P K S env fault g body
  | .other op => (none, (EvidenceGovernedPipeline.step P K g op).2)

def system : System EvidenceGovernedPipeline Request (Option Response) := ⟨handle P K S⟩

/-! ### The pipeline behind the server -/

/-- What a request asks of the pipeline. -/
def Request.calls (g : EvidenceGovernedPipeline) : Request → List EvidenceGovernedPipeline.Op
  | .inspect env body =>
    match body.map inspectFields with
    | some (.ok (payload, sessionId)) =>
      [.inner (.inbound (env.part 1) payload sessionId (newGovTxId (env.part 0)))]
    | _ => []
  | .contextInspect env fault body =>
    match body with
    | .ok envelope =>
      [.call (env.part 1) fault
        (.inboundContextWithIdentityAndEvidence envelope (newGovTxId (env.part 0)))]
    | .error _ => []
  | .outbound env fault body =>
    match body.map outboundFields with
    | some (.ok (payload, sessionId, contextHash, runId)) =>
      [.call env fault (.outboundWithEvidence payload sessionId contextHash runId)]
    | _ => []
  | .providerAuthorize env fault body =>
    match body.map (providerRequest P S g.pipeline) with
    | some (.ok req) => [.call env fault (.authorizeProviderExecutionWithEvidence req)]
    | _ => []
  | .other op => [op]

variable {P K S} {g g₀ : EvidenceGovernedPipeline}

/-- A request leaves what its calls leave. -/
lemma handle_snd (req : Request) : (handle P K S g req).2 =
    ((EvidenceGovernedPipeline.system P K).exec g (req.calls P S g)).2 := by
  cases req with
  | inspect env body =>
    cases body with
    | none => rfl
    | some value =>
      simp only [handle, handleInspect, Request.calls, Option.map_some]
      cases inspectFields value <;> rfl
  | contextInspect env fault body => cases body <;> rfl
  | outbound env fault body =>
    cases body with
    | none => rfl
    | some value =>
      simp only [handle, handleOutbound, Request.calls, Option.map_some]
      cases outboundFields value <;> rfl
  | providerAuthorize env fault body =>
    cases body with
    | none => rfl
    | some value =>
      simp only [handle, handleProviderAuthorize, Request.calls, Option.map_some]
      cases providerRequest P S g.pipeline value <;> rfl
  | other op => rfl

/-- **The server reaches what its pipeline reaches**: a run of requests leaves the state of a run
of calls. -/
theorem exists_run_of_run {es : List (Request × Option Response)}
    (h : (system P K S).Run g₀ es g) :
    ∃ calls, (EvidenceGovernedPipeline.system P K).Run g₀ calls g := by
  induction h with
  | nil => exact ⟨[], .nil⟩
  | @snoc es g h req ih =>
    obtain ⟨calls, hcalls⟩ := ih
    have hleft : ((system P K S).step g req).2 = _ := handle_snd req
    rw [hleft]
    exact ⟨_, hcalls.append_exec _⟩

end Handlers

end Server

end GovSec
