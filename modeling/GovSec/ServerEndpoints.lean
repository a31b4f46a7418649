import GovSec.ServerReplies

/-!
The other endpoints: the consumption of capabilities, the authorization of actions, the sessions
and what the server tells of its records.

Some replies are trees that `serde_json` writes, others are texts with the identifiers of the caller
put in as they are.
-/

namespace GovSec

open GovSec.Lib.Text GovSec.Lib.Actions GovSec.Lib.Runs GovSec.Lib.JsonText GovSec.Lib.KeyedLists
open GovSec.SerdeJson
open GovSec.EvidenceGovernedPipeline (authorizeActionExecutionWithEvidence
  consumeProviderCapabilityWithEvidence)

/-- `serde` writes a risk class in snake case. -/
def ActionRiskClass.tree (r : ActionRiskClass) : JsonTree :=
  .string <| match r with
    | unknownTool => "unknown_tool"
    | pathTraversal => "path_traversal"
    | credentialAccess => "credential_access"
    | protectedResourceMutation => "protected_resource_mutation"
    | destructiveShell => "destructive_shell"
    | privilegeEscalation => "privilege_escalation"
    | remoteCodeExecution => "remote_code_execution"
    | browserScriptExecution => "browser_script_execution"
    | filesystemMutation => "filesystem_mutation"
    | shellExecution => "shell_execution"
    | externalInteraction => "external_interaction"
    | controlSchemaViolation => "control_schema_violation"
    | controlAction => "control_action"

namespace Server

/-! ### Bodies -/

/-- What `serde_json` reads bodies as and `chrono` writes of the evidence's instants. -/
structure Serde where
  parseValue : Str → Option JsonTree
  parseNumber : Str → Number
  parseEnvelope : Str → Except Str ModelContextEnvelope
  toRfc3339 : UtcInstant → Str

def optionalJsonString (value : JsonTree) (key : Str) : Option Str :=
  (((member value key).bind readString).map trim).filter (· ≠ [])

section Values

variable (number : Str → Number)

mutual

/-- The value of a tree: its objects are maps in the order of their keys, with the last of equal
keys. -/
def valueOf : JsonTree → Value
  | .null => .null
  | .bool b => .bool b
  | .number raw => .number (number raw)
  | .string s => .string s
  | .array items => .array (valuesOf items)
  | .object members => .object (Value.sortEntries ((entriesOf members).foldl put []))

def valuesOf : List JsonTree → List Value
  | [] => []
  | j :: js => valueOf j :: valuesOf js

def entriesOf : List (Str × JsonTree) → List (Str × Value)
  | [] => []
  | (key, j) :: ms => (key, valueOf j) :: entriesOf ms

end

end Values

section Handlers

variable (P : Platform) (K : KeyRing P) (S : Service) (V : Serde)

/-! ### Consuming a capability -/

/-- The principal, the authority and the policy are the server's own. -/
def providerBinding (p : Pipeline) (value : JsonTree) : Except Str PresentedBinding := do
  let tokenId ← requiredJsonString value "capability_id"
  let govTxId ← requiredJsonString value "gov_tx_id"
  let sessionId ← requiredJsonString value "session_id"
  let backend ← requiredJsonString value "backend"
  let model ← requiredJsonString value "model"
  let contextHash ← requiredJsonString value "context_hash"
  let runId ← requiredJsonString value "run_id"
  pure
    { tokenId
      govTxId
      sessionId
      principalFingerprint := servicePrincipalFingerprint P S
      authority := authorityProviderExecute
      backend
      model
      runId
      contextHash
      policyVersion := p.activePolicyVersion
      policyHash := runtimePolicyHash P S
      actionHash := []
      toolName := []
      resourceKind := []
      resourceLocator := []
      toolCallId := []
      plane := [] }

/-- The plane is derived from the tool that is presented. -/
def actionBinding (p : Pipeline) (value : JsonTree) : Except Str PresentedBinding := do
  let tokenId ← requiredJsonString value "capability_id"
  let govTxId ← requiredJsonString value "gov_tx_id"
  let sessionId ← requiredJsonString value "session_id"
  let runId ← requiredJsonString value "run_id"
  let contextHash ← requiredJsonString value "context_hash"
  let actionHash ← requiredJsonString value "action_hash"
  let toolName ← requiredJsonString value "tool_name"
  let resourceKind ← requiredJsonString value "resource_kind"
  let resourceLocator ← requiredJsonString value "resource_locator"
  pure
    { tokenId
      govTxId
      sessionId
      principalFingerprint := servicePrincipalFingerprint P S
      authority := authorityActionExecute
      backend := []
      model := []
      runId
      contextHash
      policyVersion := p.activePolicyVersion
      policyHash := runtimePolicyHash P S
      actionHash
      toolName
      resourceKind
      resourceLocator
      toolCallId := (optionalJsonString value "tool_call_id").getD []
      plane := (deriveActionSemanticsForTool toolName).plane.text }

def actionConsumeDiagnostics (binding : PresentedBinding) (authorized : Bool) :
    List (Str × JsonTree) :=
  let semantics := deriveActionSemanticsForTool binding.toolName
  [("diagnostics", .object
    [("plane", .string semantics.plane.text),
      ("normalized_action", .string semantics.normalizedAction),
      ("required_for_safe_completion", .bool semantics.requiredForSafeCompletion),
      ("denial_stage",
        if authorized then .null else .string "action_capability_consume")])]

def consumeReply (binding : PresentedBinding) (diagnostics : List (Str × JsonTree))
    (receipt : EvidenceAppendReceipt) (outcome : ConsumeOutcome) : Response :=
  ⟨if outcome.isAuthorized then 200 else 403,
    .object
      (("ok", .bool outcome.isAuthorized) :: ("authorized", .bool outcome.isAuthorized) ::
        ("outcome", .string outcome.asAuditStr) :: ("capability_id", .string binding.tokenId) ::
        ("gov_tx_id", .string binding.govTxId) :: ("session_id", .string binding.sessionId) ::
        ("evidence", evidenceReceiptJson receipt) :: diagnostics)⟩

section Consume

variable (bindingOf : Pipeline → JsonTree → Except Str PresentedBinding)
  (diagnostics : PresentedBinding → Bool → List (Str × JsonTree))

def handleConsume (env : Supply) (fault : Option EvidenceSinkError)
    (g : EvidenceGovernedPipeline) (body : Option JsonTree) :
    Response × EvidenceGovernedPipeline :=
  match body with
  | none => (invalidBody, g)
  | some value =>
    match bindingOf g.pipeline value with
    | .error error => (failed error, g)
    | .ok binding =>
      let ((outcome, receipt), g) :=
        consumeProviderCapabilityWithEvidence P K env fault g binding
      (consumeReply binding (diagnostics binding outcome.isAuthorized) receipt outcome, g)

end Consume

def handleProviderConsume := handleConsume P K (providerBinding P S) fun _ _ => []

def handleActionConsume := handleConsume P K (actionBinding P S) actionConsumeDiagnostics

/-! ### POST /action/authorize -/

def actionRequest (p : Pipeline) (value : JsonTree) : Except Str ActionAuthorizationRequest := do
  let govTxId ← requiredJsonString value "gov_tx_id"
  let sessionId ← requiredJsonString value "session_id"
  let runId ← requiredJsonString value "run_id"
  let toolName ← requiredJsonString value "tool_name"
  let resourceKind ← requiredJsonString value "resource_kind"
  let resourceLocator ← requiredJsonString value "resource_locator"
  let toolCallId ← requiredJsonString value "tool_call_id"
  let contextHash ← requiredJsonString value "context_hash"
  pure
    { govTxId
      sessionId
      runId
      principalFingerprint := servicePrincipalFingerprint P S
      toolName
      arguments := valueOf V.parseNumber ((member value "arguments").getD .null)
      resourceKind
      resourceLocator
      toolCallId
      contextHash
      policyVersion := p.activePolicyVersion
      policyHash := runtimePolicyHash P S }

/-- The error is structural: the request is malformed, not denied. -/
def AuthorizationError.isStructural : AuthorizationError → Bool
  | .approval .malformedContextHash => true
  | .envelope _ => true
  | _ => false

def riskClassesTree : AuthorizationError → JsonTree
  | .denied risks => .array (risks.map ActionRiskClass.tree)
  | _ => .null

/-- A refusal of an action, with the diagnostics of its stage. -/
def actionRefusal (toolName : Str) (receipt : EvidenceAppendReceipt) (e : AuthorizationError) :
    Response :=
  let semantics := deriveActionSemanticsForTool toolName
  let stage (decisionType denialStage : Str) (more : List (Str × JsonTree)) :
      List (Str × JsonTree) :=
    ("decision_type", .string decisionType) :: ("plane", .string semantics.plane.text) ::
      ("native_tool", .string toolName) ::
      ("normalized_action", .string semantics.normalizedAction) ::
      ("required_for_safe_completion", .bool semantics.requiredForSafeCompletion) ::
      ("denial_stage", .string denialStage) :: more
  let refusal (diagnostics : List (Str × JsonTree)) : JsonTree :=
    .object [("ok", .bool false), ("authorized", .bool false), ("error", .string e.debug),
      ("evidence", evidenceReceiptJson receipt), ("diagnostics", .object diagnostics)]
  if AuthorizationError.isStructural e then
    ⟨400, refusal (stage "structural_validation_failed" "action_envelope_validation" [])⟩
  else
    ⟨403, refusal (stage "action_authorization_denied" "action_gate"
      [("risk_classes", riskClassesTree e)])⟩

def actionReply (toolName : Str) (receipt : EvidenceAppendReceipt) :
    Except AuthorizationError CapabilityToken → Response
  | .ok token =>
    ⟨200, .object [("ok", .bool true), ("decision_id", .string token.haapDecisionId),
      ("capability_id", .string token.tokenId), ("gov_tx_id", .string token.govTxId),
      ("session_id", .string token.sessionId), ("run_id", .string token.runId),
      ("principal_fingerprint", .string token.principalFingerprint),
      ("authority", .string token.authority), ("tool_name", .string token.toolName),
      ("resource_kind", .string token.resourceKind),
      ("resource_locator", .string token.resourceLocator),
      ("tool_call_id", .string token.toolCallId),
      ("verdict_id", .string token.sentinelVerdictId),
      ("context_hash", .string token.contextHash), ("action_hash", .string token.actionHash),
      ("policy_hash", .string token.policyHash), ("policy_version", .string token.policyVersion),
      ("expires_at", .string (S.writeInstant token.expiresAt)),
      ("max_uses", .number (natText token.maxUses)), ("plane", .string token.actionPlane.text),
      ("normalized_action", .string token.normalizedAction),
      ("required_for_safe_completion", .bool token.requiredForSafeCompletion),
      ("evidence", evidenceReceiptJson receipt)]⟩
  | .error e => actionRefusal toolName receipt e

def handleActionAuthorize (env : Supply) (fault : Option EvidenceSinkError)
    (g : EvidenceGovernedPipeline) (body : Option JsonTree) :
    Option Response × EvidenceGovernedPipeline :=
  match body with
  | none => (some invalidBody, g)
  | some value =>
    match actionRequest P S V g.pipeline value with
    | .error error => (some (failed error), g)
    | .ok req =>
      let (answer, g) := authorizeActionExecutionWithEvidence P K env fault g req
      (answer.map fun a => actionReply S req.toolName a.2 a.1, g)

/-! ### Sessions -/

/-- `t.trim_start_matches(pat)`: as often as the text begins with it. -/
def trimStartMatches (pat : Str) (t : Str) : Str :=
  if _h : pat ≠ [] ∧ pat <+: t then trimStartMatches pat (t.drop pat.length) else t
termination_by t.length
decreasing_by
  have hpos := List.length_pos_iff.mpr _h.1
  have hle := _h.2.length_le
  simp only [List.length_drop]
  omega

def trimEndMatches (pat : Str) (t : Str) : Str :=
  (trimStartMatches pat.reverse t.reverse).reverse

def isStatePath (path : Str) : Bool :=
  ("/session/" : Str).isPrefixOf path && ("/state" : Str).isSuffixOf path

/-- The session that a path asks for. -/
def statePathSession (path : Str) : Str :=
  trimEndMatches "/state" (trimStartMatches "/session/" path)

def sessionStateBody (p : Pipeline) (sid : Str) : Str :=
  "\x7b\"ok\":true,\"session_id\":\"" ++ sid ++ "\",\"state\":\"" ++ (p.currentState sid).text ++
    "\",\"drs\":" ++ natText (p.sessionDrs sid) ++ "\x7d"

def resetBody (sid : Str) : Str :=
  "\x7b\"ok\":true,\"session_id\":\"" ++ sid ++ "\",\"reset\":true\x7d"

def handleSessionReset (env : Supply) (g : EvidenceGovernedPipeline) (body : Option JsonTree) :
    Reply × EvidenceGovernedPipeline :=
  match body with
  | none => (.jsonResponse invalidBody, g)
  | some value =>
    match requiredJsonString value "session_id" with
    | .error error => (.errJson 400 error, g)
    | .ok sid =>
      let token := (optionalJsonString value "operator_token").getD []
      match result (Pipeline.operatorReset P env sid token) g.pipeline with
      | (.ok (), pipeline) => (.okJson (resetBody sid), { g with pipeline })
      | (.error e, pipeline) => (.errJson 403 e, { g with pipeline })

def startingState : SecurityState → Str
  | .S1 => "Clean"
  | .S2 => "Watching"
  | .S3 => "Elevated"
  | .S4 => "Locked"

def startBody (p : Pipeline) (actorId sessionId : Str) : Str :=
  "\x7b\"ok\":true,\"actor_id\":\"" ++ actorId ++ "\",\"session_id\":\"" ++ sessionId ++
    "\",\"starting_state\":\"" ++ startingState (p.currentState sessionId) ++ "\",\"drs\":" ++
    natText (p.sessionDrs sessionId) ++ ",\"threshold_modifier\":" ++ fixedText 2 1 ++
    ",\"prior_escalations\":" ++ natText 0 ++ "\x7d"

/-- The state of the session is reported; nothing is started. -/
def handleSessionStart (p : Pipeline) (body : Option JsonTree) : Reply :=
  match body with
  | none => .jsonResponse invalidBody
  | some value =>
    let actorId := (optionalJsonString value "actor_id").getD "anonymous"
    match requiredJsonString value "session_id" with
    | .error error => .errJson 400 error
    | .ok sessionId => .okJson (startBody p actorId sessionId)

def endBody (durable persisted escalated : Bool) (actorId sessionId : Str) : Str :=
  "\x7b\"ok\":true,\"actor_id\":\"" ++ actorId ++ "\",\"session_id\":\"" ++ sessionId ++
    "\",\"persisted\":" ++ boolText persisted ++ ",\"durability\":\"" ++
    (if durable then "disk" else "in-memory-only") ++ "\",\"escalated\":" ++ boolText escalated ++
    "\x7d"

def handleSessionEnd (env : Supply) (diskWrites : Bool) (g : EvidenceGovernedPipeline)
    (body : Option JsonTree) : Reply × EvidenceGovernedPipeline :=
  match body with
  | none => (.jsonResponse invalidBody, g)
  | some value =>
    let actorId := (optionalJsonString value "actor_id").getD "anonymous"
    match requiredJsonString value "session_id" with
    | .error error => (.errJson 400 error, g)
    | .ok sessionId =>
      let escalated := ((member value "escalated").bind readBool).getD false
      let (persisted, pipeline) :=
        result (Pipeline.endSession env diskWrites sessionId actorId) g.pipeline
      (.okJson (endBody pipeline.strategicMemory.isDurable persisted escalated actorId sessionId),
        { g with pipeline })

/-! ### Records -/

def healthBody (g : EvidenceGovernedPipeline) : Str :=
  "\x7b\"ok\":true,\"service\":\"sentinel-overwatch\",\"audit_entries\":" ++
    natText g.pipeline.arbiter.auditLog.length ++ ",\"chain_length\":" ++
    natText g.pipeline.crypto.hashChain.length ++ ",\"evidence_entries\":" ++
    natText g.evidence.state.events.length ++ ",\"evidence_pending_sink\":" ++
    natText g.evidence.state.pendingSink.length ++ ",\"evidence_epoch\":\"" ++
    g.evidence.state.epochId ++ "\"\x7d"

def eventTree (e : EvidenceEvent) : JsonTree :=
  let text := writeOption JsonTree.string
  .object
    [("schema_version", .string e.schemaVersion), ("epoch_id", .string e.epochId),
      ("epoch_parent_hash", text e.epochParentHash), ("event_id", .string e.eventId),
      ("sequence", .number (natText e.sequence)),
      ("timestamp", .string (V.toRfc3339 e.timestamp)),
      ("event_type", .string e.eventType.asStr), ("gov_tx_id", text e.payload.govTxId),
      ("session_id", text e.payload.sessionId), ("run_id", text e.payload.runId),
      ("decision_id", text e.payload.decisionId),
      ("capability_id", text e.payload.capabilityId),
      ("context_hash", text e.payload.contextHash), ("action_hash", text e.payload.actionHash),
      ("outbound_hash", text e.payload.outboundHash), ("tool_name", text e.payload.toolName),
      ("resource_kind", text e.payload.resourceKind),
      ("resource_locator_hash", text e.payload.resourceLocatorHash),
      ("policy_version", text e.payload.policyVersion), ("outcome", .string e.payload.outcome),
      ("previous_event_hash", .string e.previousEventHash),
      ("event_hash", .string e.eventHash), ("signer_fingerprint", .string e.signerFingerprint),
      ("signer_public_key", .string e.signerPublicKey), ("signature", .string e.signature)]

/-- The last fifty, the newest first. -/
def latest {α : Type} (entries : List α) : List α := entries.reverse.take 50

def evidenceResponse (plane : EvidencePlane) : Response :=
  ⟨200, .object
    [("ok", .bool true), ("count", .number (natText plane.state.events.length)),
      ("epoch_id", .string plane.state.epochId),
      ("entries", .array ((latest plane.state.events).map (eventTree V)))]⟩

def auditItem (e : AuditEntry) : Str :=
  "\x7b\"event_id\":\"" ++ Uuid.hyphenated e.eventId ++ "\",\"session_id\":\"" ++ e.sessionId ++
    "\",\"source\":\"" ++ e.source ++ "\",\"severity\":\"" ++ e.severity ++ "\"\x7d"

def auditBody (entries : List AuditEntry) : Str :=
  "\x7b\"ok\":true,\"count\":" ++ natText (latest entries).length ++ ",\"entries\":[" ++
    joinWith ',' ((latest entries).map auditItem) ++ "]\x7d"

end Handlers

end Server

end GovSec
