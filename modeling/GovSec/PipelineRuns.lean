import GovSec.Authorization
import GovSec.PipelineFrame
import GovSec.Lib.Runs

/-!
The pipeline as a system that answers one operation at a time, in any order and on any
sessions. What each operation leaves is said once, by cases on the operation.
-/

namespace GovSec.Pipeline

open GovSec.Lib.Text GovSec.Lib.Maps GovSec.Lib.Actions GovSec.Lib.Runs

/-- An operation with its arguments, its clock readings and its fresh identifiers. -/
inductive Op
  | inbound (env : Supply) (userInput sessionId govTxId : Str)
  | inboundContext (env : Supply) (envelope : ModelContextEnvelope) (govTxId : Str)
  | authorizeProviderExecution (env : Supply) (req : ProviderAuthorizationRequest)
  | authorizeActionExecution (env : Supply) (req : ActionAuthorizationRequest)
  | consumeProviderCapability (now : DateTime) (binding : PresentedBinding)
  | outbound (env : Supply) (modelOutput sessionId : Str)
  | endSession (env : Supply) (diskWrites : Bool) (sessionId actorId : Str)
  | operatorReset (env : Supply) (sessionId operatorToken : Str)
  | configureOperatorResetAuthority (authority : OperatorResetAuthority)
  | haapEvaluate (env : Supply) (sessionId : Str) (agency : AgencyLevel) (actionClass : Str)
      (token : Option Str)
  | registerToken (now : DateTime) (token : IntentToken)
  | preauthorize (now : DateTime) (sessionId actionClass : Str) (durationSecs : ℕ)
  | revokeSession (sessionId : Str)

inductive Answer
  | enforced (r : EnforcementResult)
  | context (r : Except EnvelopeError EnforcementResult)
  | authorization (r : Except AuthorizationError CapabilityToken)
  | consumed (o : ConsumeOutcome)
  | ended (persisted : Bool)
  | accepted (r : Except Str Unit)
  | verdict (v : HaapVerdict)
  | done
  | panicked

/-- The answer of an authorization, which may panic. -/
def Answer.ofAuthorization : Option (Except AuthorizationError CapabilityToken) → Answer
  | some r => .authorization r
  | none => .panicked

/-- The token of an answer that has one. -/
def issuedToken : Option (Except AuthorizationError CapabilityToken) → Option CapabilityToken
  | some (.ok t) => some t
  | _ => none

lemma issuedToken_eq_some {o : Option (Except AuthorizationError CapabilityToken)}
    {t : CapabilityToken} : issuedToken o = some t ↔ o = some (.ok t) := by
  rcases o with _ | ⟨_ | _⟩ <;> simp [issuedToken]

/-- The gate of a preauthorization, which may panic. -/
def withPreauthorized (p : Pipeline) : Option HaapGate → Answer × Pipeline
  | some haap => (.done, { p with haap })
  | none => (.panicked, p)

variable (P : Platform)

def step (p : Pipeline) : Op → Answer × Pipeline
  | .inbound env userInput sessionId govTxId =>
    (result (inbound P env userInput sessionId govTxId) p).map .enforced id
  | .inboundContext env envelope govTxId =>
    (result (inboundContext P env envelope govTxId) p).map .context id
  | .authorizeProviderExecution env req =>
    (p.authorizeProviderExecution P env req).map .ofAuthorization id
  | .authorizeActionExecution env req =>
    (p.authorizeActionExecution P env req).map .ofAuthorization id
  | .consumeProviderCapability now binding =>
    (p.consumeProviderCapability P now binding).map .consumed id
  | .outbound env modelOutput sessionId =>
    (result (outbound P env modelOutput sessionId) p).map .enforced id
  | .endSession env diskWrites sessionId actorId =>
    (result (endSession env diskWrites sessionId actorId) p).map .ended id
  | .operatorReset env sessionId operatorToken =>
    (result (operatorReset P env sessionId operatorToken) p).map .accepted id
  | .configureOperatorResetAuthority authority =>
    (result (configureOperatorResetAuthority authority) p).map .accepted id
  | .haapEvaluate env sessionId agency actionClass token =>
    (result (haapEvaluate P env sessionId agency actionClass token) p).map .verdict id
  | .registerToken now token =>
    let (answer, haap) := p.haap.registerToken now token
    (.accepted answer, { p with haap })
  | .preauthorize now sessionId actionClass durationSecs =>
    p.withPreauthorized (p.haap.preauthorize now sessionId actionClass durationSecs)
  | .revokeSession sessionId => (.done, { p with haap := p.haap.revokeSession sessionId })

def system : System Pipeline Op Answer := ⟨step P⟩

abbrev History := List (Op × Answer)

/-! ### Fixed surroundings

For runs on fixed inputs: a context of one text for the model "llama" at "groq", a request to
execute it, and a pipeline without rules of its own. -/

/-- The hash of everything on the silent platform. -/
def fixedHash : Str := List.replicate 64 '0'

def fixedContext (content : Str) : ModelContextEnvelope where
  schemaVersion := modelContextSchemaVersion
  sessionId := "s"
  runId := "r"
  principalId := "fp"
  providerId := "groq"
  modelId := "llama"
  policyVersion := "v1"
  policyHash := fixedHash
  providerContextHash := fixedHash
  systemPromptHash := fixedHash
  toolSchemaHash := fixedHash
  workspaceManifestHash := fixedHash
  segments := [⟨0, .user, .externalUser, content, none, none⟩]
  attachments := []
  contextHash := fixedHash

def fixedRequest (backend model : Str) : ProviderAuthorizationRequest where
  govTxId := "tx"
  sessionId := "s"
  principalFingerprint := "fp"
  backend
  model
  actionClass := "chat"
  policyHash := fixedHash
  authorizationBasis := "BelowRiskThreshold"
  agency := "L2"
  drs := 0
  contextHash := fixedHash
  runId := "r"
  policyVersion := "v1"

/-- A request to read a file, made in the same run. -/
def fixedAction : ActionAuthorizationRequest where
  govTxId := "tx"
  sessionId := "s"
  runId := "r"
  principalFingerprint := "fp"
  toolName := "read"
  arguments := .object [("path", .string "a.txt")]
  resourceKind := "file"
  resourceLocator := "a.txt"
  toolCallId := "call"
  contextHash := fixedHash
  policyVersion := "v1"
  policyHash := fixedHash

def fixedPipeline (config : ArbiterConfig) : Pipeline :=
  new config none (.new silentPlatform "seed") .new .default

/-- The context "hi" is approved. -/
def approvedOps : List Op := [.inboundContext (fixedSupply 0 0) (fixedContext "hi") "tx"]

/-! ### What each operation keeps -/

variable {P} {p : Pipeline}

/-- An operator's reset touches the arbiter, the chain, OverWatch and the memories; its arbiter
keeps the configuration. -/
lemma operatorReset_snd (env : Supply) (sessionId operatorToken : Str) :
    ∃ arbiter crypto overwatch sessionMemories,
      (result (operatorReset P env sessionId operatorToken) p).2 =
        { p with arbiter, crypto, overwatch, sessionMemories } ∧
      arbiter.config = p.arbiter.config := by
  have hc := Arbiter.operatorResetSession_config P env p.crypto p.arbiter sessionId operatorToken
  unfold operatorReset
  rw [result_modifyGet]
  split <;> rename_i h <;> rw [h] at hc
  · exact ⟨_, _, p.overwatch, p.sessionMemories, rfl, hc⟩
  · exact ⟨_, _, _, _, rfl, hc⟩

lemma configureOperatorResetAuthority_snd (authority : OperatorResetAuthority) :
    ∃ resetAuthority, (result (configureOperatorResetAuthority authority) p).2 =
      { p with arbiter := { p.arbiter with resetAuthority } } := by
  unfold configureOperatorResetAuthority Arbiter.configureOperatorResetAuthority
  rw [result_modifyGet]
  cases p.arbiter.resetAuthority with
  | some _ => exact ⟨p.arbiter.resetAuthority, rfl⟩
  | none => exact ⟨some authority, rfl⟩

lemma withPreauthorized_snd (haap? : Option HaapGate) :
    ∃ haap, (p.withPreauthorized haap?).2 = { p with haap } := by
  cases haap? with
  | some haap => exact ⟨haap, rfl⟩
  | none => exact ⟨p.haap, rfl⟩

/-- The operation neither brings a text in nor authorizes nor consumes. -/
def Op.isQuiet : Op → Bool
  | .inbound .. | .inboundContext .. | .authorizeProviderExecution ..
  | .authorizeActionExecution .. | .consumeProviderCapability .. => false
  | _ => true

/-- The configuration, the ledger and the store of capabilities are as before. -/
structure KeepsStores (p p' : Pipeline) : Prop where
  config : p'.arbiter.config = p.arbiter.config
  memoryConfig : p'.memoryConfig = p.memoryConfig
  verdictLedger : p'.verdictLedger = p.verdictLedger
  capabilityStore : p'.capabilityStore = p.capabilityStore

lemma step_quiet {op : Op} (hq : op.isQuiet = true) : KeepsStores p (step P p op).2 := by
  cases op with
  | outbound env modelOutput sessionId =>
    have h := outbound_along P env modelOutput sessionId p
    exact ⟨h.config, h.memoryConfig, h.verdictLedger, h.capabilityStore⟩
  | operatorReset env sessionId operatorToken =>
    obtain ⟨_, _, _, _, h, hc⟩ := operatorReset_snd (P := P) (p := p) env sessionId operatorToken
    have h' : (step P p (.operatorReset env sessionId operatorToken)).2 = _ := h
    rw [h']
    exact ⟨hc, rfl, rfl, rfl⟩
  | configureOperatorResetAuthority authority =>
    obtain ⟨_, h⟩ := configureOperatorResetAuthority_snd (p := p) authority
    have h' : (step P p (.configureOperatorResetAuthority authority)).2 = _ := h
    rw [h']
    exact ⟨rfl, rfl, rfl, rfl⟩
  | preauthorize now sessionId actionClass durationSecs =>
    obtain ⟨_, h⟩ := withPreauthorized_snd (p := p)
      (p.haap.preauthorize now sessionId actionClass durationSecs)
    have h' : (step P p (.preauthorize now sessionId actionClass durationSecs)).2 = _ := h
    rw [h']
    exact ⟨rfl, rfl, rfl, rfl⟩
  | endSession | haapEvaluate | registerToken | revokeSession => exact ⟨rfl, rfl, rfl, rfl⟩
  | _ => cases hq

/-! ### What one operation does to the stores -/

/-- The authority that an operation asks for. -/
def Op.authority : Op → Option Str
  | .authorizeProviderExecution _ _ => some authorityProviderExecute
  | .authorizeActionExecution _ _ => some authorityActionExecute
  | _ => none

/-- The event approved a context for a run of a session. -/
def ApprovesContext (e : Op × Answer) (sessionId runId contextHash : Str) : Prop :=
  ∃ env envelope govTxId content, e = (.inboundContext env envelope govTxId,
    .context (.ok (.approved content))) ∧ envelope.sessionId = sessionId ∧
    envelope.runId = runId ∧ envelope.contextHash = contextHash

/-- The operation asks the store for the decision of an approved context. -/
structure Mints (P : Platform) (p : Pipeline) (op : Op) (env : Supply) (req : DecisionRequest) :
    Prop where
  authority : op.authority = some req.authority
  approved : ∃ id r, p.verdictLedger.Approves req.contextHash req.sessionId req.runId id r
  shaped : req.validate = .ok () → req.Shaped
  step_eq : step P p op = (mint P env p req).map .ofAuthorization id

/-- An authorization that mints nothing is refused and changes nothing. -/
lemma authorizeProviderExecution_mints (env : Supply) (req : ProviderAuthorizationRequest) :
    (∃ e, step P p (.authorizeProviderExecution env req) = (.authorization (.error e), p)) ∨
      ∃ id, Mints P p (.authorizeProviderExecution env req) env (req.decision id) := by
  rcases authorizeProviderExecution_cases P env p req with
    ⟨e, heq, -⟩ | ⟨id, r, ha, heq⟩
  · exact .inl ⟨e, by rw [step, heq]; rfl⟩
  · exact .inr ⟨id, rfl, ⟨id, r, ha⟩, fun _ => req.decision_shaped id, by rw [step, heq]⟩

lemma authorizeActionExecution_mints (env : Supply) (req : ActionAuthorizationRequest) :
    (∃ e, step P p (.authorizeActionExecution env req) = (.authorization (.error e), p)) ∨
      ∃ id envelope decision, Mints P p (.authorizeActionExecution env req) env
        (req.decision id envelope decision (p.sessionDrs envelope.sessionId)) := by
  rcases authorizeActionExecution_cases P env p req with
    ⟨e, heq, -⟩ | ⟨id, r, envelope, decision, ha, hs, -, -, heq⟩
  · exact .inl ⟨e, by rw [step, heq]; rfl⟩
  · refine .inr ⟨id, envelope, decision.disposition, rfl, ⟨id, r, ?_⟩,
      ActionAuthorizationRequest.decision_shaped, by rw [step, heq]⟩
    obtain ⟨hash, rfl⟩ := ActionEnvelope.eq_of_seal hs
    exact ha

/-- What one operation leaves and adds. -/
structure Stepped (P : Platform) (p : Pipeline) (op : Op) : Prop where
  config : (step P p op).2.arbiter.config = p.arbiter.config
  memoryConfig : (step P p op).2.memoryConfig = p.memoryConfig
  /-- Only an approved context adds a record with a context. -/
  recorded : ∀ id r contextHash, (step P p op).2.verdictLedger.verdicts.lookup id = some r →
    r.contextHash = some contextHash → p.verdictLedger.verdicts.lookup id = some r ∨
      ∃ runId, r.runId = some runId ∧
        ApprovesContext (op, (step P p op).1) r.sessionId runId contextHash
  store : (step P p op).2.capabilityStore = p.capabilityStore ∨
    (∃ env req, Mints P p op env req) ∨
    ∃ now binding, (step P p op).2.capabilityStore = (p.capabilityStore.consume P now binding).2

lemma Stepped.of_kept {op : Op} (h : KeepsStores p (step P p op).2) : Stepped P p op where
  config := h.config
  memoryConfig := h.memoryConfig
  recorded _ _ _ hr _ := .inl (h.verdictLedger ▸ hr)
  store := .inl h.capabilityStore

lemma Stepped.of_mints {op : Op} {env : Supply} {req : DecisionRequest}
    (h : Mints P p op env req) : Stepped P p op where
  config := by rw [h.step_eq]; rfl
  memoryConfig := by rw [h.step_eq]; rfl
  recorded _ _ _ hr _ := .inl (by rw [h.step_eq] at hr; exact hr)
  store := .inr (.inl ⟨env, req, h⟩)

lemma Stepped.of_refused {op : Op} {e : AuthorizationError}
    (h : step P p op = (.authorization (.error e), p)) : Stepped P p op :=
  .of_kept (by rw [h]; exact ⟨rfl, rfl, rfl, rfl⟩)

/-- **What one operation leaves and adds**, by cases on the operation. -/
theorem step_stepped (op : Op) : Stepped P p op := by
  cases op with
  | inbound env userInput sessionId govTxId =>
    have h := inbound_called P env userInput sessionId govTxId p
    refine ⟨h.config, h.memoryConfig, fun id r contextHash hr hc => .inl ?_, .inl h.capabilityStore⟩
    rcases h.recorded id r hr with hold | hnone
    · exact hold
    · simp [hnone] at hc
  | inboundContext env envelope govTxId =>
    have h := inboundContext_called P env envelope govTxId p
    refine ⟨h.config, h.memoryConfig, fun id r contextHash hr hc => ?_, .inl h.capabilityStore⟩
    refine (h.recorded id r hr).imp_right fun ⟨⟨content, ha⟩, hctx, hrun, hsid⟩ => ?_
    have hhash : envelope.contextHash = contextHash := Option.some.inj (hctx.symm.trans hc)
    exact ⟨envelope.runId, hrun, env, envelope, govTxId, content,
      congrArg (Prod.mk _ ∘ Answer.context) ha, hsid.symm, rfl, hhash⟩
  | authorizeProviderExecution env req =>
    rcases authorizeProviderExecution_mints (P := P) (p := p) env req with ⟨e, h⟩ | ⟨id, h⟩
    · exact .of_refused h
    · exact .of_mints h
  | authorizeActionExecution env req =>
    rcases authorizeActionExecution_mints (P := P) (p := p) env req with ⟨e, h⟩ | ⟨_, _, _, h⟩
    · exact .of_refused h
    · exact .of_mints h
  | consumeProviderCapability now binding =>
    exact ⟨rfl, rfl, fun _ _ _ hr _ => .inl hr, .inr (.inr ⟨now, binding, rfl⟩)⟩
  | _ => exact .of_kept (step_quiet rfl)

/-- **A run keeps the configuration.** -/
theorem run_config {p₀ : Pipeline} {es : History} (h : (system P).Run p₀ es p) :
    p.arbiter.config = p₀.arbiter.config :=
  h.invariant (I := fun _ p => p.arbiter.config = p₀.arbiter.config) rfl
    fun _ _ op h => (step_stepped op).config.trans h

end GovSec.Pipeline
