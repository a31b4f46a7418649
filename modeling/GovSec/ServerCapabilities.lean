import GovSec.CapabilityLives
import GovSec.ServerRouting

/-!
What the replies of the server say about the capabilities it hands out, over a run of connections.

A consumption that is answered with 200 was preceded by an authorization whose reply names the same
execution, and that by an approval of its context. And a reply that hands out a capability can be
echoed to the endpoint that consumes it: once, before the capability expires.
-/

namespace GovSec.Server

open GovSec.Lib.Text GovSec.Lib.Maps GovSec.Lib.Actions GovSec.Lib.Runs GovSec.Lib.JsonText
open GovSec.SerdeJson
open GovSec.Pipeline (Op Answer fixedContext fixedHash)

/-! ### The two executions -/

/-- What a capability is for. -/
inductive Execution
  | provider
  | action
  deriving DecidableEq

namespace Execution

def authority : Execution → Str
  | provider => authorityProviderExecute
  | action => authorityActionExecute

def authorize : Execution → Endpoint
  | provider => .providerAuthorize
  | action => .actionAuthorize

def consume : Execution → Endpoint
  | provider => .providerConsume
  | action => .actionConsume

/-- What a request to consume presents, by its keys; the first are required. -/
def keys : Execution → List Str
  | provider =>
    ["capability_id", "gov_tx_id", "session_id", "backend", "model", "context_hash", "run_id"]
  | action =>
    ["capability_id", "gov_tx_id", "session_id", "run_id", "context_hash", "action_hash",
      "tool_name", "resource_kind", "resource_locator", "tool_call_id"]

def reply (S : Service) (receipt : EvidenceAppendReceipt) (t : CapabilityToken) :
    Execution → Response
  | provider => providerReply S receipt (.ok t)
  | action => actionReply S [] receipt (.ok t)

lemma authority_injective : Function.Injective authority := by
  intro x y h
  cases x <;> cases y <;> first | rfl | exact absurd h (by decide)

end Execution

/-- What a request presents under a key. -/
def presented (value : JsonTree) (key : Str) : Str := (optionalJsonString value key).getD []

lemma requiredJsonString_eq_ok {value : JsonTree} {key t : Str} :
    requiredJsonString value key = .ok t ↔ optionalJsonString value key = some t := by
  unfold requiredJsonString optionalJsonString
  cases (member value key).bind readString with
  | none => simp [trim]
  | some s =>
    simp only [Option.getD_some, Option.map_some, Option.filter_some]
    by_cases hs : trim s = []
    · simp [hs]
    · simp [hs]

section Consume

variable {P : Platform} {K : KeyRing P} {S : Service} {V : Serde} {p : Pipeline}
  {value : JsonTree}

lemma presented_of_required {key t : Str} (h : requiredJsonString value key = .ok t) :
    presented value key = t := by
  rw [presented, requiredJsonString_eq_ok.mp h, Option.getD_some]

variable (P S) in
def Execution.binding (p : Pipeline) (value : JsonTree) :
    Execution → Except Str PresentedBinding
  | .provider => providerBinding P S p value
  | .action => actionBinding P S p value

/-- What a token says under the keys of a request to consume it. -/
def Execution.fields (t : CapabilityToken) : Execution → List (Str × Str)
  | .provider =>
    [("capability_id", t.tokenId), ("gov_tx_id", t.govTxId), ("session_id", t.sessionId),
      ("backend", t.backend), ("model", t.model), ("context_hash", t.contextHash),
      ("run_id", t.runId)]
  | .action =>
    [("capability_id", t.tokenId), ("gov_tx_id", t.govTxId), ("session_id", t.sessionId),
      ("run_id", t.runId), ("context_hash", t.contextHash), ("action_hash", t.actionHash),
      ("tool_name", t.toolName), ("resource_kind", t.resourceKind),
      ("resource_locator", t.resourceLocator), ("tool_call_id", t.toolCallId)]

lemma Execution.map_fst_fields (x : Execution) (t : CapabilityToken) :
    (x.fields t).map Prod.fst = x.keys := by
  cases x <;> rfl

/-- The reply that hands out a token says its fields. -/
lemma Execution.text_reply (x : Execution) (receipt : EvidenceAppendReceipt)
    (t : CapabilityToken) : ∀ f ∈ x.fields t, (x.reply S receipt t).text f.1 = some f.2 := by
  cases x <;> simp only [fields, List.forall_mem_cons, List.not_mem_nil, false_imp_iff,
    implies_true, and_true]
  · exact ⟨rfl, rfl, rfl, rfl, rfl, rfl, rfl⟩
  · exact ⟨rfl, rfl, rfl, rfl, rfl, rfl, rfl, rfl, rfl, rfl⟩

/-- **What an authorized binding presents** is what the token says. -/
theorem Execution.presented_fields {x : Execution} {t : CapabilityToken} {b : PresentedBinding}
    (hb : x.binding P S p value = .ok b) (hid : t.tokenId = b.tokenId)
    (hm : CapabilityStore.Matches t b) : t.authority = x.authority ∧
      ∀ f ∈ x.fields t, presented value f.1 = f.2 := by
  cases x with
  | provider =>
    simp only [binding, providerBinding, bind_eq_ok, pure_eq_ok] at hb
    obtain ⟨_, hid', _, htx, _, hs, _, hback, _, hmod, _, hc, _, hr, rfl⟩ := hb
    refine ⟨hm.authority, ?_⟩
    simp only [fields, List.forall_mem_cons, List.not_mem_nil, false_imp_iff, implies_true,
      and_true]
    exact ⟨(presented_of_required hid').trans hid.symm,
      (presented_of_required htx).trans hm.govTx.symm,
      (presented_of_required hs).trans hm.session.symm,
      (presented_of_required hback).trans hm.backend.symm,
      (presented_of_required hmod).trans hm.model.symm,
      (presented_of_required hc).trans hm.contextHash.symm,
      (presented_of_required hr).trans hm.run.symm⟩
  | action =>
    simp only [binding, actionBinding, bind_eq_ok, pure_eq_ok] at hb
    obtain ⟨_, hid', _, htx, _, hs, _, hr, _, hc, _, ha, _, ht, _, hk, _, hl, rfl⟩ := hb
    obtain ⟨ha', ht', hk', hl', hcall, -⟩ := hm.action hm.authority
    refine ⟨hm.authority, ?_⟩
    simp only [fields, List.forall_mem_cons, List.not_mem_nil, false_imp_iff, implies_true,
      and_true]
    exact ⟨(presented_of_required hid').trans hid.symm,
      (presented_of_required htx).trans hm.govTx.symm,
      (presented_of_required hs).trans hm.session.symm,
      (presented_of_required hr).trans hm.run.symm,
      (presented_of_required hc).trans hm.contextHash.symm,
      (presented_of_required ha).trans ha'.symm, (presented_of_required ht).trans ht'.symm,
      (presented_of_required hk).trans hk'.symm, (presented_of_required hl).trans hl'.symm,
      hcall.symm⟩

/-- What the server hands a token out for: under its own identity and policy, and, for an action,
in the plane of the tool. -/
structure HandedOut (P : Platform) (S : Service) (p : Pipeline) (x : Execution)
    (t : CapabilityToken) : Prop where
  authority : t.authority = x.authority
  principal : t.principalFingerprint = servicePrincipalFingerprint P S
  policyVersion : t.policyVersion = p.activePolicyVersion
  policyHash : t.policyHash = runtimePolicyHash P S
  ofAction : x = .action → t.backend = [] ∧ t.model = [] ∧
    t.actionPlane = (deriveActionSemanticsForTool t.toolName).plane

/-- **A request that presents what a token says** presents a binding that matches it. -/
theorem Execution.exists_binding {x : Execution} {t : CapabilityToken}
    (ht : HandedOut P S p x t)
    (hechoes : ∀ f ∈ x.fields t, optionalJsonString value f.1 = some f.2) :
    ∃ b, x.binding P S p value = .ok b ∧ b.tokenId = t.tokenId ∧
      CapabilityStore.Matches t b := by
  cases x with
  | provider =>
    simp only [fields, List.forall_mem_cons, List.not_mem_nil, false_imp_iff, implies_true,
      and_true] at hechoes
    simp only [← requiredJsonString_eq_ok] at hechoes
    obtain ⟨hid, htx, hs, hback, hmod, hc, hr⟩ := hechoes
    simp only [binding, providerBinding, hid, htx, hs, hback, hmod, hc, hr, Bind.bind, Except.bind]
    refine ⟨_, rfl, rfl, ht.authority, .inl ht.authority, ht.principal, rfl, rfl, rfl, rfl,
      ht.policyVersion, ht.policyHash, rfl, rfl, fun ha => ?_⟩
    exact absurd (ht.authority.symm.trans ha) authorityProviderExecute_ne
  | action =>
    simp only [fields, List.forall_mem_cons, List.not_mem_nil, false_imp_iff, implies_true,
      and_true] at hechoes
    obtain ⟨hid, htx, hs, hr, hc, ha, htool, hk, hl, hcall⟩ := hechoes
    rw [← requiredJsonString_eq_ok] at hid htx hs hr hc ha htool hk hl
    obtain ⟨hback, hmod, hplane⟩ := ht.ofAction rfl
    simp only [binding, actionBinding, hid, htx, hs, hr, hc, ha, htool, hk, hl, hcall, Bind.bind,
      Except.bind]
    exact ⟨_, rfl, rfl, ht.authority, .inr ht.authority, ht.principal, rfl, rfl, rfl, rfl,
      ht.policyVersion, ht.policyHash, hback, hmod,
      fun _ => ⟨rfl, rfl, rfl, rfl, rfl, congrArg ActionPlane.text hplane⟩⟩

end Consume

/-! ### What an endpoint asks -/

section Asks

variable {P : Platform} {K : KeyRing P} {S : Service} {V : Serde} {c : Connection} {p : Pipeline}
  {g : EvidenceGovernedPipeline} {body : Str} {e : Endpoint} {op : Op}

/-- An endpoint asks for one operation at most. -/
lemma length_asks (e : Endpoint) : (e.asks P S V c p body).length ≤ 1 := by
  cases e <;> simp only [Endpoint.asks, consumeAsks] <;> repeat' split
  all_goals simp

lemma asks_of_mem (h : op ∈ e.asks P S V c p body) : e.asks P S V c p body = [op] := by
  have hlength : (e.asks P S V c p body).length ≤ 1 := length_asks e
  match hasks : e.asks P S V c p body with
  | [] => simp [hasks] at h
  | [op'] => rw [hasks, List.mem_singleton] at h; rw [h]
  | _ :: _ :: _ => rw [hasks] at hlength; simp at hlength

/-- Only the endpoints of capabilities consume one. -/
lemma consume_of_mem {now : DateTime} {b : PresentedBinding}
    (h : .consumeProviderCapability now b ∈ e.asks P S V c p body) :
    ∃ x : Execution, e = x.consume ∧ now = (c.env.part 0).now ∧
      ∃ value, V.parseValue body = some value ∧ x.binding P S p value = .ok b := by
  have hconsume (x : Execution)
      (h : Op.consumeProviderCapability now b ∈ consumeAsks V (x.binding P S) c p body) :
      now = (c.env.part 0).now ∧
        ∃ value, V.parseValue body = some value ∧ x.binding P S p value = .ok b := by
    unfold consumeAsks at h
    split at h
    · next b' hb' =>
      obtain ⟨value, hvalue, hb'⟩ := Option.map_eq_some_iff.mp hb'
      obtain ⟨rfl, rfl⟩ : now = (c.env.part 0).now ∧ b = b' := by simpa using h
      exact ⟨rfl, value, hvalue, hb'⟩
    · cases h
  cases e with
  | providerConsume => exact ⟨.provider, rfl, hconsume .provider h⟩
  | actionConsume => exact ⟨.action, rfl, hconsume .action h⟩
  | _ =>
    unfold Endpoint.asks at h
    dsimp only at h
    repeat' split at h
    all_goals simp at h

/-- The decision is under the identity and the policy of the server. -/
structure Decides (P : Platform) (S : Service) (c : Connection) (p : Pipeline) (x : Execution)
    (env : Supply) (req : DecisionRequest) : Prop where
  supply : env = c.env.part 0
  authority : req.authority = x.authority
  principal : req.principalFingerprint = servicePrincipalFingerprint P S
  policyVersion : req.policyVersion = p.activePolicyVersion
  policyHash : req.policyHash = runtimePolicyHash P S
  ofAction : x = .action → req.backend = [] ∧ req.model = [] ∧
    req.actionPlane = (deriveActionSemanticsForTool req.toolName).plane

/-- The server's own part of a provider's request. -/
lemma providerRequest_own {value : JsonTree} {req : ProviderAuthorizationRequest}
    (h : providerRequest P S p value = .ok req) :
    req.principalFingerprint = servicePrincipalFingerprint P S ∧
      req.policyVersion = p.activePolicyVersion ∧ req.policyHash = runtimePolicyHash P S := by
  simp only [providerRequest, bind_eq_ok, pure_eq_ok] at h
  obtain ⟨_, -, _, -, _, -, _, -, _, -, _, -, _, -, rfl⟩ := h
  exact ⟨rfl, rfl, rfl⟩

/-- The server's own part of an action's request. -/
lemma actionRequest_own {value : JsonTree} {req : ActionAuthorizationRequest}
    (h : actionRequest P S V p value = .ok req) :
    req.principalFingerprint = servicePrincipalFingerprint P S ∧
      req.policyVersion = p.activePolicyVersion ∧ req.policyHash = runtimePolicyHash P S := by
  simp only [actionRequest, bind_eq_ok, pure_eq_ok] at h
  obtain ⟨_, -, _, -, _, -, _, -, _, -, _, -, _, -, _, -, rfl⟩ := h
  exact ⟨rfl, rfl, rfl⟩

/-- Only the endpoints of authorizations ask for a decision. -/
lemma decides_of_mem {env : Supply} {req : DecisionRequest} (h : op ∈ e.asks P S V c p body)
    (hasks : op.Asks env req) :
    ∃ x : Execution, e = x.authorize ∧ Decides P S c p x env req := by
  cases e with
  | providerAuthorize =>
    unfold Endpoint.asks at h
    dsimp only at h
    split at h
    · next req' hreq' =>
      obtain ⟨value, -, hreq'⟩ := Option.map_eq_some_iff.mp hreq'
      obtain ⟨hprincipal, hversion, hhash⟩ := providerRequest_own hreq'
      rw [List.mem_singleton] at h
      subst h
      cases hasks
      exact ⟨.provider, rfl, rfl, rfl, hprincipal, hversion, hhash, nofun⟩
    · cases h
  | actionAuthorize =>
    unfold Endpoint.asks at h
    dsimp only at h
    split at h
    · next req' hreq' =>
      obtain ⟨value, -, hreq'⟩ := Option.map_eq_some_iff.mp hreq'
      obtain ⟨hprincipal, hversion, hhash⟩ := actionRequest_own hreq'
      rw [List.mem_singleton] at h
      subst h
      cases hasks
      exact ⟨.action, rfl, rfl, rfl, hprincipal, hversion, hhash, fun _ => ⟨rfl, rfl, rfl⟩⟩
    · cases h
  | _ =>
    unfold Endpoint.asks at h
    simp only [consumeAsks] at h
    repeat' split at h
    all_goals first | (rw [List.mem_singleton] at h; subst h; cases hasks) | cases h

/-- Only the endpoint of contexts brings one in. -/
lemma context_of_mem {env : Supply} {envelope : ModelContextEnvelope} {govTxId : Str}
    (h : .inboundContext env envelope govTxId ∈ e.asks P S V c p body) :
    e = .contextInspect ∧ V.parseEnvelope body = .ok envelope ∧
      env = (c.env.part 1).part 0 ∧ govTxId = newGovTxId (c.env.part 0) := by
  cases e with
  | contextInspect =>
    unfold Endpoint.asks at h
    dsimp only at h
    split at h
    · next envelope' henvelope' =>
      obtain ⟨rfl, rfl, rfl⟩ : env = (c.env.part 1).part 0 ∧ envelope = envelope' ∧
        govTxId = newGovTxId (c.env.part 0) := by simpa using h
      exact ⟨rfl, henvelope', rfl, rfl⟩
    · cases h
  | _ =>
    unfold Endpoint.asks at h
    simp only [consumeAsks] at h
    repeat' split at h
    all_goals simp at h

/-! ### What an endpoint replies -/

variable (K) in
/-- The reply to a request that is understood is that of the pipeline's answer. -/
lemma handleActionAuthorize_of_request (env : Supply) (fault : Option EvidenceSinkError)
    {value : JsonTree} {req : ActionAuthorizationRequest}
    (h : actionRequest P S V g.pipeline value = .ok req) :
    ∃ receipt, (handleActionAuthorize P K S V env fault g (some value)).1 =
      (g.pipeline.authorizeActionExecution P (env.part 0) req).1.map
        (actionReply S req.toolName receipt) := by
  simp only [handleActionAuthorize, h,
    EvidenceGovernedPipeline.authorizeActionExecutionWithEvidence]
  obtain ⟨_ | answer, pipeline⟩ := g.pipeline.authorizeActionExecution P (env.part 0) req
  · exact ⟨⟨[], [], 0, [], .notConfigured⟩, rfl⟩
  · exact ⟨_, rfl⟩

/-- A consumption is answered with 200 exactly when the pipeline authorizes the binding. -/
lemma answer_consume (x : Execution) {value : JsonTree} {b : PresentedBinding}
    (hvalue : V.parseValue body = some value) (hb : x.binding P S g.pipeline value = .ok b) :
    ∃ r, (answer P K S V c g body x.consume).1 = some (.jsonResponse r) ∧
      r.text "capability_id" = some b.tokenId ∧ (r.status = 200 ↔
        (g.pipeline.consumeProviderCapability P (c.env.part 0).now b).1 = .authorized) := by
  have hstatus (outcome : ConsumeOutcome) :
      (if outcome.isAuthorized then 200 else 403) = 200 ↔ outcome = .authorized := by
    unfold ConsumeOutcome.isAuthorized
    by_cases h : outcome = .authorized <;> simp [h]
  cases x with
  | provider =>
    have hb' : providerBinding P S g.pipeline value = .ok b := hb
    simp only [Execution.consume, answer, handleProviderConsume, handleConsume, hvalue, hb']
    exact ⟨_, rfl, rfl, hstatus _⟩
  | action =>
    have hb' : actionBinding P S g.pipeline value = .ok b := hb
    simp only [Execution.consume, answer, handleActionConsume, handleConsume, hvalue, hb']
    exact ⟨_, rfl, rfl, hstatus _⟩

lemma binding_of_consume {x : Execution} {r : Response}
    (h : (answer P K S V c g body x.consume).1 = some (.jsonResponse r)) (hr : r.status = 200) :
    ∃ value b, V.parseValue body = some value ∧ x.binding P S g.pipeline value = .ok b := by
  cases hvalue : V.parseValue body with
  | none => cases x <;> simp [Execution.consume, answer, handleProviderConsume, handleActionConsume,
      handleConsume, hvalue] at h <;> subst h <;> cases hr
  | some value =>
    cases hb : x.binding P S g.pipeline value with
    | ok b => exact ⟨value, b, rfl, hb⟩
    | error e => cases x <;> simp only [Execution.binding] at hb <;>
        simp [Execution.consume, answer, handleProviderConsume, handleActionConsume,
          handleConsume, hvalue, hb] at h <;> subst h <;> cases hr

/-- A token that the pipeline answers is handed out with 200. -/
lemma answer_authorize (x : Execution) {t : CapabilityToken}
    (hop : op ∈ x.authorize.asks P S V c g.pipeline body)
    (ht : (Pipeline.step P g.pipeline op).1 = .authorization (.ok t)) :
    ∃ receipt, (answer P K S V c g body x.authorize).1 =
      some (.jsonResponse (x.reply S receipt t)) := by
  cases x with
  | provider =>
    simp only [Execution.authorize, Endpoint.asks] at hop
    split at hop
    · next req hreq =>
      obtain ⟨value, hvalue, hreq⟩ := Option.map_eq_some_iff.mp hreq
      rw [List.mem_singleton] at hop
      subst hop
      have hok : (g.pipeline.authorizeProviderExecution P (c.env.part 0) req).1 = some (.ok t) :=
        Pipeline.ofAuthorization_eq ht
      obtain ⟨receipt, hreply⟩ := handleProviderAuthorize_of_request K c.env c.fault hreq
      refine ⟨receipt, ?_⟩
      rw [hok] at hreply
      simp only [Execution.authorize, answer, hvalue]
      exact congrArg (Option.map Reply.jsonResponse) hreply
    · cases hop
  | action =>
    simp only [Execution.authorize, Endpoint.asks] at hop
    split at hop
    · next req hreq =>
      obtain ⟨value, hvalue, hreq⟩ := Option.map_eq_some_iff.mp hreq
      rw [List.mem_singleton] at hop
      subst hop
      have hok : (g.pipeline.authorizeActionExecution P (c.env.part 0) req).1 = some (.ok t) :=
        Pipeline.ofAuthorization_eq ht
      obtain ⟨receipt, hreply⟩ := handleActionAuthorize_of_request K c.env c.fault hreq
      refine ⟨receipt, ?_⟩
      rw [hok] at hreply
      simp only [Execution.authorize, answer, hvalue]
      exact congrArg (Option.map Reply.jsonResponse) hreply
    · cases hop

/-- And only such a token is. -/
lemma token_of_authorize {x : Execution} {r : Response}
    (h : (answer P K S V c g body x.authorize).1 = some (.jsonResponse r))
    (hr : r.status = 200) :
    ∃ op t receipt, op ∈ x.authorize.asks P S V c g.pipeline body ∧
      (Pipeline.step P g.pipeline op).1 = .authorization (.ok t) ∧ r = x.reply S receipt t := by
  cases hvalue : V.parseValue body with
  | none =>
    cases x <;> simp [Execution.authorize, answer, handleProviderAuthorize, handleActionAuthorize,
      hvalue] at h <;> subst h <;> cases hr
  | some value =>
    cases x with
    | provider =>
      simp only [Execution.authorize, answer, hvalue] at h
      cases hreq : providerRequest P S g.pipeline value with
      | error e =>
        simp [handleProviderAuthorize, hreq] at h
        subst h
        cases hr
      | ok req =>
        obtain ⟨receipt, hreply⟩ := handleProviderAuthorize_of_request K c.env c.fault hreq
        rw [Prod.map_fst, hreply] at h
        rcases hans : (g.pipeline.authorizeProviderExecution P (c.env.part 0) req).1 with
          _ | e | t <;> rw [hans] at h
        · cases h
        · cases h
          cases hr
        · cases h
          refine ⟨.authorizeProviderExecution (c.env.part 0) req, t, receipt, ?_,
            congrArg Answer.ofAuthorization hans, rfl⟩
          simp [Execution.authorize, Endpoint.asks, hvalue, hreq]
    | action =>
      simp only [Execution.authorize, answer, hvalue] at h
      cases hreq : actionRequest P S V g.pipeline value with
      | error e =>
        simp [handleActionAuthorize, hreq] at h
        subst h
        cases hr
      | ok req =>
        obtain ⟨receipt, hreply⟩ := handleActionAuthorize_of_request K c.env c.fault hreq
        rw [Prod.map_fst, hreply] at h
        rcases hans : (g.pipeline.authorizeActionExecution P (c.env.part 0) req).1 with
          _ | e | t <;> rw [hans] at h
        · cases h
        · have heq : r = actionRefusal req.toolName receipt e := by
            cases h
            rfl
          unfold actionRefusal at heq
          split at heq <;> subst heq <;> cases hr
        · cases h
          refine ⟨.authorizeActionExecution (c.env.part 0) req, t, receipt, ?_,
            congrArg Answer.ofAuthorization hans, rfl⟩
          simp [Execution.authorize, Endpoint.asks, hvalue, hreq]

end Asks

/-! ### Connections -/

section Connections

variable (P : Platform) (K : KeyRing P) (S : Service) (V : Serde)

/-- The connection was answered at an endpoint. -/
structure AnsweredAt (e : Connection × Option Reply) (endpoint : Endpoint) (body : Str)
    (r : Response) : Prop where
  admitted : admitted P S e.1.received = some (endpoint, body)
  reply : e.2 = some (.jsonResponse r)

/-- The connection was handed out the capability of an id. -/
def HandsOut (x : Execution) (tid : Str) (e : Connection × Option Reply) : Prop :=
  ∃ body r, AnsweredAt P S e x.authorize body r ∧ r.status = 200 ∧
    r.text "capability_id" = some tid

/-- The connection consumed the capability of an id. -/
def Consumes (tid : Str) (e : Connection × Option Reply) : Prop :=
  ∃ x : Execution, ∃ body r, AnsweredAt P S e x.consume body r ∧ r.status = 200 ∧
    r.text "capability_id" = some tid

/-- The connection was told of the approval of a context for a run of a session. -/
def ToldApproved (sessionId runId contextHash : Str) (e : Connection × Option Reply) : Prop :=
  ∃ body r, AnsweredAt P S e .contextInspect body r ∧ r.text "verdict" = some "APPROVED" ∧
    r.text "session_id" = some sessionId ∧ r.text "run_id" = some runId ∧
    r.text "context_hash" = some contextHash

/-- The pipeline's part of a connection of a run. -/
abbrev PartOf (g₀ : EvidenceGovernedPipeline) :=
  (web P K S V).BlockOf (Pipeline.system P) EvidenceGovernedPipeline.pipeline (asks P S V) g₀

variable {P K S V} {g g₀ : EvidenceGovernedPipeline} {e : Connection × Option Reply}
  {part : List (Op × Answer)} {b : Op × Answer} {tid : Str}

/-- An event of a part: what the endpoint asked, and what the pipeline answered. -/
lemma exists_of_part (h : PartOf P K S V g₀ e part) (hb : b ∈ part) :
    ∃ g endpoint body, admitted P S e.1.received = some (endpoint, body) ∧
      e.2 = (answer P K S V e.1 g body endpoint).1 ∧ part = [b] ∧
      b.1 ∈ endpoint.asks P S V e.1 g.pipeline body ∧
      b.2 = (Pipeline.step P g.pipeline b.1).1 := by
  obtain ⟨g, -, hreply, rfl⟩ := h
  unfold asks at hb ⊢
  cases hadmitted : admitted P S e.1.received with
  | none =>
    rw [hadmitted] at hb
    cases hb
  | some a =>
    obtain ⟨endpoint, body⟩ := a
    rw [hadmitted] at hb
    dsimp only at hb ⊢
    have hmem : b.1 ∈ endpoint.asks P S V e.1 g.pipeline body := by
      have hfst := List.mem_map_of_mem (f := Prod.fst) hb
      rwa [System.map_fst_exec] at hfst
    have hreply' := hreply.trans (congrArg Prod.fst (respond_of_admitted hadmitted))
    rw [asks_of_mem hmem] at hb ⊢
    have heq := List.mem_singleton.mp hb
    exact ⟨g, endpoint, body, rfl, hreply', congrArg (fun b => [b]) heq.symm, hmem,
      congrArg Prod.snd heq⟩

/-- **A token that is answered is handed out.** -/
lemma exists_handsOut_of_part (h : PartOf P K S V g₀ e part) (hb : b ∈ part) {t : CapabilityToken}
    (ht : b.2 = .authorization (.ok t)) :
    ∃ (x : Execution) (body : Str) (receipt : EvidenceAppendReceipt),
      b.1.authority = some x.authority ∧
        AnsweredAt P S e x.authorize body (x.reply S receipt t) := by
  obtain ⟨g, endpoint, body, hadmitted, hreply, -, hmem, hans⟩ := exists_of_part h hb
  have hok : (Pipeline.step P g.pipeline b.1).1 = .authorization (.ok t) := hans.symm.trans ht
  rcases Pipeline.step_store P g.pipeline b.1 with hleft | ⟨env, req, hasks, hm⟩ | ⟨_, _, hconsume⟩
  · have hno := hleft.answers t.tokenId
    rw [Pipeline.answersToken_iff.mpr ⟨t, hok, rfl⟩] at hno
    cases hno
  · obtain ⟨x, rfl, hdecides⟩ := decides_of_mem hmem hasks
    obtain ⟨receipt, hanswer⟩ := answer_authorize (K := K) x hmem hok
    exact ⟨x, body, receipt, hm.authority.trans (congrArg some hdecides.authority), hadmitted,
      hreply.trans hanswer⟩
  · rw [hconsume] at hok
    cases hok

/-- **A context that is approved is told of.** -/
lemma toldApproved_of_part (h : PartOf P K S V g₀ e part) (hb : b ∈ part)
    {sessionId runId contextHash : Str}
    (happ : Pipeline.ApprovesContext b sessionId runId contextHash) :
    ToldApproved P S sessionId runId contextHash e := by
  obtain ⟨g, endpoint, body, hadmitted, hreply, -, hmem, hans⟩ := exists_of_part h hb
  obtain ⟨env, envelope, govTxId, content, rfl, rfl, rfl, rfl⟩ := happ
  obtain ⟨rfl, hparse, rfl, rfl⟩ := context_of_mem hmem
  have hcalled : (result (Pipeline.inboundContext P ((e.1.env.part 1).part 0) envelope
      (newGovTxId (e.1.env.part 0))) g.pipeline).1 = .ok (.approved content) :=
    (Answer.context.inj hans).symm
  obtain ⟨v, hverdict⟩ : ∃ v, (result (Pipeline.inboundContext P ((e.1.env.part 1).part 0)
      envelope (newGovTxId (e.1.env.part 0))) g.pipeline).2.verdictLedger.approvedVerdictId
        (newGovTxId (e.1.env.part 0)) envelope.sessionId = some v := by
    rcases Pipeline.inboundContext_ledger P ((e.1.env.part 1).part 0)
      (newGovTxId (e.1.env.part 0)) envelope g.pipeline with
      ⟨error, herror, -⟩ | ⟨-, r, signal, hr, hsignal, hledger⟩
    · rw [hcalled] at herror
      cases herror
    · obtain rfl := Except.ok.inj (hcalled.symm.trans hr)
      have happroved : (EnforcementResult.approved content).isApproved = true := rfl
      rw [if_pos happroved] at hledger
      rw [hledger, ← hsignal.1]
      exact ⟨_, Finmap.lookup_insert _⟩
  have hanswer : (answer P K S V e.1 g body .contextInspect).1 = some (.jsonResponse
      (contextReply envelope (some v) (newGovTxId (e.1.env.part 0))
        (EvidenceGovernedPipeline.inboundContextWithIdentityAndEvidence P K (e.1.env.part 1)
          e.1.fault g envelope (newGovTxId (e.1.env.part 0))).1.2
        (.ok (.approved content)))) := by
    simp only [answer, hparse]
    rw [← hcalled, ← hverdict]
    rfl
  exact ⟨body, _, ⟨hadmitted, hreply.trans hanswer⟩, rfl, rfl, rfl, rfl⟩

/-! ### Where a consumption comes from -/

/-- The server before its first connection. -/
def Started (g : EvidenceGovernedPipeline) : Prop :=
  ∃ config evaluator crypto strategicMemory govmem authority, g.pipeline =
    (result (Pipeline.configureOperatorResetAuthority authority)
      (Pipeline.new config evaluator crypto strategicMemory govmem)).2

lemma Started.provenance (h : Started g) : Pipeline.Provenance [] g.pipeline := by
  obtain ⟨config, evaluator, crypto, strategicMemory, govmem, authority, heq⟩ := h
  obtain ⟨_, hset⟩ := Pipeline.configureOperatorResetAuthority_snd
    (p := Pipeline.new config evaluator crypto strategicMemory govmem) authority
  have hnew : Pipeline.Provenance []
      (Pipeline.new config evaluator crypto strategicMemory govmem) := Pipeline.provenance_new
  rw [heq, hset]
  exact ⟨hnew.approved, hnew.decision, hnew.token⟩

/-- An authorized consumption, in the state in which it was answered. -/
lemma token_of_consume {x : Execution} {body : Str} {r : Response}
    (h : AnsweredAt P S e x.consume body r) (hr : r.status = 200)
    (hreply : e.2 = (respond P K S V g e.1).1) :
    ∃ value b t, V.parseValue body = some value ∧ x.binding P S g.pipeline value = .ok b ∧
      r.text "capability_id" = some b.tokenId ∧
      (g.pipeline.consumeProviderCapability P (e.1.env.part 0).now b).1 = .authorized ∧
      g.pipeline.capabilityStore.capabilities.lookup b.tokenId = some t ∧
      CapabilityStore.Matches t b := by
  rw [h.reply, respond_of_admitted h.admitted] at hreply
  obtain ⟨value, b, hvalue, hb⟩ := binding_of_consume hreply.symm hr
  obtain ⟨r', hanswer, hid, hstatus⟩ := answer_consume (K := K) x hvalue hb
  obtain rfl : r = r' := Reply.jsonResponse.inj (Option.some.inj (hreply.trans hanswer))
  have hauth := hstatus.mp hr
  rcases CapabilityStore.consume_cases P g.pipeline.capabilityStore (e.1.env.part 0).now b with
    ⟨hno, -⟩ | ⟨t, ht, hrefusal, -⟩
  · exact absurd hauth hno
  · obtain ⟨-, -, -, hm⟩ := CapabilityStore.refusal_eq_none.mp hrefusal
    exact ⟨value, b, t, hvalue, hb, hid, hauth, ht, hm⟩

/-! A run of three connections: the context "hi" is approved, its provider is authorized and the
capability is consumed. -/

def fixedInspection : Connection :=
  fixedConnection 0 "/context/inspect" (text (fixedContext "hi").tree)

def fixedAuthorization : Connection :=
  fixedConnection 1 "/provider/authorize" (text (echo (fixedContext "hi")))

/-- What the authorization is answered with, presented. -/
def fixedPresentation : JsonTree :=
  .object
    [("capability_id", .string ("CAP-" ++ (fixedSupply 0 1).fresh.simple)),
      ("gov_tx_id", .string "tx"), ("session_id", .string "s"), ("backend", .string "b"),
      ("model", .string "m"), ("context_hash", .string fixedHash), ("run_id", .string "r")]

def fixedConsumption : Connection :=
  fixedConnection 2 "/provider/consume" (text fixedPresentation)

lemma started_fixedStarted : Started fixedStarted := ⟨_, _, _, _, _, fixedAuthority, rfl⟩

/-- The server on the fixed surroundings. -/
def fixedRespond :=
  respond silentPlatform (fixedKeys _) fixedService treeSerde

def fixedApproved : EvidenceGovernedPipeline := (fixedRespond fixedStarted fixedInspection).2

def fixedAuthorized : EvidenceGovernedPipeline := (fixedRespond fixedApproved fixedAuthorization).2

def Reply.tree : Reply → Option Response
  | .jsonResponse r => some r
  | _ => none

lemma Reply.eq_of_tree {o : Option Reply} {r : Response} (h : o.bind Reply.tree = some r) :
    o = some (.jsonResponse r) := by
  obtain ⟨reply, rfl, hreply⟩ := Option.bind_eq_some_iff.mp h
  cases reply with
  | jsonResponse r' => exact congrArg (some ∘ Reply.jsonResponse) (Option.some.inj hreply)
  | _ => cases hreply

/-- The authorization hands out what is then presented, and the consumption is answered with 200. -/
lemma fixed_replies :
    (((fixedRespond fixedApproved fixedAuthorization).1.bind Reply.tree).map fun r =>
        (r.status, Execution.provider.keys.map r.text)) =
      some (200, Execution.provider.keys.map (optionalJsonString fixedPresentation)) ∧
    ((fixedRespond fixedAuthorized fixedConsumption).1.bind Reply.tree).map (·.status) =
      some 200 := by decide +kernel

lemma fixed_admitted :
    admitted silentPlatform fixedService fixedAuthorization.received =
      some (Execution.provider.authorize, text (echo (fixedContext "hi"))) ∧
    admitted silentPlatform fixedService fixedConsumption.received =
      some (Execution.provider.consume, text fixedPresentation) := by decide +kernel

lemma fixed_run : (web silentPlatform (fixedKeys _) fixedService treeSerde).Run fixedStarted
    [(fixedInspection, (fixedRespond fixedStarted fixedInspection).1),
      (fixedAuthorization, (fixedRespond fixedApproved fixedAuthorization).1),
      (fixedConsumption, (fixedRespond fixedAuthorized fixedConsumption).1)]
    (fixedRespond fixedAuthorized fixedConsumption).2 :=
  ((System.Run.nil.snoc fixedInspection).snoc fixedAuthorization).snoc fixedConsumption

/-- **Every consumption comes from an approval.** In every run of the server, a consumption that
is answered with 200 was preceded by an authorization of its kind whose reply says all that the
request presents, and that by a reply that the context was approved for this run and session. -/
theorem consumed_was_handedOut (h₀ : Started g₀) {es as bs : List (Connection × Option Reply)}
    (h : (web P K S V).Run g₀ es g) (hes : es = as ++ e :: bs) {x : Execution} {body : Str}
    {r : Response} (hconsumed : AnsweredAt P S e x.consume body r) (hr : r.status = 200) :
    ∃ value, V.parseValue body = some value ∧ ∃ as₁ e₁ as₂ body₁ r₁, as = as₁ ++ e₁ :: as₂ ∧
      AnsweredAt P S e₁ x.authorize body₁ r₁ ∧ r₁.status = 200 ∧
      (∀ key ∈ x.keys, r₁.text key = some (presented value key)) ∧
      ∃ e₀ ∈ as₁, ToldApproved P S (presented value "session_id") (presented value "run_id")
        (presented value "context_hash") e₀ := by
  obtain ⟨g', hrun, hreply⟩ := h.split hes
  obtain ⟨value, b, t, hvalue, hb, -, -, ht, hm⟩ := token_of_consume hconsumed hr hreply
  obtain ⟨parts, hparts, hinner⟩ := hrun.blocks (respond_pipeline P K S V)
  have hprov := Pipeline.run_provenance h₀.provenance hinner
  obtain ⟨before, issue, after, t', hsplit, ⟨b₀, hb₀, happ⟩, ⟨hauthority, hans⟩, hid, hscope⟩ :=
    hprov.token _ t ht
  have hm' : CapabilityStore.Matches t' b := hm.congr hscope
  obtain ⟨hx, hfields⟩ := Execution.presented_fields hb hid hm'
  obtain ⟨as₁, e₁, as₂, parts₁, front, back, rfl, hparts₁, rfl, hpart⟩ :=
    split_flatten hparts hsplit
  obtain ⟨y, body₁, receipt, hy, hanswered⟩ := exists_handsOut_of_part hpart (by simp) hans
  obtain rfl : y = x :=
    Execution.authority_injective (Option.some.inj (hy.symm.trans (hauthority.trans (by rw [hx]))))
  -- the part of a connection is one operation, so the approval belongs to an earlier connection
  have hfront : front = [] := by
    obtain ⟨_, _, _, -, -, hone, -⟩ := exists_of_part hpart
      (List.mem_append_right front List.mem_cons_self)
    have hlength := congrArg List.length hone
    rw [List.length_append, List.length_cons, List.length_singleton] at hlength
    exact List.length_eq_zero_iff.mp (by omega)
  rw [hfront, List.append_nil] at hb₀
  obtain ⟨e₀, he₀, part₀, hpart₀, hmem₀⟩ := exists_of_mem_flatten hparts₁ hb₀
  have htold := toldApproved_of_part hpart₀ hmem₀ happ
  refine ⟨value, hvalue, as₁, e₁, as₂, body₁, _, rfl, hanswered, ?_, ?_, e₀, he₀, ?_⟩
  · cases y <;> rfl
  · intro key hkey
    rw [← y.map_fst_fields t'] at hkey
    obtain ⟨f, hf, rfl⟩ := List.mem_map.mp hkey
    rw [hfields f hf]
    exact y.text_reply receipt t' f hf
  · have hsession : presented value "session_id" = t'.sessionId :=
      hfields ("session_id", t'.sessionId) (by cases y <;> simp [Execution.fields])
    have hrun' : presented value "run_id" = t'.runId :=
      hfields ("run_id", t'.runId) (by cases y <;> simp [Execution.fields])
    have hhash : presented value "context_hash" = t'.contextHash :=
      hfields ("context_hash", t'.contextHash) (by cases y <;> simp [Execution.fields])
    rw [hsession, hrun', hhash, hscope]
    exact htold

theorem consumed_was_handedOut_fixed : ∃ r : Response, r.status = 200 ∧
    ∃ value, treeSerde.parseValue (text fixedPresentation) = some value ∧
      ∃ as₁ e₁ as₂ body₁ r₁,
        [(fixedInspection, (fixedRespond fixedStarted fixedInspection).1),
          (fixedAuthorization, (fixedRespond fixedApproved fixedAuthorization).1)] =
            as₁ ++ e₁ :: as₂ ∧
        AnsweredAt silentPlatform fixedService e₁ Execution.provider.authorize body₁ r₁ ∧
        r₁.status = 200 ∧
        (∀ key ∈ Execution.provider.keys, r₁.text key = some (presented value key)) ∧
        ∃ e₀ ∈ as₁, ToldApproved silentPlatform fixedService (presented value "session_id")
          (presented value "run_id") (presented value "context_hash") e₀ := by
  obtain ⟨r, htree, hr⟩ := Option.map_eq_some_iff.mp fixed_replies.2
  have hreply := Reply.eq_of_tree htree
  have hrun := fixed_run
  generalize (fixedRespond fixedAuthorized fixedConsumption).2 = g at hrun
  generalize (fixedRespond fixedAuthorized fixedConsumption).1 = o₃ at hreply hrun
  generalize (fixedRespond fixedApproved fixedAuthorization).1 = o₂ at hrun ⊢
  generalize (fixedRespond fixedStarted fixedInspection).1 = o₁ at hrun ⊢
  have hsplit : [(fixedInspection, o₁), (fixedAuthorization, o₂), (fixedConsumption, o₃)] =
      [(fixedInspection, o₁), (fixedAuthorization, o₂)] ++ (fixedConsumption, o₃) :: [] := rfl
  have hanswered : AnsweredAt silentPlatform fixedService (fixedConsumption, o₃)
      Execution.provider.consume (text fixedPresentation) r := ⟨fixed_admitted.2, hreply⟩
  exact ⟨r, hr, consumed_was_handedOut started_fixedStarted hrun hsplit hanswered hr⟩

/-! ### What a capability is good for -/

/-- A connection consumes a token exactly when its part of the pipeline does. -/
lemma consumes_iff_of_part (h : PartOf P K S V g₀ e part) : Consumes P S tid e ↔
    ∃ b ∈ part, Pipeline.consumesToken tid b = true := by
  constructor
  · rintro ⟨x, body, r, hanswered, hr, hid⟩
    obtain ⟨g, -, hreply, rfl⟩ := h
    obtain ⟨value, b, t, hvalue, hb, hid', hauth, -, -⟩ := token_of_consume hanswered hr hreply
    have hasks : asks P S V g e.1 = [.consumeProviderCapability (e.1.env.part 0).now b] := by
      unfold asks
      rw [hanswered.admitted]
      have hbound : (V.parseValue body).map (x.binding P S g.pipeline) = some (.ok b) := by
        rw [hvalue, Option.map_some, hb]
      cases x <;> simp only [Execution.binding] at hbound <;>
        simp only [Execution.consume, Endpoint.asks, consumeAsks, hbound]
    refine ⟨_, by rw [hasks]; exact List.mem_singleton.mpr rfl,
      Pipeline.consumesToken_iff.mpr
        ⟨(e.1.env.part 0).now, b, ?_, Option.some.inj (hid'.symm.trans hid)⟩⟩
    exact congrArg (Prod.mk _) (congrArg Answer.consumed hauth)
  · rintro ⟨b, hb, hconsumes⟩
    obtain ⟨now, binding, rfl, rfl⟩ := Pipeline.consumesToken_iff.mp hconsumes
    obtain ⟨g, endpoint, body, hadmitted, hreply, -, hmem, hans⟩ := exists_of_part h hb
    obtain ⟨x, rfl, rfl, value, hvalue, hbinding⟩ := consume_of_mem hmem
    obtain ⟨r, hanswer, hid, hstatus⟩ := answer_consume (K := K) x hvalue hbinding
    exact ⟨x, body, r, ⟨hadmitted, hreply.trans hanswer⟩,
      hstatus.mpr (Answer.consumed.inj hans).symm, hid⟩

/-- What a part asks is under the policy of the server. -/
lemma asksUnder_of_part (h : PartOf P K S V g₀ e part) (hb : b ∈ part) :
    b.1.AsksUnder (runtimePolicyHash P S) := by
  obtain ⟨g, endpoint, body, -, -, -, hmem, -⟩ := exists_of_part h hb
  obtain ⟨op, answer⟩ := b
  dsimp only at hmem ⊢
  cases op with
  | authorizeProviderExecution env req =>
    obtain ⟨x, -, hdecides⟩ := decides_of_mem hmem (.provider env req [])
    exact hdecides.policyHash
  | authorizeActionExecution env req =>
    obtain ⟨x, -, hdecides⟩ := decides_of_mem hmem (.action env req [] [] .allow 0)
    exact hdecides.policyHash
  | _ => trivial

/-- **What an authorization hands out** is stored, unused and under the server's own identity. -/
lemma handedOut_of_authorize (hprov : ∃ hist, Pipeline.Provenance hist g.pipeline)
    (hunder : Pipeline.DecidedUnder (runtimePolicyHash P S) g.pipeline) {x : Execution}
    {body : Str} {r : Response} (h : AnsweredAt P S e x.authorize body r) (hr : r.status = 200)
    (hreply : e.2 = (respond P K S V g e.1).1) :
    ∃ t receipt, r = x.reply S receipt t ∧ HandedOut P S g.pipeline x t ∧
      CapabilityStore.Issued P ((e.1.env.part 0).part 1)
        g.pipeline.capabilityStore.defaultTtlSecs t ∧
      (respond P K S V g e.1).2.pipeline.capabilityStore.capabilities.lookup t.tokenId =
        some t := by
  have hpipeline := respond_pipeline P K S V g e.1
  unfold asks at hpipeline
  rw [h.reply, respond_of_admitted h.admitted] at hreply
  obtain ⟨op, t, receipt, hmem, hok, rfl⟩ := token_of_authorize hreply.symm hr
  rw [h.admitted] at hpipeline
  dsimp only at hpipeline
  rw [asks_of_mem hmem] at hpipeline
  refine ⟨t, receipt, rfl, ?_⟩
  rcases Pipeline.step_store P g.pipeline op with hleft | ⟨env, req, hasks, hm⟩ | ⟨_, _, rfl⟩
  · have hno := hleft.answers t.tokenId
    rw [Pipeline.answersToken_iff.mpr ⟨t, hok, rfl⟩] at hno
    cases hno
  · obtain ⟨y, hy, hdecides⟩ := decides_of_mem hmem hasks
    obtain rfl : x = y := by
      cases x <;> cases y <;> first | rfl | cases hy
    obtain ⟨hist, hprov⟩ := hprov
    have hserves := hm.serves hprov.decision hok
    have hauthorized := hm.answers_iff.mp hok
    have hrepeats := CapabilityStore.authorize_repeats hauthorized
    refine ⟨⟨hserves.authority.trans hdecides.authority,
      hrepeats.principal.trans hdecides.principal,
      hrepeats.policyVersion.trans hdecides.policyVersion,
      Pipeline.policyHash_of_authorize hauthorized hdecides.policyHash hunder, fun hx => ?_⟩, ?_⟩
    · obtain ⟨hbackend, hmodel, hplane⟩ := hdecides.ofAction hx
      exact ⟨hrepeats.backend.trans hbackend, hrepeats.model.trans hmodel,
        hrepeats.actionPlane.trans (by rw [hplane, hrepeats.toolName])⟩
    · rw [hdecides.supply] at hauthorized hm
      rcases (CapabilityStore.authorize_tokens P (e.1.env.part 0) g.pipeline.capabilityStore
        req).2 with ⟨hno, -⟩ | ⟨t', hok', hissued, hcaps⟩
      · exact absurd hauthorized (hno t)
      · obtain rfl : t = t' := Except.ok.inj (Option.some.inj (hauthorized.symm.trans hok'))
        refine ⟨hissued, ?_⟩
        rw [hpipeline]
        change (Pipeline.step P g.pipeline op).2.capabilityStore.capabilities.lookup t.tokenId = _
        rw [hm.store, hcaps]
        exact Finmap.lookup_insert _
  · cases hok

lemma Started.decidesUnder (h : Started g) :
    g.pipeline.capabilityStore.defaultTtlSecs = 30 ∧
      Pipeline.DecidedUnder (runtimePolicyHash P S) g.pipeline := by
  obtain ⟨config, evaluator, crypto, strategicMemory, govmem, authority, heq⟩ := h
  obtain ⟨_, hset⟩ := Pipeline.configureOperatorResetAuthority_snd
    (p := Pipeline.new config evaluator crypto strategicMemory govmem) authority
  rw [heq, hset]
  refine ⟨rfl, fun id d hd => ?_⟩
  have hnone : (∅ : HashMap Str Decision).lookup id = some d := hd
  simp at hnone

/-- **A capability is good for one use in thirty seconds.** In every run of the server, let an
authorization hand out a capability whose id is not handed out again, and let a later request to
consume present, trimmed, what the reply says. Then it is answered with 200 exactly when the
capability has not expired, which is thirty seconds after it was issued, and no connection in
between consumed it. -/
theorem handedOut_consumed_iff (hsign : SignsCorrectly P) (h₀ : Started g₀)
    {es as bs cs : List (Connection × Option Reply)} {e' : Connection × Option Reply}
    (h : (web P K S V).Run g₀ es g) (hes : es = as ++ e :: (bs ++ e' :: cs)) {x : Execution}
    {body body' : Str} {r r' : Response} {value : JsonTree}
    (hout : AnsweredAt P S e x.authorize body r) (hr : r.status = 200)
    (hfresh : ∀ e ∈ bs, ∀ y tid, r.text "capability_id" = some tid → ¬ HandsOut P S y tid e)
    (hback : AnsweredAt P S e' x.consume body' r') (hvalue : V.parseValue body' = some value)
    (hechoes : ∀ key ∈ x.keys, optionalJsonString value key = r.text key) :
    ∃ tid expiresAt, r.text "capability_id" = some tid ∧
      addSeconds ((e.1.env.part 0).part 1).now 30 = some expiresAt ∧
      r.text "expires_at" = some (S.writeInstant expiresAt) ∧
      (r'.status = 200 ↔
        (e'.1.env.part 0).now < expiresAt ∧ ∀ e ∈ bs, ¬ Consumes P S tid e) := by
  obtain ⟨g₁, hrun₁, hreply₁, hrest⟩ := h.split_run hes
  obtain ⟨g₂, hrun₂, hreply₂, -⟩ := hrest.split_run rfl
  -- the state that hands the capability out
  obtain ⟨parts₁, hparts₁, hinner₁⟩ := hrun₁.blocks (respond_pipeline P K S V)
  obtain ⟨httl₀, hunder₀⟩ := h₀.decidesUnder (P := P) (S := S)
  have hunder₁ := Pipeline.run_decidedUnder hunder₀ hinner₁ fun b hb => by
    obtain ⟨_, -, _, hpart, hb'⟩ := exists_of_mem_flatten hparts₁ hb
    exact asksUnder_of_part hpart hb'
  have httl₁ : g₁.pipeline.capabilityStore.defaultTtlSecs = 30 :=
    (congrArg Prod.snd (Pipeline.run_decidesUnder hinner₁)).trans httl₀
  obtain ⟨t, receipt, rfl, hhanded, hissued, hstored⟩ := handedOut_of_authorize
    ⟨_, Pipeline.run_provenance h₀.provenance hinner₁⟩ hunder₁ hout hr hreply₁
  rw [httl₁] at hissued
  have hid : (x.reply S receipt t).text "capability_id" = some t.tokenId := by cases x <;> rfl
  -- the capability when it is presented
  obtain ⟨parts₂, hparts₂, hinner₂⟩ := hrun₂.blocks (respond_pipeline P K S V)
  have hkept := Pipeline.run_token hinner₂ hstored fun b hb => by
    obtain ⟨e₁, he₁, _, hpart, hb'⟩ := exists_of_mem_flatten hparts₂ hb
    rw [Bool.eq_false_iff]
    intro hanswers
    obtain ⟨t', ht', htid⟩ := Pipeline.answersToken_iff.mp hanswers
    obtain ⟨y, body₁, receipt', -, hanswered⟩ := exists_handsOut_of_part hpart hb' ht'
    refine hfresh e₁ he₁ y t.tokenId hid ⟨body₁, _, hanswered, by cases y <;> rfl, ?_⟩
    rw [← htid]
    cases y <;> rfl
  have hversion : g₂.pipeline.activePolicyVersion = g₁.pipeline.activePolicyVersion := by
    have hstep := Pipeline.run_decidesUnder
      (System.Run.of_exec (M := Pipeline.system P) g₁.pipeline (asks P S V g₁ e.1))
    rw [← respond_pipeline] at hstep
    have hunder := (Pipeline.run_decidesUnder hinner₂).trans hstep
    unfold Pipeline.activePolicyVersion
    rw [show g₂.pipeline.constitutionalEvaluator = g₁.pipeline.constitutionalEvaluator from
      congrArg Prod.fst hunder]
  -- the request presents a binding that matches it
  have hechoes' : ∀ f ∈ x.fields t, optionalJsonString value f.1 = some f.2 := fun f hf => by
    rw [hechoes f.1 (by rw [← x.map_fst_fields t]; exact List.mem_map_of_mem hf)]
    exact x.text_reply receipt t f hf
  obtain ⟨b, hb, htid, hm⟩ := Execution.exists_binding
    (p := g₂.pipeline) { hhanded with policyVersion := hhanded.policyVersion.trans hversion.symm }
    hechoes'
  obtain ⟨r'', hanswer, -, hstatus⟩ := answer_consume (K := K) (c := e'.1) x hvalue hb
  have hreply' : some (Reply.jsonResponse r') = (respond P K S V g₂ e'.1).1 :=
    hback.reply.symm.trans hreply₂
  rw [respond_of_admitted hback.admitted, hanswer] at hreply'
  obtain rfl := Reply.jsonResponse.inj (Option.some.inj hreply')
  have hkept' : g₂.pipeline.capabilityStore.capabilities.lookup b.tokenId = some { t with
      useCount := t.useCount + parts₂.flatten.countP (Pipeline.consumesToken t.tokenId) } := by
    rw [htid]
    exact hkept
  refine ⟨t.tokenId, t.expiresAt, hid, hissued.expires, by cases x <;> rfl, hstatus.trans ?_⟩
  refine (CapabilityStore.consume_authorized_iff hkept').trans
    (CapabilityStore.refusal_eq_none.trans ?_)
  have hcount : t.useCount + parts₂.flatten.countP (Pipeline.consumesToken t.tokenId) <
      t.maxUses ↔ ∀ e ∈ bs, ¬ Consumes P S t.tokenId e := by
    rw [hissued.unused, hissued.single, Nat.zero_add, Nat.lt_one_iff, List.countP_eq_zero]
    constructor
    · intro hnone e₁ he₁ hconsumes
      obtain ⟨part, hmem, hpart⟩ := exists_block_of_mem hparts₂ he₁
      obtain ⟨b₁, hb₁, hb₁'⟩ := (consumes_iff_of_part hpart).mp hconsumes
      exact hnone b₁ (List.mem_flatten.mpr ⟨part, hmem, hb₁⟩) hb₁'
    · intro hnone b₁ hb₁ hb₁'
      obtain ⟨e₁, he₁, part, hpart, hmem⟩ := exists_of_mem_flatten hparts₂ hb₁
      exact hnone e₁ he₁ ((consumes_iff_of_part hpart).mpr ⟨b₁, hmem, hb₁'⟩)
  constructor
  · rintro ⟨-, hunused, hlive, -⟩
    exact ⟨hlive, hcount.mp hunused⟩
  · rintro ⟨hlive, hunused⟩
    exact ⟨hissued.genuine hsign, hcount.mpr hunused, hlive, hm.congr rfl⟩

theorem handedOut_consumed_iff_fixed : ∃ r r' : Response, r'.status = 200 ∧
    ∃ tid expiresAt, r.text "capability_id" = some tid ∧
      addSeconds (((fixedSupply 0 1).part 0).part 1).now 30 = some expiresAt ∧
      r.text "expires_at" = some (fixedService.writeInstant expiresAt) ∧
      (r'.status = 200 ↔ ((fixedSupply 0 2).part 0).now < expiresAt ∧
        ∀ e ∈ ([] : List (Connection × Option Reply)),
          ¬ Consumes silentPlatform fixedService tid e) := by
  obtain ⟨r, htree, hr⟩ := Option.map_eq_some_iff.mp fixed_replies.1
  obtain ⟨r', htree', hr'⟩ := Option.map_eq_some_iff.mp fixed_replies.2
  obtain ⟨hr, hkeys⟩ := Prod.mk.inj hr
  have hreply := Reply.eq_of_tree htree
  have hreply' := Reply.eq_of_tree htree'
  have hrun := fixed_run
  generalize (fixedRespond fixedAuthorized fixedConsumption).2 = g at hrun
  generalize (fixedRespond fixedAuthorized fixedConsumption).1 = o₃ at hreply' hrun
  generalize (fixedRespond fixedApproved fixedAuthorization).1 = o₂ at hreply hrun
  generalize (fixedRespond fixedStarted fixedInspection).1 = o₁ at hrun
  have hsplit : [(fixedInspection, o₁), (fixedAuthorization, o₂), (fixedConsumption, o₃)] =
      [(fixedInspection, o₁)] ++ (fixedAuthorization, o₂) ::
        ([] ++ (fixedConsumption, o₃) :: []) := rfl
  have hout : AnsweredAt silentPlatform fixedService (fixedAuthorization, o₂)
      Execution.provider.authorize (text (echo (fixedContext "hi"))) r :=
    ⟨fixed_admitted.1, hreply⟩
  have hback : AnsweredAt silentPlatform fixedService (fixedConsumption, o₃)
      Execution.provider.consume (text fixedPresentation) r' := ⟨fixed_admitted.2, hreply'⟩
  have hvalue : treeSerde.parseValue (text fixedPresentation) = some fixedPresentation := by
    refine SerdeJson.parse_text (.object fun entry hentry => ?_)
    simp only [List.mem_cons, List.not_mem_nil, or_false] at hentry
    rcases hentry with rfl | rfl | rfl | rfl | rfl | rfl | rfl <;> exact .string _
  exact ⟨r, r', hr', handedOut_consumed_iff (fun _ => rfl) started_fixedStarted hrun hsplit hout
    hr (fun _ he => absurd he List.not_mem_nil) hback hvalue
    fun key hkey => (List.map_inj_left.mp hkeys key hkey).symm⟩

end Connections

end GovSec.Server
