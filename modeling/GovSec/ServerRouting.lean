import GovSec.Lib.Blocks
import GovSec.EnvelopeSerde
import GovSec.ServerAuthority
import GovSec.ServerEndpoints

/-!
The server on a connection: the check of the token, the route and the handler.

What a connection asks of the pipeline is said once, endpoint by endpoint, so that a run of
connections is seen as a run of the pipeline.
-/

namespace GovSec.Server

open GovSec.Lib.Text GovSec.Lib.Maps GovSec.Lib.Actions GovSec.Lib.Runs GovSec.Lib.JsonText
open GovSec.SerdeJson

/-! ### Routes -/

inductive Endpoint
  | health
  | inspect
  | outbound
  | contextInspect
  | providerAuthorize
  | providerConsume
  | actionAuthorize
  | actionConsume
  | sessionState (sid : Str)
  | sessionReset
  | sessionStart
  | sessionEnd
  | evidence
  | audit
  | notFound
  deriving DecidableEq

def route (method path : Str) : Endpoint :=
  if method = "GET" ∧ path = "/health" then .health
  else if method = "POST" ∧ path = "/inspect" then .inspect
  else if method = "POST" ∧ path = "/outbound" then .outbound
  else if method = "POST" ∧ path = "/context/inspect" then .contextInspect
  else if method = "POST" ∧ path = "/provider/authorize" then .providerAuthorize
  else if method = "POST" ∧ path = "/provider/consume" then .providerConsume
  else if method = "POST" ∧ path = "/action/authorize" then .actionAuthorize
  else if method = "POST" ∧ path = "/action/consume" then .actionConsume
  else if method = "GET" ∧ isStatePath path then .sessionState (statePathSession path)
  else if method = "POST" ∧ path = "/session/reset" then .sessionReset
  else if method = "POST" ∧ path = "/session/start" then .sessionStart
  else if method = "POST" ∧ path = "/session/end" then .sessionEnd
  else if method = "GET" ∧ path = "/evidence" then .evidence
  else if method = "GET" ∧ ("/audit" : Str).isPrefixOf path then .audit
  else .notFound

/-- What a connection brings, with the draws, the fault and the state of the disk for its call. -/
structure Connection where
  env : Supply
  fault : Option EvidenceSinkError
  diskWrites : Bool
  received : Received

section Respond

variable (P : Platform) (K : KeyRing P) (S : Service) (V : Serde)

def tokenDigest (value : Str) : Digest := P.sha256 value

def authorized (headers : Headers) : Bool :=
  let provided := trim
    (((headers.lookup ("authorization" : Str)).bind (List.isPrefixOf? "Bearer ")).getD [])
  provided ≠ [] && tokenDigest P provided = tokenDigest P S.token

/-- The reply of an endpoint, unless its handler panics. -/
def answer (c : Connection) (g : EvidenceGovernedPipeline) (body : Str) :
    Endpoint → Option Reply × EvidenceGovernedPipeline
  | .health => (some (.okJson (healthBody g)), g)
  | .inspect =>
    match (V.parseValue body).map inspectFields with
    | some (.error error) => (some (.errJson 400 error), g)
    | _ => (handleInspect P c.env g (V.parseValue body)).map (some ∘ .jsonResponse) id
  | .outbound =>
    (handleOutbound P K c.env c.fault g (V.parseValue body)).map (some ∘ .jsonResponse) id
  | .contextInspect =>
    (handleContextInspect P K c.env c.fault g (V.parseEnvelope body)).map (some ∘ .jsonResponse) id
  | .providerAuthorize =>
    (handleProviderAuthorize P K S c.env c.fault g (V.parseValue body)).map
      (Option.map .jsonResponse) id
  | .providerConsume =>
    (handleProviderConsume P K S c.env c.fault g (V.parseValue body)).map
      (some ∘ .jsonResponse) id
  | .actionAuthorize =>
    (handleActionAuthorize P K S V c.env c.fault g (V.parseValue body)).map
      (Option.map .jsonResponse) id
  | .actionConsume =>
    (handleActionConsume P K S c.env c.fault g (V.parseValue body)).map
      (some ∘ .jsonResponse) id
  | .sessionState sid => (some (.okJson (sessionStateBody g.pipeline sid)), g)
  | .sessionReset => (handleSessionReset P c.env g (V.parseValue body)).map some id
  | .sessionStart => (some (handleSessionStart g.pipeline (V.parseValue body)), g)
  | .sessionEnd => (handleSessionEnd c.env c.diskWrites g (V.parseValue body)).map some id
  | .evidence => (some (.jsonResponse (evidenceResponse V g.evidence)), g)
  | .audit => (some (.okJson (auditBody g.pipeline.arbiter.auditLog)), g)
  | .notFound => (some (.errJson 404 "not found"), g)

/-- The reply to a connection; `none` is a connection that is closed without one. -/
def respond (g : EvidenceGovernedPipeline) (c : Connection) :
    Option Reply × EvidenceGovernedPipeline :=
  match c.received with
  | .dropped => (none, g)
  | .malformed msg => (some (.errJson 431 msg), g)
  | .request method path headers body =>
    if path ≠ "/health" ∧ authorized P S headers = false then
      (some (.errJson 401 "service authentication required"), g)
    else answer P K S V c g body (route method path)

/-- The server, one connection after the other. -/
def web : System EvidenceGovernedPipeline Connection (Option Reply) := ⟨respond P K S V⟩

/-- The endpoint and the body of a connection that gets past the check of the token. -/
def admitted : Received → Option (Endpoint × Str)
  | .request method path headers body =>
    if path ≠ "/health" ∧ authorized P S headers = false then none
    else some (route method path, body)
  | _ => none

/-- The reply to a connection that does not. -/
def refusal : Received → Option Reply
  | .dropped => none
  | .malformed msg => some (.errJson 431 msg)
  | .request _ _ _ _ => some (.errJson 401 "service authentication required")

variable {P K S V} {g : EvidenceGovernedPipeline} {c : Connection}

lemma respond_of_admitted {e : Endpoint} {body : Str}
    (h : admitted P S c.received = some (e, body)) :
    respond P K S V g c = answer P K S V c g body e := by
  unfold admitted at h
  split at h
  · next method path headers body' hreceived =>
    split at h
    · cases h
    · next hcheck =>
      cases h
      unfold respond
      rw [hreceived]
      exact if_neg hcheck
  · cases h

lemma respond_of_refused (h : admitted P S c.received = none) :
    respond P K S V g c = (refusal c.received, g) := by
  unfold admitted at h
  unfold respond
  split at h
  · next method path headers body' hreceived =>
    split at h
    · next hcheck =>
      rw [hreceived]
      exact if_pos hcheck
    · cases h
  · next hother =>
    split
    · next hreceived => rw [hreceived]; rfl
    · next msg hreceived => rw [hreceived]; rfl
    · next method path headers body hreceived => exact absurd hreceived (hother _ _ _ _)

/-! ### The pipeline behind the endpoints -/

variable (P K S V)

def consumeAsks (bindingOf : Pipeline → JsonTree → Except Str PresentedBinding) (c : Connection)
    (p : Pipeline) (body : Str) : List Pipeline.Op :=
  match (V.parseValue body).map (bindingOf p) with
  | some (.ok binding) => [.consumeProviderCapability (c.env.part 0).now binding]
  | _ => []

/-- What an endpoint asks of the pipeline: nothing, or one operation. -/
def Endpoint.asks (c : Connection) (p : Pipeline) (body : Str) : Endpoint → List Pipeline.Op
  | .inspect =>
    match (V.parseValue body).map inspectFields with
    | some (.ok (payload, sessionId)) =>
      [.inbound (c.env.part 1) payload sessionId (newGovTxId (c.env.part 0))]
    | _ => []
  | .outbound =>
    match (V.parseValue body).map outboundFields with
    | some (.ok (payload, sessionId, contextHash, runId)) =>
      if (p.resolveOutboundContextBinding contextHash sessionId runId).isOk then
        [.outbound (c.env.part 0) payload sessionId]
      else []
    | _ => []
  | .contextInspect =>
    match V.parseEnvelope body with
    | .ok envelope =>
      [.inboundContext ((c.env.part 1).part 0) envelope (newGovTxId (c.env.part 0))]
    | .error _ => []
  | .providerAuthorize =>
    match (V.parseValue body).map (providerRequest P S p) with
    | some (.ok req) => [.authorizeProviderExecution (c.env.part 0) req]
    | _ => []
  | .providerConsume => consumeAsks V (providerBinding P S) c p body
  | .actionAuthorize =>
    match (V.parseValue body).map (actionRequest P S V p) with
    | some (.ok req) => [.authorizeActionExecution (c.env.part 0) req]
    | _ => []
  | .actionConsume => consumeAsks V (actionBinding P S) c p body
  | .sessionReset =>
    match V.parseValue body with
    | some value =>
      match requiredJsonString value "session_id" with
      | .ok sid =>
        [.operatorReset c.env sid ((optionalJsonString value "operator_token").getD [])]
      | .error _ => []
    | none => []
  | .sessionEnd =>
    match V.parseValue body with
    | some value =>
      match requiredJsonString value "session_id" with
      | .ok sessionId =>
        [.endSession c.env c.diskWrites sessionId
          ((optionalJsonString value "actor_id").getD "anonymous")]
      | .error _ => []
    | none => []
  | _ => []

/-- What a connection asks of the pipeline. -/
def asks (g : EvidenceGovernedPipeline) (c : Connection) : List Pipeline.Op :=
  match admitted P S c.received with
  | some (e, body) => e.asks P S V c g.pipeline body
  | none => []

variable {P K S V}

lemma handleConsume_pipeline (bindingOf : Pipeline → JsonTree → Except Str PresentedBinding)
    (diagnostics : PresentedBinding → Bool → List (Str × JsonTree)) (body : Str) :
    (handleConsume P K bindingOf diagnostics c.env c.fault g (V.parseValue body)).2.pipeline =
      ((Pipeline.system P).exec g.pipeline (consumeAsks V bindingOf c g.pipeline body)).2 := by
  unfold handleConsume consumeAsks
  cases V.parseValue body with
  | none => rfl
  | some value =>
    simp only [Option.map_some]
    cases bindingOf g.pipeline value <;> rfl

lemma observeReturned_pipeline {α : Type} {env : Supply} {fault : Option EvidenceSinkError}
    {plane : EvidencePlane} (called : Option α × Pipeline)
    (evidence : α → EvidenceEventType × EvidencePayload) :
    (EvidenceGovernedPipeline.observeReturned P K env fault plane called evidence).2.pipeline =
      called.2 := by
  obtain ⟨_ | _, pipeline⟩ := called <;> rfl

/-- **An endpoint leaves the pipeline that its operation leaves.** -/
theorem answer_pipeline (c : Connection) (g : EvidenceGovernedPipeline) (body : Str)
    (e : Endpoint) : (answer P K S V c g body e).2.pipeline =
      ((Pipeline.system P).exec g.pipeline (e.asks P S V c g.pipeline body)).2 := by
  cases e with
  | inspect =>
    simp only [answer, Endpoint.asks, handleInspect]
    cases V.parseValue body with
    | none => rfl
    | some value =>
      simp only [Option.map_some]
      cases inspectFields value <;> rfl
  | outbound =>
    simp only [answer, Endpoint.asks, handleOutbound]
    cases V.parseValue body with
    | none => rfl
    | some value =>
      simp only [Option.map_some]
      cases outboundFields value with
      | error e => rfl
      | ok fields =>
        obtain ⟨payload, sessionId, contextHash, runId⟩ := fields
        simp only [EvidenceGovernedPipeline.outboundWithEvidence]
        cases hresolve : g.pipeline.resolveOutboundContextBinding contextHash sessionId runId with
        | error e => rfl
        | ok record =>
          -- the record is of the presented session
          rw [← EvidenceGovernedPipeline.session_of_resolveOutboundContextBinding hresolve]
          rfl
  | contextInspect =>
    simp only [answer, Endpoint.asks, handleContextInspect]
    cases V.parseEnvelope body <;> rfl
  | providerAuthorize =>
    simp only [answer, Endpoint.asks, handleProviderAuthorize]
    cases V.parseValue body with
    | none => rfl
    | some value =>
      simp only [Option.map_some]
      cases providerRequest P S g.pipeline value with
      | error e => rfl
      | ok req => exact observeReturned_pipeline _ _
  | providerConsume => exact handleConsume_pipeline (providerBinding P S) (fun _ _ => []) body
  | actionAuthorize =>
    simp only [answer, Endpoint.asks, handleActionAuthorize]
    cases V.parseValue body with
    | none => rfl
    | some value =>
      simp only [Option.map_some]
      cases actionRequest P S V g.pipeline value with
      | error e => rfl
      | ok req => exact observeReturned_pipeline _ _
  | actionConsume =>
    exact handleConsume_pipeline (actionBinding P S) actionConsumeDiagnostics body
  | sessionReset =>
    simp only [answer, Endpoint.asks, handleSessionReset]
    cases V.parseValue body with
    | none => rfl
    | some value =>
      dsimp only
      cases requiredJsonString value "session_id" with
      | error e => rfl
      | ok sid =>
        dsimp only
        generalize hcalled : result (Pipeline.operatorReset P c.env sid _) g.pipeline = called
        have hexec : ((Pipeline.system P).exec g.pipeline [.operatorReset c.env sid
            ((optionalJsonString value "operator_token").getD [])]).2 = called.2 :=
          congrArg Prod.snd hcalled
        rw [hexec]
        obtain ⟨_ | _, pipeline⟩ := called <;> rfl
  | sessionEnd =>
    simp only [answer, Endpoint.asks, handleSessionEnd]
    cases V.parseValue body with
    | none => rfl
    | some value =>
      dsimp only
      cases requiredJsonString value "session_id" <;> rfl
  | _ => rfl

variable (P K S V) in
/-- **A connection leaves the pipeline that its operation leaves.** -/
theorem respond_pipeline (g : EvidenceGovernedPipeline) (c : Connection) :
    (respond P K S V g c).2.pipeline =
      ((Pipeline.system P).exec g.pipeline (asks P S V g c)).2 := by
  unfold asks
  cases h : admitted P S c.received with
  | none => rw [respond_of_refused h]; rfl
  | some a => rw [respond_of_admitted h, answer_pipeline]

/-! ### Connections that change nothing -/

/-- The endpoint only tells of the state. -/
def Endpoint.isQuery : Endpoint → Bool
  | .health | .sessionState _ | .sessionStart | .evidence | .audit | .notFound => true
  | _ => false

lemma answer_of_isQuery {e : Endpoint} {body : Str} (h : e.isQuery = true) :
    (answer P K S V c g body e).2 = g := by
  cases e <;> first | rfl | cases h

variable (P S) in
def holdsToken (c : Connection) : Bool :=
  match c.received with
  | .request _ _ headers _ => authorized P S headers
  | _ => false

variable (P S) in
/-- A connection that holds the token and asks for more than a report. -/
def commands (c : Connection) : Bool :=
  holdsToken P S c &&
    match admitted P S c.received with
    | some (e, _) => !e.isQuery
    | none => false

/-- What a connection without the token is told. -/
inductive Public (g : EvidenceGovernedPipeline) : Option Reply → Prop
  | closed : Public g none
  | malformed (msg : Str) : Public g (some (.errJson 431 msg))
  | refused : Public g (some (.errJson 401 "service authentication required"))
  | health : Public g (some (.okJson (healthBody g)))
  | notFound : Public g (some (.errJson 404 "not found"))

/-- Only one route passes without the token. -/
lemma route_health (method : Str) : route method "/health" = .health ∨
    route method "/health" = .notFound := by
  by_cases hget : method = "GET"
  · left
    rw [hget]
    rfl
  · right
    have hpaths : ∀ path ∈ (["/inspect", "/outbound", "/context/inspect", "/provider/authorize",
        "/provider/consume", "/action/authorize", "/action/consume", "/session/reset",
        "/session/start", "/session/end"] : List Str), ("/health" : Str) ≠ path := by decide
    simp only [List.forall_mem_cons] at hpaths
    simp only [route, hget, hpaths, false_and, and_false, if_false]

lemma public_of_not_holdsToken (h : holdsToken P S c = false) :
    Public g (respond P K S V g c).1 ∧ (respond P K S V g c).2 = g := by
  cases hadmitted : admitted P S c.received with
  | none =>
    rw [respond_of_refused hadmitted]
    refine ⟨?_, rfl⟩
    unfold refusal
    split
    · exact .closed
    · exact .malformed _
    · exact .refused
  | some a =>
    obtain ⟨e, body⟩ := a
    have hreport : e = .health ∨ e = .notFound := by
      unfold admitted at hadmitted
      unfold holdsToken at h
      split at hadmitted
      · next method path headers body' hreceived =>
        rw [hreceived] at h
        split at hadmitted
        · cases hadmitted
        · next hcheck =>
          have hpath : path = "/health" := by
            by_contra hne
            exact hcheck ⟨hne, h⟩
          cases hadmitted
          rw [hpath]
          exact route_health method
      · cases hadmitted
    rw [respond_of_admitted hadmitted]
    rcases hreport with rfl | rfl
    · exact ⟨.health, rfl⟩
    · exact ⟨.notFound, rfl⟩

lemma respond_of_not_commands (h : commands P S c = false) : (respond P K S V g c).2 = g := by
  rw [commands, Bool.and_eq_false_iff] at h
  rcases h with h | h
  · exact (public_of_not_holdsToken h).2
  · cases hadmitted : admitted P S c.received with
    | none => rw [respond_of_refused hadmitted]
    | some a =>
      obtain ⟨e, body⟩ := a
      rw [hadmitted, Bool.not_eq_false'] at h
      rw [respond_of_admitted hadmitted, answer_of_isQuery h]

variable (P K S V) in
/-- **Only commands that hold the token count**: without all other connections a run gives the same
replies to the commands and ends in the same state. And at every moment a connection without the
token is told nothing but an error or the report of the server's health. -/
theorem only_commands_count (g : EvidenceGovernedPipeline) (cs : List Connection) :
    (web P K S V).exec g (cs.filter (commands P S)) =
        (((web P K S V).exec g cs).1.filter fun e => commands P S e.1,
          ((web P K S V).exec g cs).2) ∧
      (web P K S V).Always
        (fun g c => holdsToken P S c = false → Public g ((web P K S V).step g c).1) g cs :=
  ⟨System.exec_filter (fun _ _ h => respond_of_not_commands h) g cs,
    System.always_of_forall (fun _ _ h => (public_of_not_holdsToken h).1) g cs⟩

end Respond

/-! ### A server on fixed surroundings -/

/-- Bodies as trees. -/
def treeSerde : Serde where
  parseValue := parse
  parseNumber raw := .int (digitsValue raw)
  parseEnvelope body := (ModelContextEnvelope.readText body).elim (.error "invalid") .ok
  toRfc3339 _ := []

def fixedConnection (seed : Fin 16) (path body : Str) : Connection where
  env := fixedSupply 0 seed
  fault := none
  diskWrites := true
  received := .request "POST" path (Finmap.singleton "authorization" "Bearer t") body

def fixedAuthority : OperatorResetAuthority := ⟨List.replicate 64 't', by decide⟩

def fixedStarted : EvidenceGovernedPipeline where
  pipeline := (result (Pipeline.configureOperatorResetAuthority fixedAuthority)
    (Pipeline.fixedPipeline .default)).2
  evidence := EvidenceGovernedPipeline.fixedGoverned.evidence

end GovSec.Server
