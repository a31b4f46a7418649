import GovSec.PipelineRuns

/-!
Refused operations. Every check of an operation that may refuse comes before its first change
of state; a denied reset alone leaves a trace, in the audit log and in the hash chain.
-/

namespace GovSec

open GovSec.Lib.Text GovSec.Lib.Maps GovSec.Lib.Actions GovSec.Lib.Runs

namespace CapabilityStore

variable {P : Platform} {env : Supply} {s : CapabilityStore} {req : DecisionRequest}

/-- A refused authorization has recorded no decision: of a new one the store issues the token. -/
lemma authorize_error_snd {e : AuthorizationError}
    (h : (authorize P env s req).1 = some (.error e)) : (authorize P env s req).2 = s := by
  rcases authorize_cases P env s req with ⟨-, heq⟩ | ⟨id, s₁, hr, ⟨-, heq⟩ | ⟨t, s₂, -, heq⟩⟩
  · exact heq
  · rcases recordDecision_cases hr with ⟨_, hid, -⟩ | ⟨_, _, -, rfl, -⟩ | ⟨-, -, hid, hs₁⟩
    · cases hid
    · exact heq
    · obtain rfl := Except.ok.inj hid
      have hd : s₁.decisions.lookup (newDecision (env.part 0) req).decisionId =
          some (newDecision (env.part 0) req) := by rw [hs₁, Finmap.lookup_insert]
      unfold authorize at h
      rw [hr] at h
      dsimp only at h
      rcases (issueAfterAuthorization_of_lookup P (env.part 1) hd).2 rfl with hi | ⟨t, s', hi⟩
      · simp [hi] at h
      · simp [hi] at h
  · rw [heq] at h
    cases h

end CapabilityStore

namespace Pipeline

/-- `p'` is `p` up to an audit log and a hash chain that may have grown. -/
structure OnlyAudited (p p' : Pipeline) : Prop where
  rest : p' = { p with
    arbiter := { p.arbiter with auditLog := p'.arbiter.auditLog }
    crypto := p'.crypto }
  auditLog : p.arbiter.auditLog <+: p'.arbiter.auditLog
  hashChain : p.crypto.hashChain <+: p'.crypto.hashChain

lemma OnlyAudited.refl (p : Pipeline) : OnlyAudited p p := ⟨rfl, List.prefix_rfl, List.prefix_rfl⟩

lemma OnlyAudited.trans {p p' q : Pipeline} (h : OnlyAudited p p') (h' : OnlyAudited p' q) :
    OnlyAudited p q where
  rest := by
    have hq := h'.rest
    rw [h.rest] at hq
    exact hq
  auditLog := h.auditLog.trans h'.auditLog
  hashChain := h.hashChain.trans h'.hashChain

/-! ### Requests and refusals -/

/-- The operations, and the query for the approval behind a context. -/
inductive Request
  | op (o : Op)
  | resolveOutboundContextBinding (contextHash sessionId runId : Str)

inductive Reply
  | answer (a : Answer)
  | binding (r : Except ApprovalError VerdictRecord)

variable (P : Platform)

def serve (p : Pipeline) : Request → Reply × Pipeline
  | .op o => (step P p o).map .answer id
  | .resolveOutboundContextBinding contextHash sessionId runId =>
    (.binding (p.resolveOutboundContextBinding contextHash sessionId runId), p)

def service : System Pipeline Request Reply := ⟨serve P⟩

/-- The reply is an error, or an outcome of a consumption that authorizes nothing. -/
def Reply.isRefused : Reply → Bool
  | .answer (.context (.error _)) => true
  | .answer (.authorization (.error _)) => true
  | .answer (.consumed o) => o ≠ .authorized
  | .answer (.accepted (.error _)) => true
  | .binding (.error _) => true
  | _ => false

variable {P} {p : Pipeline}

/-! ### What each refusal leaves -/

/-- Behind a verified envelope every call is answered by a result. -/
lemma inboundContext_ok {envelope : ModelContextEnvelope} (hv : envelope.verify P = .ok ())
    (env : Supply) (govTxId : Str) :
    ∃ r, (result (inboundContext P env envelope govTxId) p).1 = .ok r := by
  unfold inboundContext
  rw [hv]
  dsimp only
  rw [result_bind, result_bind]
  split <;> exact ⟨_, rfl⟩

lemma inboundContext_error {env : Supply} {envelope : ModelContextEnvelope} {govTxId : Str}
    {e : EnvelopeError} (h : (result (inboundContext P env envelope govTxId) p).1 = .error e) :
    (result (inboundContext P env envelope govTxId) p).2 = p := by
  cases hv : envelope.verify P with
  | ok _ =>
    obtain ⟨r, hr⟩ := inboundContext_ok (p := p) hv env govTxId
    rw [hr] at h
    cases h
  | error e =>
    unfold inboundContext
    rw [hv]
    rfl

lemma mint_error {env : Supply} {req : DecisionRequest} {e : AuthorizationError}
    (h : (mint P env p req).1 = some (.error e)) : (mint P env p req).2 = p := by
  have hs : (p.capabilityStore.authorize P env req).2 = p.capabilityStore :=
    CapabilityStore.authorize_error_snd h
  show { p with capabilityStore := (p.capabilityStore.authorize P env req).2 } = p
  rw [hs]

lemma authorizeProviderExecution_error {env : Supply} {req : ProviderAuthorizationRequest}
    {e : AuthorizationError}
    (h : (authorizeProviderExecution P env p req).1 = some (.error e)) :
    (authorizeProviderExecution P env p req).2 = p := by
  rcases authorizeProviderExecution_cases P env p req with ⟨_, heq, -⟩ | ⟨id, r, -, heq⟩
  · rw [heq]
  · rw [heq] at h ⊢
    exact mint_error h

lemma authorizeActionExecution_error {env : Supply} {req : ActionAuthorizationRequest}
    {e : AuthorizationError}
    (h : (authorizeActionExecution P env p req).1 = some (.error e)) :
    (authorizeActionExecution P env p req).2 = p := by
  rcases authorizeActionExecution_cases P env p req with
    ⟨_, heq, -⟩ | ⟨id, r, envelope, decision, -, -, -, -, heq⟩
  · rw [heq]
  · rw [heq] at h ⊢
    exact mint_error h

lemma consumeProviderCapability_refused {now : DateTime} {binding : PresentedBinding}
    (h : (p.consumeProviderCapability P now binding).1 ≠ .authorized) :
    (p.consumeProviderCapability P now binding).2 = p := by
  rcases CapabilityStore.consume_cases P p.capabilityStore now binding with ⟨-, hs⟩ | ⟨_, -, -, hc⟩
  · show { p with capabilityStore := (p.capabilityStore.consume P now binding).2 } = p
    rw [hs]
  · unfold consumeProviderCapability at h
    rw [hc] at h
    exact absurd rfl h

/-- Without an authority nothing happens; a wrong credential is written down. -/
lemma operatorReset_error {env : Supply} {sessionId operatorToken e : Str}
    (h : (result (operatorReset P env sessionId operatorToken) p).1 = .error e) :
    OnlyAudited p (result (operatorReset P env sessionId operatorToken) p).2 := by
  unfold operatorReset Arbiter.operatorResetSession at h ⊢
  rw [result_modifyGet] at h ⊢
  cases hauth : p.arbiter.resetAuthority with
  | none => exact .refl p
  | some authority =>
    rw [hauth] at h
    dsimp only at h ⊢
    cases hv : authority.verify operatorToken with
    | true => simp [hv] at h
    | false => exact ⟨rfl, List.prefix_append .., List.prefix_append ..⟩

lemma configureOperatorResetAuthority_error {authority : OperatorResetAuthority} {e : Str}
    (h : (result (configureOperatorResetAuthority authority) p).1 = .error e) :
    (result (configureOperatorResetAuthority authority) p).2 = p := by
  unfold configureOperatorResetAuthority Arbiter.configureOperatorResetAuthority at h ⊢
  rw [result_modifyGet] at h ⊢
  cases hauth : p.arbiter.resetAuthority with
  | some _ => rfl
  | none => simp [hauth] at h

lemma registerToken_error {now : DateTime} {t : IntentToken} {g : HaapGate} {e : Str}
    (h : (g.registerToken now t).1 = .error e) : (g.registerToken now t).2 = g := by
  unfold HaapGate.registerToken at h ⊢
  split_ifs at h ⊢
  · rfl
  · rfl

lemma Reply.error_of_accepted {r : Except Str Unit}
    (h : (Reply.answer (.accepted r)).isRefused = true) : ∃ e, r = .error e := by
  cases r with
  | error e => exact ⟨e, rfl⟩
  | ok _ => cases h

lemma Reply.error_of_authorization {o : Option (Except AuthorizationError CapabilityToken)}
    (h : (Reply.answer (.ofAuthorization o)).isRefused = true) : ∃ e, o = some (.error e) := by
  rcases o with _ | ⟨e | _⟩
  · cases h
  · exact ⟨e, rfl⟩
  · cases h

/-- **Refusals are atomic**: in every state, what a refused request leaves is the state before
it, up to the audit log and the hash chain. -/
theorem refused_onlyAudited (p : Pipeline) (r : Request)
    (h : (serve P p r).1.isRefused = true) : OnlyAudited p (serve P p r).2 := by
  have hkept {q : Pipeline} (hq : q = p) : OnlyAudited p q := hq ▸ .refl p
  cases r with
  | resolveOutboundContextBinding => exact .refl p
  | op o =>
    cases o with
    | inboundContext env envelope govTxId =>
      cases ha : (result (inboundContext P env envelope govTxId) p).1 with
      | error e => exact hkept (inboundContext_error ha)
      | ok r =>
        have hr : (serve P p (.op (.inboundContext env envelope govTxId))).1 =
          .answer (.context (.ok r)) := congrArg (Reply.answer ∘ Answer.context) ha
        rw [hr] at h
        cases h
    | authorizeProviderExecution env req =>
      obtain ⟨e, he⟩ := Reply.error_of_authorization h
      exact hkept (authorizeProviderExecution_error he)
    | authorizeActionExecution env req =>
      obtain ⟨e, he⟩ := Reply.error_of_authorization h
      exact hkept (authorizeActionExecution_error he)
    | consumeProviderCapability now binding =>
      exact hkept (consumeProviderCapability_refused (of_decide_eq_true h))
    | operatorReset env sessionId operatorToken =>
      obtain ⟨e, he⟩ := Reply.error_of_accepted h
      exact operatorReset_error he
    | configureOperatorResetAuthority authority =>
      obtain ⟨e, he⟩ := Reply.error_of_accepted h
      exact hkept (configureOperatorResetAuthority_error he)
    | registerToken now t =>
      obtain ⟨e, he⟩ := Reply.error_of_accepted h
      have hg : (p.haap.registerToken now t).2 = p.haap := registerToken_error he
      refine hkept ?_
      show { p with haap := (p.haap.registerToken now t).2 } = p
      rw [hg]
    | preauthorize now sessionId actionClass durationSecs =>
      simp only [serve, step] at h
      generalize p.haap.preauthorize now sessionId actionClass durationSecs = haap? at h
      cases haap? <;> cases h
    | inbound | outbound =>
      simp only [serve, step, Prod.map, Reply.isRefused, Bool.false_eq_true] at h
    | endSession | haapEvaluate | revokeSession => cases h

/-- A pipeline whose operator can reset sessions. -/
def guardedPipeline : Pipeline :=
  { fixedPipeline .default with
    arbiter := { Arbiter.new .default with
      resetAuthority := some ⟨List.replicate 43 'k', by decide +kernel⟩ } }

/-- A reset with a wrong credential. -/
def deniedReset : Request := .op (.operatorReset (fixedSupply 0 1) "s" "wrong")

theorem refused_onlyAudited_deniedReset :
    (serve silentPlatform guardedPipeline deniedReset).1.isRefused = true ∧
      OnlyAudited guardedPipeline (serve silentPlatform guardedPipeline deniedReset).2 := by
  have h : (serve silentPlatform guardedPipeline deniedReset).1.isRefused = true := by
    decide +kernel
  exact ⟨h, refused_onlyAudited guardedPipeline deniedReset h⟩

end Pipeline

end GovSec
