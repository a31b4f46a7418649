import GovSec.SessionAuthority
import GovSec.SessionIsolation
import GovSec.ArbiterRuns

/-!
What is left of a session after its end.

The end of a session clears its memory, its state and its fingerprint, so the session's view is
that of a session that was never used. The approvals, the decisions and the pre-authorizations
are not among what it clears.
-/

namespace GovSec

/-- The view without the session's own entries. -/
def View.cleared (v : View) (advice : SessionStartAdvice) : View :=
  { v with fingerprint := none, state := none, preauths := [], memory := none, advice }

namespace Pipeline

open GovSec.Lib.Text GovSec.Lib.Maps GovSec.Lib.Actions GovSec.Lib.Runs

/-! ### What operations are about -/

/-- The session that an operation names. -/
def Op.session : Op → Option Str
  | .inbound _ _ sessionId _ => some sessionId
  | .inboundContext _ envelope _ => some envelope.sessionId
  | .authorizeProviderExecution _ req => some req.sessionId
  | .authorizeActionExecution _ req => some req.sessionId
  | .consumeProviderCapability _ binding => some binding.sessionId
  | .outbound _ _ sessionId => some sessionId
  | .endSession _ _ sessionId _ => some sessionId
  | .operatorReset _ sessionId _ => some sessionId
  | .configureOperatorResetAuthority _ => none
  | .haapEvaluate _ sessionId _ _ _ => some sessionId
  | .registerToken _ token => some token.sessionId
  | .preauthorize _ sessionId _ _ => some sessionId
  | .revokeSession sessionId => some sessionId

/-- A call that passes a text of the session or authorizes an execution in it. -/
def Op.servesIn (sessionId : Str) : Op → Bool
  | .inbound _ _ r _ => r = sessionId
  | .inboundContext _ envelope _ => envelope.sessionId = sessionId
  | .outbound _ _ r => r = sessionId
  | .authorizeProviderExecution _ req => req.sessionId = sessionId
  | .authorizeActionExecution _ req => req.sessionId = sessionId
  | _ => false

/-- The context and the transaction key that an authorization asks for. -/
def Op.asked : Op → Option (Str × Str)
  | .authorizeProviderExecution _ req =>
    some (req.contextHash, txKey req.govTxId authorityProviderExecute)
  | .authorizeActionExecution _ req =>
    some (req.contextHash, txKey req.govTxId authorityActionExecute)
  | _ => none

variable {P : Platform} {env : Supply} {p p' p₀ : Pipeline} {sessionId actorId : Str} {op : Op}
  {C K : Set Str}

/-! ### Views over operations -/

/-- What strategic memory advises for the session. -/
abbrev adviceFor (p : Pipeline) (sessionId : Str) : SessionStartAdvice :=
  p.strategicMemory.adviseSessionStart sessionId

/-- The cleared view is the configuration, so it is that of any session. -/
lemma cleared_view (p : Pipeline) (s r : Str) (advice : SessionStartAdvice) :
    (p.view s).cleared advice = (p.view r).cleared advice := rfl

lemma view_with_advice (h : p'.view sessionId = p.view sessionId) :
    p'.view sessionId = { p.view sessionId with advice := p'.adviceFor sessionId } := by
  have ha : p'.adviceFor sessionId = (p.view sessionId).advice := congrArg View.advice h
  rw [ha]
  exact h

/-- A change of the gate that keeps its threshold and the session's pre-authorizations. -/
lemma view_withGate {g : HaapGate} (h : GateKept sessionId p.haap g) :
    ({ p with haap := g } : Pipeline).view sessionId = p.view sessionId := by
  simp only [view, HaapGate.preauthsOf, h.1, h.2]

lemma registerToken_gateKept {g : HaapGate} {now : DateTime} {token : IntentToken} :
    GateKept sessionId g (g.registerToken now token).2 := by
  unfold HaapGate.registerToken
  split
  · exact ⟨rfl, rfl⟩
  · split <;> exact ⟨rfl, rfl⟩

lemma preauthorize_view {now : DateTime} {actionClass r : Str} {durationSecs : ℕ}
    (hr : sessionId ≠ r) :
    (p.withPreauthorized (p.haap.preauthorize now r actionClass durationSecs)).2.view sessionId =
      p.view sessionId := by
  unfold HaapGate.preauthorize
  cases addSeconds now (asI64 durationSecs) with
  | none => rfl
  | some expiry => exact view_withGate ⟨rfl, Finmap.lookup_insert_of_ne _ hr⟩

lemma operatorReset_view {operatorToken r : Str} (hr : sessionId ≠ r) :
    (result (operatorReset P env r operatorToken) p).2.view sessionId = p.view sessionId := by
  have hcases := Arbiter.operatorResetSession_cases P env p.crypto p.arbiter r operatorToken
  have hconfig := Arbiter.operatorResetSession_config P env p.crypto p.arbiter r operatorToken
  unfold operatorReset
  rw [result_modifyGet]
  rcases h : p.arbiter.operatorResetSession P env p.crypto r operatorToken with
    ⟨e | u, arbiter, crypto⟩
  · rw [h] at hcases hconfig
    dsimp only at hcases hconfig
    rcases hcases with ⟨_, -, hstates⟩ | ⟨-, hok, -⟩
    · simp only [view, hstates, hconfig]
    · cases hok
  · rw [h] at hcases hconfig
    dsimp only at hcases hconfig
    rcases hcases with ⟨_, herr, -⟩ | ⟨-, -, hstates⟩
    · cases herr
    · simp only [view, hstates, hconfig, OverWatch.resetSession, lookup_erase_eq_ite,
        lookup_modifyAt, if_neg hr]

/-- An operation that does not name the session leaves its view, but for the advice: another
session may end under the same name as an actor. -/
theorem view_of_other (h : op.session ≠ some sessionId) : (step P p op).2.view sessionId =
    { p.view sessionId with advice := (step P p op).2.adviceFor sessionId } := by
  have hne (r : Str) (hr : op.session = some r) : sessionId ≠ r := by
    rintro rfl
    exact h hr
  cases op with
  | inbound env userInput r govTxId =>
    exact view_with_advice ((inbound_keeps p).1 _ (hne r rfl))
  | inboundContext env envelope govTxId =>
    exact view_with_advice ((inboundContext_keeps p).1 _ (hne _ rfl))
  | outbound env modelOutput r => exact view_with_advice ((outbound_keeps p).1 _ (hne r rfl))
  | haapEvaluate env r agency actionClass token =>
    exact view_with_advice ((haapEvaluate_keeps p).1 _ (hne r rfl))
  | authorizeProviderExecution env req =>
    rcases authorizeProviderExecution_mints (P := P) (p := p) env req with h | ⟨_, h⟩
    · exact view_with_advice (by obtain ⟨_, h⟩ := h; rw [h])
    · exact view_with_advice (by rw [h.step_eq]; rfl)
  | authorizeActionExecution env req =>
    rcases authorizeActionExecution_mints (P := P) (p := p) env req with h | ⟨_, _, _, h⟩
    · exact view_with_advice (by obtain ⟨_, h⟩ := h; rw [h])
    · exact view_with_advice (by rw [h.step_eq]; rfl)
  | operatorReset env r operatorToken =>
    exact view_with_advice (operatorReset_view (hne r rfl))
  | configureOperatorResetAuthority authority =>
    obtain ⟨_, h⟩ := configureOperatorResetAuthority_snd (p := p) authority
    have h' : (step P p (.configureOperatorResetAuthority authority)).2 = _ := h
    exact view_with_advice (by rw [h']; rfl)
  | endSession env diskWrites r actorId =>
    simp only [step, endSession, result_modifyGet, Prod.map_snd, id_eq, view, Arbiter.forgetSession,
      OverWatch.resetSession, lookup_erase_eq_ite, if_neg (hne r rfl)]
  | preauthorize now r actionClass durationSecs =>
    refine view_with_advice ?_
    simp only [step]
    exact preauthorize_view (hne r rfl)
  | revokeSession r =>
    exact view_with_advice (view_withGate ⟨rfl, Finmap.lookup_erase_ne (hne r rfl)⟩)
  | registerToken now token => exact view_with_advice (view_withGate registerToken_gateKept)
  | consumeProviderCapability now binding => exact view_with_advice rfl

/-- An operation keeps the configuration. -/
lemma cleared_step (op : Op) (advice : SessionStartAdvice) :
    ((step P p op).2.view sessionId).cleared advice = (p.view sessionId).cleared advice := by
  obtain ⟨r, hr⟩ : ∃ r, op.session ≠ some r := by
    cases h : op.session with
    | none => exact ⟨[], by simp⟩
    | some t => exact ⟨'s' :: t, fun heq => List.cons_ne_self _ _ (Option.some.inj heq).symm⟩
  rw [cleared_view _ sessionId r, view_of_other hr]
  rfl

/-! ### A session that was never used, and one that ended -/

/-- The session has no entry of its own and no approval. -/
structure Unused (sessionId : Str) (p : Pipeline) : Prop where
  view : p.view sessionId = (p.view sessionId).cleared (p.adviceFor sessionId)
  approvals : ∀ c, isSha256Hex c = true → p.verdictLedger.behind c sessionId = none

lemma unused_new (arbiterConfig : ArbiterConfig)
    (constitutionalEvaluator : Option ConstitutionalEvaluator) (crypto : CryptoEngine)
    (strategicMemory : StrategicMemory) (govmem : GovMem) :
    Unused sessionId (new arbiterConfig constitutionalEvaluator crypto strategicMemory govmem) :=
  ⟨rfl, fun _ _ => rfl⟩

/-- An operation that does not name the session records no approval for it. -/
lemma behind_of_other {c : Str} (h : op.session ≠ some sessionId) (hc : isSha256Hex c = true)
    (hnone : p.verdictLedger.behind c sessionId = none) :
    (step P p op).2.verdictLedger.behind c sessionId = none := by
  have hne (r : Str) (hr : op.session = some r) : sessionId ≠ r := by
    rintro rfl
    exact h hr
  cases op with
  | inbound env userInput r govTxId =>
    exact (inbound_records P env r userInput govTxId p).behind_ne (hne r rfl) hc (by simp) hnone
  | inboundContext env envelope govTxId =>
    rcases inboundContext_records P env govTxId envelope p with ⟨e, -, hp⟩ | ⟨hv, r, -, hrec⟩
    · have hp' : (step P p (.inboundContext env envelope govTxId)).2 = p := hp
      rw [hp']
      exact hnone
    · refine hrec.behind_ne (hne _ rfl) hc ?_ hnone
      rintro _ ⟨⟩
      exact ModelContextEnvelope.isSha256Hex_of_verify hv
  | authorizeProviderExecution env req =>
    rcases authorizeProviderExecution_mints (P := P) (p := p) env req with ⟨_, h⟩ | ⟨_, h⟩
    · rw [h]
      exact hnone
    · rw [h.step_eq]
      exact hnone
  | authorizeActionExecution env req =>
    rcases authorizeActionExecution_mints (P := P) (p := p) env req with ⟨_, h⟩ | ⟨_, _, _, h⟩
    · rw [h]
      exact hnone
    · rw [h.step_eq]
      exact hnone
  | consumeProviderCapability => exact hnone
  | _ =>
    rw [(step_quiet rfl).verdictLedger]
    exact hnone

lemma Unused.step (h : Unused sessionId p) (hop : op.session ≠ some sessionId) :
    Unused sessionId (step P p op).2 where
  view := by
    rw [view_of_other hop, h.view]
    rfl
  approvals c hc := behind_of_other hop hc (h.approvals c hc)

/-- The view of a session after its end. -/
lemma view_of_endSession {diskWrites : Bool} (ha : actorId ≠ sessionId)
    (hpre : p.haap.preauthsOf sessionId = []) :
    (step P p (.endSession env diskWrites sessionId actorId)).2.view sessionId =
      (p.view sessionId).cleared (p.adviceFor sessionId) := by
  have hadvice : (step P p (.endSession env diskWrites sessionId actorId)).2.adviceFor sessionId =
      p.adviceFor sessionId := by
    simp only [step, endSession, result_modifyGet, Prod.map_snd, id_eq]
    cases p.sessionMemories.lookup sessionId with
    | none => rfl
    | some m =>
      simp only [StrategicMemory.ingestSession, StrategicMemory.adviseSessionStart,
        Finmap.lookup_insert_of_ne _ ha.symm]
  have hview : (step P p (.endSession env diskWrites sessionId actorId)).2.view sessionId =
      { p.view sessionId with
        fingerprint := none, state := none, memory := none
        advice := (step P p (.endSession env diskWrites sessionId actorId)).2.adviceFor
          sessionId } := by
    simp only [step, endSession, result_modifyGet, Prod.map_snd, id_eq, view, Arbiter.forgetSession,
      OverWatch.resetSession, Finmap.lookup_erase]
  rw [hview, hadvice, View.cleared, ← hpre]
  rfl

/-! ### Two pipelines that the session does not tell apart -/

/-- One view of the session, the same approvals behind the contexts of `C` and the same decisions
under the keys of `K`. -/
structure Twins (sessionId : Str) (C K : Set Str) (p p' : Pipeline) : Prop where
  view : p.view sessionId = p'.view sessionId
  approvals : ∀ c ∈ C, isSha256Hex c = true →
    p.verdictLedger.behind c sessionId = p'.verdictLedger.behind c sessionId
  decisions : CapabilityStore.SameUnder K p.capabilityStore p'.capabilityStore

/-- Both sides mint alike. -/
lemma Twins.mint {req : DecisionRequest} (h : Twins sessionId C K p p')
    (hk : txKey req.govTxId req.authority ∈ K) :
    (mint P env p req).1 = (mint P env p' req).1 ∧
      Twins sessionId C K (mint P env p req).2 (mint P env p' req).2 := by
  obtain ⟨hans, hstore⟩ := CapabilityStore.authorize_sameUnder P env h.decisions hk
  exact ⟨hans, h.view, h.approvals, hstore⟩

/-- Two equal ids, or the same error, with records that do not matter. -/
lemma fst_map_cases {ε α β : Type} {x x' : Except ε (α × β)}
    (h : Prod.fst <$> x = Prod.fst <$> x') :
    (∃ e, x = .error e ∧ x' = .error e) ∨ ∃ a b b', x = .ok (a, b) ∧ x' = .ok (a, b') := by
  rcases x with e | ⟨a, b⟩ <;> rcases x' with e' | ⟨a', b'⟩
  · exact .inl ⟨e, rfl, congrArg _ (Except.error.inj h).symm⟩
  · cases h
  · cases h
  · obtain rfl : a = a' := Except.ok.inj h
    exact .inr ⟨a, b, b', rfl, rfl⟩

variable (P env) in
lemma Twins.authorizeProviderExecution {req : ProviderAuthorizationRequest}
    (h : Twins req.sessionId C K p p') (hc : req.contextHash ∈ C)
    (hk : txKey req.govTxId authorityProviderExecute ∈ K) :
    (authorizeProviderExecution P env p req).1 = (authorizeProviderExecution P env p' req).1 ∧
      Twins req.sessionId C K (authorizeProviderExecution P env p req).2
        (authorizeProviderExecution P env p' req).2 := by
  unfold Pipeline.authorizeProviderExecution
  rcases fst_map_cases (VerdictLedger.resolveApproval_congr req.runId
    (h.approvals _ hc)) with ⟨e, he, he'⟩ | ⟨id, r, r', hr, hr'⟩
  · rw [he, he']
    exact ⟨rfl, h⟩
  · rw [hr, hr']
    exact h.mint hk

variable (P env) in
lemma Twins.authorizeActionExecution {req : ActionAuthorizationRequest}
    (h : Twins req.sessionId C K p p') (hc : req.contextHash ∈ C)
    (hk : txKey req.govTxId authorityActionExecute ∈ K) :
    (authorizeActionExecution P env p req).1 = (authorizeActionExecution P env p' req).1 ∧
      Twins req.sessionId C K (authorizeActionExecution P env p req).2
        (authorizeActionExecution P env p' req).2 := by
  unfold Pipeline.authorizeActionExecution
  rcases fst_map_cases (VerdictLedger.resolveApproval_congr req.runId
    (h.approvals _ hc)) with ⟨e, he, he'⟩ | ⟨id, r, r', hr, hr'⟩
  · rw [he, he']
    exact ⟨rfl, h⟩
  · rw [hr, hr']
    dsimp only
    cases hs : ActionEnvelope.seal P req.envelope with
    | error e => exact ⟨rfl, h⟩
    | ok envelope =>
      dsimp only
      cases envelope.evaluateStrict P with
      | error e => exact ⟨rfl, h⟩
      | ok decision =>
        dsimp only
        split
        · exact ⟨rfl, h⟩
        · -- the sealed envelope is about the session of the request
          have hsession : envelope.sessionId = req.sessionId := by
            obtain ⟨hash, rfl⟩ := ActionEnvelope.eq_of_seal hs
            rfl
          rw [hsession, ← sessionDrs_of_view h.view]
          exact h.mint hk

/-- A call that passes a text works on the view. -/
lemma Twins.turn (h : Twins sessionId C K p p') (hcall : SameCall op op)
    (hturn : op.turnOn sessionId = true)
    (hoim : HeardByOim P (p, op) → p.oimReport P op = p'.oimReport P op) :
    (Pipeline.step P p op).1 = (Pipeline.step P p' op).1 ∧
      (Pipeline.step P p op).2.view sessionId = (Pipeline.step P p' op).2.view sessionId := by
  have hj : JudgedAlike P (p, op) (p', op) := ⟨hcall, hoim⟩
  exact step_of_judgedAlike hturn h.view hj

/-- What a call that passes a text leaves of the stores of authority. -/
lemma Twins.of_records {q q' : Pipeline} {contextHash run : Option Str} {b : Bool}
    (h : Twins sessionId C K p p') (hview : q.view sessionId = q'.view sessionId)
    (hl : RecordsApproval env sessionId contextHash run b p.verdictLedger q.verdictLedger)
    (hl' : RecordsApproval env sessionId contextHash run b p'.verdictLedger q'.verdictLedger)
    (hs : q.capabilityStore = p.capabilityStore) (hs' : q'.capabilityStore = p'.capabilityStore) :
    Twins sessionId C K q q' where
  view := hview
  approvals c hc hwf := hl.behind_eq hl' (h.approvals c hc hwf)
  decisions := by
    rw [hs, hs']
    exact h.decisions

lemma Twins.of_kept {q q' : Pipeline} (h : Twins sessionId C K p p')
    (hview : q.view sessionId = q'.view sessionId) (hl : q.verdictLedger = p.verdictLedger)
    (hl' : q'.verdictLedger = p'.verdictLedger) (hs : q.capabilityStore = p.capabilityStore)
    (hs' : q'.capabilityStore = p'.capabilityStore) : Twins sessionId C K q q' where
  view := hview
  approvals c hc hwf := by
    rw [hl, hl']
    exact h.approvals c hc hwf
  decisions := by
    rw [hs, hs']
    exact h.decisions

/-- Two context turns with one answer both change nothing or record one decision. -/
lemma inboundContext_records_alike {envelope : ModelContextEnvelope} {govTxId : Str}
    (hr : (result (inboundContext P env envelope govTxId) p).1 =
      (result (inboundContext P env envelope govTxId) p').1) :
    ((result (inboundContext P env envelope govTxId) p).2 = p ∧
        (result (inboundContext P env envelope govTxId) p').2 = p') ∨
      ∃ r : EnforcementResult,
        RecordsApproval (env.part 3) envelope.sessionId (some envelope.contextHash)
          (some envelope.runId) r.isApproved p.verdictLedger
          (result (inboundContext P env envelope govTxId) p).2.verdictLedger ∧
        RecordsApproval (env.part 3) envelope.sessionId (some envelope.contextHash)
          (some envelope.runId) r.isApproved p'.verdictLedger
          (result (inboundContext P env envelope govTxId) p').2.verdictLedger := by
  rcases inboundContext_records P env govTxId envelope p with ⟨e, he, hp⟩ | ⟨-, r, hok, hl⟩
  · rcases inboundContext_records P env govTxId envelope p' with ⟨_, -, hp'⟩ | ⟨-, r, hok, -⟩
    · exact .inl ⟨hp, hp'⟩
    · rw [he, hok] at hr
      cases hr
  · rcases inboundContext_records P env govTxId envelope p' with ⟨e, he, -⟩ | ⟨-, r', hok', hl'⟩
    · rw [hok, he] at hr
      cases hr
    · rw [hok, hok'] at hr
      obtain rfl := Except.ok.inj hr
      exact .inr ⟨r, hl, hl'⟩

/-- **One call on a session in two pipelines that it does not tell apart.** -/
theorem Twins.step (h : Twins sessionId C K p p') (hserves : op.servesIn sessionId = true)
    (hasked : ∀ c key, op.asked = some (c, key) → c ∈ C ∧ key ∈ K)
    (hoim : HeardByOim P (p, op) → p.oimReport P op = p'.oimReport P op) :
    (step P p op).1 = (step P p' op).1 ∧
      Twins sessionId C K (step P p op).2 (step P p' op).2 := by
  cases op with
  | inbound env userInput r govTxId =>
    obtain rfl : r = sessionId := by simpa [Op.servesIn] using hserves
    obtain ⟨hans, hview⟩ := h.turn (.inbound rfl _ _ _) (by simp [Op.turnOn, Op.turnSession]) hoim
    refine ⟨hans, ?_⟩
    have hl := inbound_records P env r userInput govTxId p
    have hl' := inbound_records P env r userInput govTxId p'
    have hr : (result (inbound P env userInput r govTxId) p).1 =
        (result (inbound P env userInput r govTxId) p').1 := Answer.enforced.inj hans
    rw [← hr] at hl'
    exact h.of_records hview hl hl' (inbound_called P env userInput r govTxId p).capabilityStore
      (inbound_called P env userInput r govTxId p').capabilityStore
  | inboundContext env envelope govTxId =>
    obtain rfl : envelope.sessionId = sessionId := by simpa [Op.servesIn] using hserves
    obtain ⟨hans, hview⟩ := h.turn (.inboundContext rfl _ _) (by simp [Op.turnOn, Op.turnSession])
      hoim
    refine ⟨hans, ?_⟩
    have hr : (result (inboundContext P env envelope govTxId) p).1 =
        (result (inboundContext P env envelope govTxId) p').1 := Answer.context.inj hans
    have hs := (inboundContext_called P env envelope govTxId p).capabilityStore
    have hs' := (inboundContext_called P env envelope govTxId p').capabilityStore
    rcases inboundContext_records_alike hr with ⟨hp, hp'⟩ | ⟨r, hl, hl'⟩
    · exact h.of_kept hview (congrArg Pipeline.verdictLedger hp)
        (congrArg Pipeline.verdictLedger hp') hs hs'
    · exact h.of_records hview hl hl' hs hs'
  | outbound env modelOutput r =>
    obtain rfl : r = sessionId := by simpa [Op.servesIn] using hserves
    obtain ⟨hans, hview⟩ := h.turn (.outbound rfl _ _) (by simp [Op.turnOn, Op.turnSession]) hoim
    have hk := outbound_along P env modelOutput r p
    have hk' := outbound_along P env modelOutput r p'
    exact ⟨hans, h.of_kept hview hk.verdictLedger hk'.verdictLedger hk.capabilityStore
      hk'.capabilityStore⟩
  | authorizeProviderExecution env req =>
    obtain rfl : req.sessionId = sessionId := by simpa [Op.servesIn] using hserves
    obtain ⟨hc, hk⟩ := hasked _ _ rfl
    obtain ⟨hans, hnext⟩ := h.authorizeProviderExecution P env hc hk
    exact ⟨congrArg Answer.ofAuthorization hans, hnext⟩
  | authorizeActionExecution env req =>
    obtain rfl : req.sessionId = sessionId := by simpa [Op.servesIn] using hserves
    obtain ⟨hc, hk⟩ := hasked _ _ rfl
    obtain ⟨hans, hnext⟩ := h.authorizeActionExecution P env hc hk
    exact ⟨congrArg Answer.ofAuthorization hans, hnext⟩
  | _ => simp [Op.servesIn] at hserves

/-! ### The lifetime of tokens -/

lemma authorize_ttl {s : CapabilityStore} {req : DecisionRequest} :
    (CapabilityStore.authorize P env s req).2.defaultTtlSecs = s.defaultTtlSecs := by
  have hrec {r : Except CapabilityError Str} {s₁ : CapabilityStore}
      (hr : CapabilityStore.recordDecision (env.part 0) s req = some (r, s₁)) :
      s₁.defaultTtlSecs = s.defaultTtlSecs := by
    rcases CapabilityStore.recordDecision_cases hr with
      ⟨_, -, rfl⟩ | ⟨_, _, -, rfl, -⟩ | ⟨-, -, -, rfl⟩ <;> rfl
  rcases CapabilityStore.authorize_cases P env s req with
    ⟨-, heq⟩ | ⟨id, s₁, hr, ⟨-, heq⟩ | ⟨t, s₂, hi, heq⟩⟩
  · rw [heq]
  · rw [heq, hrec hr]
  · rw [heq]
    rcases CapabilityStore.issueAfterAuthorization_cases hi with ⟨-, h | h⟩ | ⟨_, _, -, -, -, rfl⟩
    · cases h
    · cases h
    · have hs₁ := hrec hr
      exact hs₁

lemma step_ttl (op : Op) :
    (step P p op).2.capabilityStore.defaultTtlSecs = p.capabilityStore.defaultTtlSecs := by
  rcases (step_stepped (P := P) (p := p) op).store with h | ⟨env, req, h⟩ | ⟨now, binding, h⟩
  · rw [h]
  · rw [h.step_eq]
    exact authorize_ttl
  · rw [h]
    rcases CapabilityStore.consume_cases P p.capabilityStore now binding with
      ⟨-, heq⟩ | ⟨t, -, -, heq⟩ <;> rw [heq]

/-! ### After the end of a session -/

/-- OIM reports the same on a call, if it hears it. -/
def ReportsAlike (P : Platform) (p p' : Pipeline) (op : Op) : Prop :=
  HeardByOim P (p, op) → p.oimReport P op = p'.oimReport P op

/-- **A session that ended answers like one that was never used**, in a pipeline that came from
the same start by any operations that do not name the session. -/
theorem endSession_forgets (P : Platform) (arbiterConfig : ArbiterConfig)
    (constitutionalEvaluator : Option ConstitutionalEvaluator) (crypto : CryptoEngine)
    (strategicMemory : StrategicMemory) (govmem : GovMem) (p p' : Pipeline) (es es' : History)
    (env : Supply) (diskWrites : Bool) (sessionId actorId : Str) (later : List Op)
    (hrun : (system P).Run
      (new arbiterConfig constitutionalEvaluator crypto strategicMemory govmem) es p)
    (hrun' : (system P).Run
      (new arbiterConfig constitutionalEvaluator crypto strategicMemory govmem) es' p')
    (hes' : ∀ e ∈ es', e.1.session ≠ some sessionId) (hactor : actorId ≠ sessionId)
    (hlater : ∀ op ∈ later, op.servesIn sessionId = true)
    (hpre : p.haap.preauthsOf sessionId = [])
    (hadvice : p.adviceFor sessionId = p'.adviceFor sessionId)
    (hasked : ∀ op ∈ later, ∀ c key, op.asked = some (c, key) →
      p.verdictLedger.approvedVerdictIdByContext c sessionId = none ∧
        p.capabilityStore.under key = p'.capabilityStore.under key)
    (hoim : (system P).Together (ReportsAlike P)
      (step P p (.endSession env diskWrites sessionId actorId)).2 p' later) :
    ((system P).exec (step P p (.endSession env diskWrites sessionId actorId)).2 later).1 =
      ((system P).exec p' later).1 := by
  set p₀ := new arbiterConfig constitutionalEvaluator crypto strategicMemory govmem
  have hunused : Unused sessionId p' := hrun'.invariant_on (unused_new ..)
    (fun _ op hop h => h.step hop) hes'
  have hconfig {q : Pipeline} {hs : History} (h : (system P).Run p₀ hs q) :
      (q.view sessionId).cleared (p.adviceFor sessionId) =
        (p₀.view sessionId).cleared (p.adviceFor sessionId) :=
    h.invariant (I := fun _ q => (q.view sessionId).cleared (p.adviceFor sessionId) =
      (p₀.view sessionId).cleared (p.adviceFor sessionId)) rfl
      fun _ _ op ih => (cleared_step op _).trans ih
  have httl {q : Pipeline} {hs : History} (h : (system P).Run p₀ hs q) :
      q.capabilityStore.defaultTtlSecs = p₀.capabilityStore.defaultTtlSecs :=
    h.invariant (I := fun _ q => q.capabilityStore.defaultTtlSecs =
      p₀.capabilityStore.defaultTtlSecs) rfl fun _ _ op ih => (step_ttl op).trans ih
  let C : Set Str := {c | p.verdictLedger.approvedVerdictIdByContext c sessionId = none}
  let K : Set Str := {key | p.capabilityStore.under key = p'.capabilityStore.under key}
  have htwins : Twins sessionId C K
      (step P p (.endSession env diskWrites sessionId actorId)).2 p' :=
    { view := by
        rw [view_of_endSession hactor hpre, hunused.view, ← hadvice, hconfig hrun, hconfig hrun']
      approvals := fun c hc hwf =>
        (VerdictLedger.behind_eq_none.mpr hc).trans (hunused.approvals c hwf).symm
      decisions := ⟨(httl hrun).trans (httl hrun').symm, fun key hk => hk⟩ }
  refine System.exec_fst_of_together (Q := fun op => op.servesIn sessionId = true ∧
    ∀ c key, op.asked = some (c, key) → c ∈ C ∧ key ∈ K)
    (fun q q' op hq hop hr => hq.step hop.1 hop.2 hr) htwins
    (fun op hop => ⟨hlater op hop, hasked op hop⟩) hoim

/-- An answer to the session "s" that OverWatch reports. -/
def reportedOps : List Op := [.outbound (fixedSupply 0 0) "[system]" "s"]

/-- A further answer to "s", and a provider call in it. -/
def furtherOps : List Op :=
  [.outbound (fixedSupply 0 1) "hi" "s",
    .authorizeProviderExecution (fixedSupply 0 2) (fixedRequest "groq" "llama")]

/-- What the answer that is reported leaves of the session, apart from its view. -/
lemma reportedOps_left :
    let p := ((system silentPlatform).exec (fixedPipeline .default) reportedOps).2
    p.haap.preauthsOf "s" = [] ∧ p.adviceFor "s" = (fixedPipeline .default).adviceFor "s" ∧
      p.verdictLedger.approvedVerdictIdByContext fixedHash "s" = none ∧
      p.capabilityStore.under (txKey "tx" authorityProviderExecute) = none ∧
      (step silentPlatform p (.endSession (fixedSupply 0 3) false "s" "a")).2.oimReport
          silentPlatform (.outbound (fixedSupply 0 1) "hi" "s") = none := by
  decide +kernel

/-- A session that was used and ended, against a new pipeline. -/
theorem endSession_forgets_reported :
    let p := ((system silentPlatform).exec (fixedPipeline .default) reportedOps).2
    ((system silentPlatform).exec
        (step silentPlatform p (.endSession (fixedSupply 0 3) false "s" "a")).2 furtherOps).1 =
      ((system silentPlatform).exec (fixedPipeline .default) furtherOps).1 :=
  endSession_forgets silentPlatform .default none (.new silentPlatform "seed") .new .default _
    (fixedPipeline .default) _ [] (fixedSupply 0 3) false "s" "a" furtherOps
    (.of_exec (fixedPipeline .default) reportedOps) .nil (by simp) (by decide) (by decide)
    reportedOps_left.1 reportedOps_left.2.1
    (by
      intro op hop c key hasked
      rcases List.mem_pair.mp hop with rfl | rfl
      · cases hasked
      · cases hasked
        exact ⟨reportedOps_left.2.2.1, reportedOps_left.2.2.2.1⟩)
    ⟨fun _ => reportedOps_left.2.2.2.2.trans (by decide +kernel), fun _ => rfl, trivial⟩

/-- The constructor of an answer; the refusals of an authorization count as one. -/
inductive AnswerKind
  | approved
  | restricted
  | quarantined
  | hardLocked
  | haapGated
  | envelopeRefused
  | token
  | refused
  | other
  deriving DecidableEq

def enforcementKind : EnforcementResult → AnswerKind
  | .approved _ => .approved
  | .restricted _ _ => .restricted
  | .quarantined _ => .quarantined
  | .hardLocked _ => .hardLocked
  | .haapGated _ _ _ => .haapGated

def Answer.kind : Answer → AnswerKind
  | .enforced r => enforcementKind r
  | .context (.ok r) => enforcementKind r
  | .context (.error _) => .envelopeRefused
  | .authorization (.ok _) => .token
  | .authorization (.error _) => .refused
  | _ => .other

/-- **An approval outlives its session**: the context "hi" is approved for the session "s", the
session ends, and a provider call in it is authorized. -/
theorem endSession_keeps_approval : ¬ ∀ (P : Platform) (arbiterConfig : ArbiterConfig)
    (constitutionalEvaluator : Option ConstitutionalEvaluator) (crypto : CryptoEngine)
    (strategicMemory : StrategicMemory) (govmem : GovMem) (ops : List Op) (env : Supply)
    (diskWrites : Bool) (sessionId actorId : Str) (later : List Op), actorId ≠ sessionId →
      (∀ op ∈ later, op.servesIn sessionId = true) →
      let p₀ := new arbiterConfig constitutionalEvaluator crypto strategicMemory govmem
      let p := ((system P).exec p₀ ops).2
      let p' := ((system P).exec p₀ (ops.filter (·.session ≠ some sessionId))).2
      ((system P).exec (step P p (.endSession env diskWrites sessionId actorId)).2 later).1.map
          (·.2.kind) = ((system P).exec p' later).1.map (·.2.kind) := by
  intro h
  have heq := h silentPlatform .default none (.new silentPlatform "seed") .new .default approvedOps
    (fixedSupply 0 1) false "s" "a"
    [.authorizeProviderExecution (fixedSupply 0 2) (fixedRequest "groq" "llama")] (by decide)
    (by decide)
  have hne : ((system silentPlatform).exec (step silentPlatform
      ((system silentPlatform).exec (fixedPipeline .default) approvedOps).2
        (.endSession (fixedSupply 0 1) false "s" "a")).2
      [.authorizeProviderExecution (fixedSupply 0 2) (fixedRequest "groq" "llama")]).1.map
        (·.2.kind) ≠ ((system silentPlatform).exec (fixedPipeline .default)
      [.authorizeProviderExecution (fixedSupply 0 2) (fixedRequest "groq" "llama")]).1.map
        (·.2.kind) := by
    decide +kernel
  exact hne heq

end Pipeline

end GovSec
