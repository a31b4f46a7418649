import GovSec.PipelineRuns

/-!
Where execution authority comes from. Whatever is done in whatever order, a token that is
consumed was issued by an authorization of its own kind, and before that the context it names
was approved. The provider and the model of a token are only those of the request.

The invariant follows an approval through the stores: a record of the ledger stands for an
approving event of the history, and a stored token for an issuing event after one.
-/

namespace GovSec.Pipeline

open GovSec.Lib.Text GovSec.Lib.Maps GovSec.Lib.Actions GovSec.Lib.Runs

variable {P : Platform} {p : Pipeline} {es : History}

/-- The event issued the token, for the authority that its operation asks for. -/
def Issues (e : Op × Answer) (t : CapabilityToken) : Prop :=
  e.1.authority = some t.authority ∧ e.2 = .authorization (.ok t)

/-- The history issued a token of this id and scope, after it approved the scope's context. -/
def IssuedIn (es : History) (tokenId : Str) (scope : CapabilityScope) : Prop :=
  ∃ as e bs t, es = as ++ e :: bs ∧
    (∃ e₀ ∈ as, ApprovesContext e₀ scope.sessionId scope.runId scope.contextHash) ∧
    Issues e t ∧ t.tokenId = tokenId ∧ t.toCapabilityScope = scope

lemma IssuedIn.append_event {tokenId : Str} {scope : CapabilityScope}
    (h : IssuedIn es tokenId scope) (e : Op × Answer) :
    IssuedIn (es ++ [e]) tokenId scope := by
  obtain ⟨as, e', bs, t, rfl, hrest⟩ := h
  exact ⟨as, e', bs ++ [e], t, by simp, hrest⟩

structure Provenance (es : History) (p : Pipeline) : Prop where
  approved : ∀ id r contextHash, p.verdictLedger.verdicts.lookup id = some r →
    r.contextHash = some contextHash → ∃ runId, r.runId = some runId ∧
      ∃ e ∈ es, ApprovesContext e r.sessionId runId contextHash
  decision : ∀ id d, p.capabilityStore.decisions.lookup id = some d → d.Shaped
  token : ∀ tid t, p.capabilityStore.capabilities.lookup tid = some t →
    IssuedIn es tid t.toCapabilityScope

lemma provenance_new {config : ArbiterConfig} {evaluator : Option ConstitutionalEvaluator}
    {crypto : CryptoEngine} {strategicMemory : StrategicMemory} {govmem : GovMem} :
    Provenance [] (new config evaluator crypto strategicMemory govmem) where
  approved := by simp [new, VerdictLedger.new]
  decision := by simp [new, CapabilityStore.new]
  token := by simp [new, CapabilityStore.new]

/-- An approval in the ledger stands for an approving event. -/
lemma Provenance.of_approves {contextHash sessionId runId id : Str} {r : VerdictRecord}
    (h : Provenance es p) (ha : p.verdictLedger.Approves contextHash sessionId runId id r) :
    ∃ e ∈ es, ApprovesContext e sessionId runId contextHash := by
  obtain ⟨runId', hrun, he⟩ := h.approved id r contextHash ha.stored ha.context
  obtain rfl : runId = runId' := Option.some.inj (ha.run.symm.trans hrun)
  rwa [ha.session] at he

lemma ofAuthorization_eq {o : Option (Except AuthorizationError CapabilityToken)}
    {t : CapabilityToken} (h : Answer.ofAuthorization o = .authorization (.ok t)) :
    o = some (.ok t) := by
  cases o with
  | none => cases h
  | some r => exact congrArg some (Answer.authorization.inj h)

/-- A token answered to an operation is for the execution the operation asks for. -/
lemma Mints.serves {op : Op} {env : Supply} {req : DecisionRequest} {t : CapabilityToken}
    (h : Mints P p op env req)
    (hd : ∀ id d, p.capabilityStore.decisions.lookup id = some d → d.Shaped)
    (ht : (step P p op).1 = .authorization (.ok t)) : CapabilityStore.Serves t req := by
  rw [h.step_eq] at ht
  have hok : (p.capabilityStore.authorize P env req).1 = some (.ok t) := ofAuthorization_eq ht
  exact CapabilityStore.authorize_serves hok
    (h.shaped (CapabilityStore.authorize_ok hok).1) hd

/-- A step that mints keeps the invariant: its token comes after the approval it was minted
from. -/
lemma Provenance.mints {op : Op} {env : Supply} {req : DecisionRequest} (h : Provenance es p)
    (hm : Mints P p op env req) {tid : Str} {t : CapabilityToken}
    (ht : (step P p op).2.capabilityStore.capabilities.lookup tid = some t) :
    p.capabilityStore.capabilities.lookup tid = some t ∨
      IssuedIn (es ++ [(op, (step P p op).1)]) tid t.toCapabilityScope := by
  rw [hm.step_eq] at ht
  refine (CapabilityStore.authorize_capabilities ht).imp_right fun ⟨hok, htid⟩ => ?_
  have hans : (step P p op).1 = .authorization (.ok t) := by
    rw [hm.step_eq]
    exact congrArg Answer.ofAuthorization hok
  have hserves := hm.serves h.decision hans
  obtain ⟨_, _, ha⟩ := hm.approved
  refine ⟨es, _, [], t, rfl, ?_, ⟨?_, hans⟩, htid, rfl⟩
  · rw [hserves.session, hserves.run, hserves.contextHash]
    exact h.of_approves ha
  · rw [hm.authority, hserves.authority]

theorem provenance_step (op : Op) (h : Provenance es p) :
    Provenance (es ++ [(op, (step P p op).1)]) (step P p op).2 := by
  have hs := step_stepped (P := P) (p := p) op
  constructor
  case approved =>
    intro id r contextHash hr hc
    rcases hs.recorded id r contextHash hr hc with hold | ⟨runId, hrun, happ⟩
    · obtain ⟨runId, hrun, e, he, happ⟩ := h.approved id r contextHash hold hc
      exact ⟨runId, hrun, e, List.mem_append_left _ he, happ⟩
    · exact ⟨runId, hrun, _, by simp, happ⟩
  case decision =>
    intro id d hd
    rcases hs.store with heq | ⟨env, req, hm⟩ | ⟨now, binding, heq⟩
    · exact h.decision id d (heq ▸ hd)
    · rw [hm.step_eq] at hd
      rcases CapabilityStore.authorize_decisions hd with ⟨d₀, hd₀, heq⟩ | ⟨hv, heq⟩
      · exact heq ▸ h.decision id d₀ hd₀
      · exact heq ▸ hm.shaped hv
    · rw [heq] at hd
      rcases CapabilityStore.consume_cases P p.capabilityStore now binding with
        ⟨-, heq'⟩ | ⟨_, -, -, heq'⟩ <;> rw [heq'] at hd <;> exact h.decision id d hd
  case token =>
    intro tid t ht
    rcases hs.store with heq | ⟨env, req, hm⟩ | ⟨now, binding, heq⟩
    · exact (h.token tid t (heq ▸ ht)).append_event _
    · exact (h.mints hm ht).elim (fun hold => (h.token tid t hold).append_event _) id
    · refine IssuedIn.append_event ?_ _
      rw [heq] at ht
      rcases CapabilityStore.consume_cases P p.capabilityStore now binding with
        ⟨-, heq'⟩ | ⟨t₀, ht₀, -, heq'⟩
      · exact h.token tid t (heq' ▸ ht)
      · rw [heq'] at ht
        simp only [lookup_insert_eq_ite] at ht
        split at ht
        · next htid =>
          obtain rfl := Option.some.inj ht
          exact htid ▸ h.token _ t₀ ht₀
        · exact h.token tid t ht

theorem run_provenance {p₀ : Pipeline} (h₀ : Provenance [] p₀) (h : (system P).Run p₀ es p) :
    Provenance es p :=
  h.invariant h₀ fun _ _ => provenance_step

/-- **Provenance.** In every run, whenever a binding is authorized, its context was approved
for its session and run, and afterwards an authorization of its kind issued the token that the
binding presents and repeats. -/
theorem consumed_authorized_provenance {config : ArbiterConfig}
    {evaluator : Option ConstitutionalEvaluator} {crypto : CryptoEngine}
    {strategicMemory : StrategicMemory} {govmem : GovMem} {as bs : History} {now : DateTime}
    {binding : PresentedBinding}
    (h : (system P).Run (new config evaluator crypto strategicMemory govmem) es p)
    (hes : es = as ++ (.consumeProviderCapability now binding, .consumed .authorized) :: bs) :
    ∃ as₁ e as₂ t, as = as₁ ++ e :: as₂ ∧
      (∃ e₀ ∈ as₁, ApprovesContext e₀ binding.sessionId binding.runId binding.contextHash) ∧
      e.1.authority = some binding.authority ∧ e.2 = .authorization (.ok t) ∧
      t.tokenId = binding.tokenId ∧ CapabilityStore.Matches t binding := by
  obtain ⟨p', h', hans⟩ := h.split hes
  have hinv := run_provenance provenance_new h'
  have hauth : (CapabilityStore.consume P p'.capabilityStore now binding).1 = .authorized :=
    (Answer.consumed.inj hans).symm
  rcases CapabilityStore.consume_cases P p'.capabilityStore now binding with
    ⟨hno, -⟩ | ⟨t₀, ht₀, hr, -⟩
  · exact absurd hauth hno
  · obtain ⟨as₁, e, as₂, t, heq, happ, ⟨he, hans'⟩, htid, hscope⟩ := hinv.token _ t₀ ht₀
    have hm : CapabilityStore.Matches t binding := by
      obtain ⟨-, -, -, hm⟩ := CapabilityStore.refusal_eq_none.mp hr
      exact hm.congr hscope
    refine ⟨as₁, e, as₂, t, heq, ?_, ?_, hans', htid, hm⟩
    · rw [← hm.session, ← hm.run, ← hm.contextHash, hscope]
      exact happ
    · rw [he, hm.authority]

/-- A context that is approved, then authorized for its provider. -/
def authorizedOps : List Op :=
  approvedOps ++ [.authorizeProviderExecution (fixedSupply 0 1) (fixedRequest "groq" "llama")]

/-- The binding of the token that was issued. -/
def authorizedBinding : PresentedBinding where
  tokenId := "CAP-" ++ (fixedSupply 0 1).fresh.simple
  govTxId := "tx"
  sessionId := "s"
  principalFingerprint := "fp"
  authority := authorityProviderExecute
  backend := "groq"
  model := "llama"
  runId := "r"
  contextHash := fixedHash
  policyVersion := "v1"
  policyHash := fixedHash
  actionHash := []
  toolName := []
  resourceKind := []
  resourceLocator := []
  toolCallId := []
  plane := []

theorem consumed_authorized_provenance_fixed :
    ∃ as₁ e as₂ t, ((system silentPlatform).exec (fixedPipeline .default) authorizedOps).1 =
        as₁ ++ e :: as₂ ∧
      (∃ e₀ ∈ as₁, ApprovesContext e₀ "s" "r" fixedHash) ∧
      e.1.authority = some authorityProviderExecute ∧ e.2 = .authorization (.ok t) ∧
      t.tokenId = authorizedBinding.tokenId ∧ CapabilityStore.Matches t authorizedBinding := by
  have hrun := (System.Run.of_exec (M := system silentPlatform) (fixedPipeline .default)
    authorizedOps).snoc (.consumeProviderCapability 1 authorizedBinding)
  have hans : (consumeProviderCapability silentPlatform
      ((system silentPlatform).exec (fixedPipeline .default) authorizedOps).2 1
      authorizedBinding).1 = .authorized := by decide +kernel
  have hstep : ∀ p, (consumeProviderCapability silentPlatform p 1 authorizedBinding).1 =
      .authorized → ((system silentPlatform).step p
        (.consumeProviderCapability 1 authorizedBinding)).1 = .consumed .authorized :=
    fun _ h => congrArg Answer.consumed h
  rw [hstep _ hans] at hrun
  exact consumed_authorized_provenance hrun rfl

/-! ### The provider and the model of a token -/

/-- The envelopes that the history approved. -/
def approvedContexts (es : History) : List ModelContextEnvelope :=
  es.filterMap fun
    | (.inboundContext _ envelope _, .context (.ok (.approved _))) => some envelope
    | _ => none

/-- The envelope is the context of a run of a session under a hash. -/
def Covers (envelope : ModelContextEnvelope) (sessionId runId contextHash : Str) : Prop :=
  envelope.sessionId = sessionId ∧ envelope.runId = runId ∧ envelope.contextHash = contextHash

/-- All approved envelopes behind a run of a session name this provider and this model. -/
def Names (es : History) (sessionId runId contextHash providerId modelId : Str) : Prop :=
  ∀ envelope ∈ approvedContexts es, Covers envelope sessionId runId contextHash →
    envelope.providerId = providerId ∧ envelope.modelId = modelId

lemma ApprovesContext.mem_approvedContexts {e : Op × Answer} {sessionId runId contextHash : Str}
    (h : ApprovesContext e sessionId runId contextHash) (he : e ∈ es) :
    ∃ envelope ∈ approvedContexts es, Covers envelope sessionId runId contextHash := by
  obtain ⟨env, envelope, govTxId, content, rfl, hcovers⟩ := h
  exact ⟨envelope, List.mem_filterMap.mpr ⟨_, he, rfl⟩, hcovers⟩

/-- **The model of a token.** In every run, a token that a provider's authorization answers has
an approved envelope behind it; and the token names the provider and the model of what was
approved exactly when the request does. -/
theorem authorized_names_approved_iff {config : ArbiterConfig}
    {evaluator : Option ConstitutionalEvaluator} {crypto : CryptoEngine}
    {strategicMemory : StrategicMemory} {govmem : GovMem} {as bs : History} {env : Supply}
    {req : ProviderAuthorizationRequest} {t : CapabilityToken}
    (h : (system P).Run (new config evaluator crypto strategicMemory govmem) es p)
    (hes : es = as ++ (.authorizeProviderExecution env req, .authorization (.ok t)) :: bs) :
    (∃ envelope ∈ approvedContexts as, Covers envelope t.sessionId t.runId t.contextHash) ∧
      (Names as t.sessionId t.runId t.contextHash t.backend t.model ↔
        Names as req.sessionId req.runId req.contextHash req.backend req.model) := by
  obtain ⟨p', h', hans⟩ := h.split hes
  have hinv := run_provenance provenance_new h'
  rcases authorizeProviderExecution_mints (P := P) (p := p') env req with ⟨e, heq⟩ | ⟨id, hm⟩
  · rw [show ((system P).step p' (.authorizeProviderExecution env req)).1 = _ from
      congrArg Prod.fst heq] at hans
    cases hans
  · have hserves := hm.serves hinv.decision hans.symm
    obtain ⟨_, _, ha⟩ := hm.approved
    obtain ⟨e, he, happ⟩ := hinv.of_approves ha
    rw [hserves.session, hserves.run, hserves.contextHash, hserves.backend, hserves.model]
    exact ⟨happ.mem_approvedContexts he, Iff.rfl⟩

lemma step_of_issuedToken {env : Supply} {req : ProviderAuthorizationRequest} {t : CapabilityToken}
    (h : issuedToken (authorizeProviderExecution P env p req).1 = some t) :
    ((system P).step p (.authorizeProviderExecution env req)).1 = .authorization (.ok t) :=
  congrArg Answer.ofAuthorization (issuedToken_eq_some.mp h)

/-- The token for a backend and a model after the approval of "hi". -/
def approvedToken (backend model : Str) : Option CapabilityToken :=
  issuedToken (authorizeProviderExecution silentPlatform (fixedSupply 0 1)
    ((system silentPlatform).exec (fixedPipeline .default) approvedOps).2
    (fixedRequest backend model)).1

/-- The context is for "llama" at "groq", and either request is answered. -/
lemma approvedOps_answered :
    approvedContexts ((system silentPlatform).exec (fixedPipeline .default) approvedOps).1 =
      [fixedContext "hi"] ∧
    ∀ r ∈ [(("groq" : Str), ("llama" : Str)), ("openai", "gpt")],
      (approvedToken r.1 r.2).map (fun t =>
        (t.sessionId, t.runId, t.contextHash, t.backend, t.model)) =
          some (("s" : Str), ("r" : Str), fixedHash, r.1, r.2) := by decide +kernel

/-- A context for "llama" at "groq" is turned into a capability for "gpt" at "openai". -/
theorem authorized_for_another_provider :
    ∃ as p t, (system silentPlatform).Run (fixedPipeline .default) as p ∧
      ((system silentPlatform).step p (.authorizeProviderExecution (fixedSupply 0 1)
        (fixedRequest "openai" "gpt"))).1 = .authorization (.ok t) ∧
      approvedContexts as = [fixedContext "hi"] ∧
      Covers (fixedContext "hi") t.sessionId t.runId t.contextHash ∧
      ((fixedContext "hi").providerId, (fixedContext "hi").modelId) ≠ (t.backend, t.model) := by
  obtain ⟨t, ht, hfields⟩ := Option.map_eq_some_iff.mp
    (approvedOps_answered.2 ("openai", "gpt") (by simp))
  simp only [Prod.mk.injEq] at hfields
  obtain ⟨hs, hr, hc, hb, hm⟩ := hfields
  refine ⟨_, _, t, System.Run.of_exec _ approvedOps, step_of_issuedToken ht,
    approvedOps_answered.1, ⟨hs.symm, hr.symm, hc.symm⟩, ?_⟩
  rw [hb, hm]
  decide

theorem authorized_names_approved_iff_fixed :
    ∃ t, approvedToken "groq" "llama" = some t ∧
      Names ((system silentPlatform).exec (fixedPipeline .default) approvedOps).1
        t.sessionId t.runId t.contextHash t.backend t.model := by
  obtain ⟨t, ht, -⟩ := Option.map_eq_some_iff.mp
    (approvedOps_answered.2 ("groq", "llama") (by simp))
  have hrun := (System.Run.of_exec (M := system silentPlatform) (fixedPipeline .default)
    approvedOps).snoc (.authorizeProviderExecution (fixedSupply 0 1) (fixedRequest "groq" "llama"))
  rw [step_of_issuedToken ht] at hrun
  refine ⟨t, ht, (authorized_names_approved_iff hrun rfl).2.mpr ?_⟩
  intro envelope he _
  rw [approvedOps_answered.1, List.mem_singleton] at he
  subst he
  exact ⟨rfl, rfl⟩

end GovSec.Pipeline
