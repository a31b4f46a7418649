import GovSec.Provenance
import GovSec.SessionIsolation

/-!
The life of a capability in a run of the pipeline.

It is stored by the authorization that answers it and touched by its own consumption only, so
that its use count is the number of consumptions since. What the pipeline decides under, its
constitution and its time to live, no operation changes.
-/

namespace GovSec

open GovSec.Lib.Text GovSec.Lib.Maps GovSec.Lib.Actions GovSec.Lib.Runs

/-! ### The token of an authorization -/

namespace CapabilityStore

variable {P : Platform} {env : Supply} {s : CapabilityStore} {req : DecisionRequest}
  {t : CapabilityToken}

/-- A token says what a retry of the request must repeat. -/
structure Repeats (t : CapabilityToken) (req : DecisionRequest) : Prop where
  session : t.sessionId = req.sessionId
  principal : t.principalFingerprint = req.principalFingerprint
  backend : t.backend = req.backend
  model : t.model = req.model
  run : t.runId = req.runId
  contextHash : t.contextHash = req.contextHash
  policyVersion : t.policyVersion = req.policyVersion
  actionHash : t.actionHash = req.actionHash
  toolName : t.toolName = req.toolName
  resourceKind : t.resourceKind = req.resourceKind
  resourceLocator : t.resourceLocator = req.resourceLocator
  toolCallId : t.toolCallId = req.toolCallId
  actionPlane : t.actionPlane = req.actionPlane

lemma authorize_repeats (hok : (authorize P env s req).1 = some (.ok t)) : Repeats t req := by
  rcases (authorize_ok hok).2 with heq | ⟨id, d, hd, hsame, heq⟩
  · constructor <;> rw [heq]
  · simp only [DecisionRequest.sameScope, Bool.and_eq_true, decide_eq_true_eq, and_assoc] at hsame
    obtain ⟨hs, hp, hb, hm, -, hr, hc, hv, ha, ht, hk, hl, hi, hplane, -⟩ := hsame
    constructor <;> rw [heq] <;> assumption

/-- A token that was just answered: unused, of one use, under a time to live, and genuine. -/
structure Issued (P : Platform) (env : Supply) (ttl : ℤ) (t : CapabilityToken) : Prop where
  unused : t.useCount = 0
  single : t.maxUses = 1
  expires : addSeconds env.now ttl = some t.expiresAt
  genuine : SignsCorrectly P → CryptoEngine.verifies P t.canonical t.signature = true

lemma issueAfterAuthorization_issued {decisionId : Str} {s' : CapabilityStore}
    (h : issueAfterAuthorization P env s decisionId = some (.issued t, s')) :
    Issued P env s.defaultTtlSecs t ∧ s'.capabilities = s.capabilities.insert t.tokenId t ∧
      s'.defaultTtlSecs = s.defaultTtlSecs := by
  unfold issueAfterAuthorization at h
  split at h
  · cases h
  · next d _ =>
    split at h
    · cases h
    · split at h
      · cases h
      · next e he =>
        cases h
        refine ⟨⟨rfl, rfl, he, fun hsign => ?_⟩, rfl, rfl⟩
        exact (CryptoEngine.verifies_sign P _ _).trans (hsign _)

lemma recordDecision_keeps {r : Except CapabilityError Str} {s' : CapabilityStore}
    (h : recordDecision env s req = some (r, s')) :
    s'.capabilities = s.capabilities ∧ s'.defaultTtlSecs = s.defaultTtlSecs := by
  rcases recordDecision_cases h with ⟨_, -, rfl⟩ | ⟨_, _, -, rfl, -⟩ | ⟨-, -, -, rfl⟩ <;>
    exact ⟨rfl, rfl⟩

/-- **What an authorization does to the tokens**: it answers a new one and stores it, or leaves
them. -/
theorem authorize_tokens (P : Platform) (env : Supply) (s : CapabilityStore)
    (req : DecisionRequest) : (authorize P env s req).2.defaultTtlSecs = s.defaultTtlSecs ∧
      (((∀ t, (authorize P env s req).1 ≠ some (.ok t)) ∧
          (authorize P env s req).2.capabilities = s.capabilities) ∨
        ∃ t, (authorize P env s req).1 = some (.ok t) ∧
          Issued P (env.part 1) s.defaultTtlSecs t ∧
          (authorize P env s req).2.capabilities = s.capabilities.insert t.tokenId t) := by
  rcases authorize_cases P env s req with ⟨hno, heq⟩ | ⟨id, s₁, hr, ⟨hno, heq⟩ | ⟨t, s₂, hi, heq⟩⟩
  · exact ⟨by rw [heq], .inl ⟨hno, by rw [heq]⟩⟩
  · obtain ⟨hcaps, httl⟩ := recordDecision_keeps hr
    exact ⟨by rw [heq, httl], .inl ⟨hno, by rw [heq, hcaps]⟩⟩
  · obtain ⟨hcaps, httl⟩ := recordDecision_keeps hr
    obtain ⟨hissued, hstored, httl'⟩ := issueAfterAuthorization_issued hi
    rw [httl] at hissued
    rw [hcaps] at hstored
    rw [heq]
    exact ⟨httl'.trans httl, .inr ⟨t, rfl, hissued, hstored⟩⟩

lemma consume_authorized_iff {now : DateTime} {b : PresentedBinding}
    (ht : s.capabilities.lookup b.tokenId = some t) :
    (consume P s now b).1 = .authorized ↔ refusal P now t b = none := by
  unfold consume
  rw [ht]
  dsimp only
  cases hrefusal : refusal P now t b with
  | none => simp
  | some o =>
    have hne : o ≠ .authorized := fun ho => refusal_ne_authorized (ho ▸ hrefusal)
    simp [hne]

/-! ### The index -/

/-- Every decision of the index is stored. -/
def IndexStored (s : CapabilityStore) : Prop :=
  ∀ key id, s.decisionByTx.lookup key = some id → ∃ d, s.decisions.lookup id = some d

lemma indexStored_new : (new : CapabilityStore).IndexStored := fun key id h => by
  have hnone : (∅ : HashMap Str Str).lookup key = some id := h
  simp at hnone

/-- A request that is recorded has its decision stored. -/
lemma IndexStored.recordDecision (hs : s.IndexStored) {r : Except CapabilityError Str}
    {s' : CapabilityStore} (h : recordDecision env s req = some (r, s')) :
    s'.IndexStored ∧ ∀ id, r = .ok id → ∃ d, s'.decisions.lookup id = some d := by
  rcases recordDecision_cases h with ⟨e, rfl, rfl⟩ | ⟨id, d, rfl, rfl, -, -, hd, -⟩ |
    ⟨-, -, rfl, rfl⟩
  · exact ⟨hs, nofun⟩
  · exact ⟨hs, fun id' hid => ⟨d, Except.ok.inj hid ▸ hd⟩⟩
  · refine ⟨fun key id hid => ?_, fun id hid => ?_⟩
    · rw [lookup_insert_eq_ite] at hid
      rw [lookup_insert_eq_ite]
      split
      · exact ⟨_, rfl⟩
      · next hne =>
        split at hid
        · exact absurd (Option.some.inj hid).symm hne
        · exact hs key id hid
    · obtain rfl := Except.ok.inj hid
      exact ⟨_, Finmap.lookup_insert _⟩

lemma IndexStored.recordDecision_isSome (hs : s.IndexStored) (env : Supply)
    (req : DecisionRequest) :
    (CapabilityStore.recordDecision env s req).isSome = true := by
  unfold CapabilityStore.recordDecision
  split
  · rfl
  · dsimp only
    split
    · next id hid =>
      obtain ⟨d, hd⟩ := hs _ id hid
      rw [hd]
      dsimp only
      split <;> rfl
    · rfl

lemma issueAfterAuthorization_isSome (P : Platform) {id : Str}
    (hclock : (addSeconds env.now s.defaultTtlSecs).isSome = true) :
    (issueAfterAuthorization P env s id).isSome = true := by
  unfold issueAfterAuthorization
  split
  · rfl
  · split
    · rfl
    · split
      · next hnone => rw [hnone] at hclock; cases hclock
      · rfl

lemma IndexStored.authorize (hs : s.IndexStored) (P : Platform) (env : Supply)
    (req : DecisionRequest) :
    (authorize P env s req).2.IndexStored := by
  rcases authorize_cases P env s req with ⟨-, heq⟩ | ⟨id, s₁, hr, ⟨-, heq⟩ | ⟨t, s₂, hi, heq⟩⟩
  · rw [heq]
    exact hs
  · rw [heq]
    exact (hs.recordDecision hr).1
  · obtain ⟨hs₁, -⟩ := hs.recordDecision hr
    rw [heq]
    rcases issueAfterAuthorization_cases hi with ⟨-, h | h⟩ | ⟨d, _, hd, -, -, rfl⟩
    · cases h
    · cases h
    · intro key id' hid'
      obtain ⟨d', hd'⟩ := hs₁ key id' hid'
      rw [lookup_modifyAt]
      split
      · exact ⟨_, by rw [hd, Option.map_some]⟩
      · exact ⟨d', hd'⟩

/-- **An authorization panics only on its clock.** -/
lemma IndexStored.authorize_isSome (hs : s.IndexStored) (P : Platform) {env : Supply}
    (req : DecisionRequest)
    (hclock : (addSeconds (env.part 1).now s.defaultTtlSecs).isSome = true) :
    (CapabilityStore.authorize P env s req).1.isSome = true := by
  obtain ⟨⟨r, s₁⟩, hr⟩ := Option.isSome_iff_exists.mp (hs.recordDecision_isSome (env.part 0) req)
  have httl := (recordDecision_keeps hr).2
  unfold CapabilityStore.authorize
  rw [hr]
  cases r with
  | error e => rfl
  | ok id =>
    have hissue : (issueAfterAuthorization P (env.part 1) s₁ id).isSome = true :=
      issueAfterAuthorization_isSome P (httl ▸ hclock)
    obtain ⟨⟨o, s₂⟩, hi⟩ := Option.isSome_iff_exists.mp hissue
    dsimp only
    rw [hi]
    cases o <;> rfl

lemma IndexStored.consume (hs : s.IndexStored) (now : DateTime) (b : PresentedBinding) :
    (consume P s now b).2.IndexStored := by
  rcases consume_cases P s now b with ⟨-, heq⟩ | ⟨_, -, -, heq⟩ <;> rw [heq] <;> exact hs

end CapabilityStore

/-! ### What an operation asks of the store -/

namespace Pipeline

variable {P : Platform} {p p' : Pipeline} {es : History} {tid : Str} {t : CapabilityToken}

/-- The decision that an operation asks the store for. -/
inductive Op.Asks : Op → Supply → DecisionRequest → Prop
  | provider (env : Supply) (req : ProviderAuthorizationRequest) (verdictId : Str) :
    Op.Asks (.authorizeProviderExecution env req) env (req.decision verdictId)
  | action (env : Supply) (req : ActionAuthorizationRequest) (verdictId actionHash : Str)
      (disposition : ActionDisposition) (drs : ℕ) :
    Op.Asks (.authorizeActionExecution env req) env
      (req.decision verdictId { req.envelope with actionHash } disposition drs)

/-- The event answered the token of an id. -/
def answersToken (tid : Str) : Op × Answer → Bool
  | (_, .authorization (.ok t)) => t.tokenId = tid
  | _ => false

/-- The event consumed the token of an id. -/
def consumesToken (tid : Str) : Op × Answer → Bool
  | (.consumeProviderCapability _ binding, .consumed .authorized) => binding.tokenId = tid
  | _ => false

/-- The operation left the store and answered no token. -/
structure LeavesStore (P : Platform) (p : Pipeline) (op : Op) : Prop where
  store : (step P p op).2.capabilityStore = p.capabilityStore
  answers : ∀ tid, answersToken tid (op, (step P p op).1) = false
  consumes : ∀ tid, consumesToken tid (op, (step P p op).1) = false

lemma LeavesStore.of_refused {op : Op} {e : AuthorizationError}
    (h : step P p op = (.authorization (.error e), p)) : LeavesStore P p op := by
  constructor
  · rw [h]
  · exact fun _ => by rw [h]; rfl
  · exact fun _ => by rw [h]; cases op <;> rfl

lemma withPreauthorized_fst (haap? : Option HaapGate) :
    (p.withPreauthorized haap?).1 = .done ∨ (p.withPreauthorized haap?).1 = .panicked := by
  cases haap? with
  | some haap => exact .inl rfl
  | none => exact .inr rfl

/-- An operation answers no token when its answer is of another kind. -/
lemma LeavesStore.of_answer {op : Op} (h : KeepsStores p (step P p op).2)
    (hanswer : ∀ r, (step P p op).1 ≠ .authorization r)
    (hconsumed : ∀ o, (step P p op).1 ≠ .consumed o) : LeavesStore P p op where
  store := h.capabilityStore
  answers tid := by
    cases hstep : (step P p op).1 with
    | authorization r => exact absurd hstep (hanswer r)
    | _ => rfl
  consumes tid := by
    cases hstep : (step P p op).1 with
    | consumed o => exact absurd hstep (hconsumed o)
    | _ => cases op <;> rfl

/-- An authorization is refused, or it asks the store for a decision. -/
lemma authorization_cases (P : Platform) (p : Pipeline) (op : Op)
    (hop : op.authority.isSome = true) : (∃ e, step P p op = (.authorization (.error e), p)) ∨
      ∃ env req, op.Asks env req ∧ Mints P p op env req := by
  cases op with
  | authorizeProviderExecution env req =>
    exact (authorizeProviderExecution_mints env req).imp_right
      fun ⟨id, h⟩ => ⟨env, _, .provider env req id, h⟩
  | authorizeActionExecution env req =>
    rcases authorizeActionExecution_cases P env p req with
      ⟨e, heq, -⟩ | ⟨id, r, envelope, decision, ha, hs, -, -, heq⟩
    · exact .inl ⟨e, by rw [step, heq]; rfl⟩
    · obtain ⟨hash, rfl⟩ := ActionEnvelope.eq_of_seal hs
      exact .inr ⟨env, _, .action env req id hash _ _, rfl, ⟨id, r, ha⟩,
        ActionAuthorizationRequest.decision_shaped, by rw [step, heq]⟩
  | _ => cases hop

/-- **What an operation does to the store**: nothing, or it asks for a decision, or it consumes. -/
theorem step_store (P : Platform) (p : Pipeline) (op : Op) : LeavesStore P p op ∨
    (∃ env req, op.Asks env req ∧ Mints P p op env req) ∨
    ∃ now binding, op = .consumeProviderCapability now binding := by
  cases op with
  | inbound env userInput sessionId govTxId =>
    exact .inl ⟨(inbound_called P env userInput sessionId govTxId p).capabilityStore,
      fun _ => rfl, fun _ => rfl⟩
  | inboundContext env envelope govTxId =>
    exact .inl ⟨(inboundContext_called P env envelope govTxId p).capabilityStore,
      fun _ => rfl, fun _ => rfl⟩
  | authorizeProviderExecution env req =>
    rcases authorization_cases P p (.authorizeProviderExecution env req) rfl with ⟨e, h⟩ | h
    · exact .inl (.of_refused h)
    · exact .inr (.inl h)
  | authorizeActionExecution env req =>
    rcases authorization_cases P p (.authorizeActionExecution env req) rfl with ⟨e, h⟩ | h
    · exact .inl (.of_refused h)
    · exact .inr (.inl h)
  | consumeProviderCapability now binding => exact .inr (.inr ⟨now, binding, rfl⟩)
  | preauthorize now sessionId actionClass durationSecs =>
    have hanswer : (step P p (.preauthorize now sessionId actionClass durationSecs)).1 = .done ∨
        (step P p (.preauthorize now sessionId actionClass durationSecs)).1 = .panicked := by
      rw [step]
      exact withPreauthorized_fst _
    refine .inl (.of_answer (step_quiet rfl) (fun _ h => ?_) fun _ h => ?_)
    all_goals
      rw [h] at hanswer
      rcases hanswer with h | h <;> cases h
  | _ =>
    refine .inl (.of_answer (step_quiet rfl) (fun _ h => ?_) fun _ h => ?_)
    all_goals cases h

/-! ### The tokens of a run -/

lemma Mints.store {op : Op} {env : Supply} {req : DecisionRequest} (h : Mints P p op env req) :
    (step P p op).2.capabilityStore = (p.capabilityStore.authorize P env req).2 := by
  rw [h.step_eq]
  rfl

lemma Mints.answers_iff {op : Op} {env : Supply} {req : DecisionRequest}
    (h : Mints P p op env req) : (step P p op).1 = .authorization (.ok t) ↔
      (p.capabilityStore.authorize P env req).1 = some (.ok t) := by
  rw [h.step_eq]
  exact ⟨fun ht => ofAuthorization_eq ht, fun ht => congrArg Answer.ofAuthorization ht⟩

lemma answersToken_iff {e : Op × Answer} :
    answersToken tid e = true ↔ ∃ t, e.2 = .authorization (.ok t) ∧ t.tokenId = tid := by
  obtain ⟨op, answer⟩ := e
  constructor
  · intro h
    unfold answersToken at h
    split at h
    · next t heq =>
      cases heq
      exact ⟨t, rfl, of_decide_eq_true h⟩
    · cases h
  · rintro ⟨t, rfl, htid⟩
    exact decide_eq_true htid

lemma consumesToken_iff {e : Op × Answer} : consumesToken tid e = true ↔ ∃ now binding,
    e = (.consumeProviderCapability now binding, .consumed .authorized) ∧
      binding.tokenId = tid := by
  constructor
  · intro h
    unfold consumesToken at h
    split at h
    · next now binding => exact ⟨now, binding, rfl, of_decide_eq_true h⟩
    · cases h
  · rintro ⟨now, binding, rfl, htid⟩
    exact decide_eq_true htid

/-- A token is touched by its own consumption only, as long as its id is not answered again. -/
lemma step_token {op : Op} (h : p.capabilityStore.capabilities.lookup tid = some t)
    (hno : answersToken tid (op, (step P p op).1) = false) :
    (step P p op).2.capabilityStore.capabilities.lookup tid = some { t with
      useCount := t.useCount + (consumesToken tid (op, (step P p op).1)).toNat } := by
  rcases step_store P p op with hleft | ⟨env, req, hasks, hm⟩ | ⟨now, binding, rfl⟩
  · rw [hleft.store, hleft.consumes]
    exact h
  · have hconsumes : consumesToken tid (op, (step P p op).1) = false := by
      cases hasks <;> rfl
    rw [hm.store, hconsumes]
    rcases (CapabilityStore.authorize_tokens P env p.capabilityStore req).2 with
      ⟨-, hcaps⟩ | ⟨t', hok, -, hcaps⟩
    · rw [hcaps]
      exact h
    · have hne : tid ≠ t'.tokenId := by
        rintro rfl
        have hanswers : answersToken t'.tokenId (op, (step P p op).1) = true :=
          answersToken_iff.mpr ⟨t', hm.answers_iff.mpr hok, rfl⟩
        rw [hno] at hanswers
        cases hanswers
      rw [hcaps, Finmap.lookup_insert_of_ne _ hne]
      exact h
  · rw [show step P p (.consumeProviderCapability now binding) =
      (.consumed (p.capabilityStore.consume P now binding).1,
        { p with capabilityStore := (p.capabilityStore.consume P now binding).2 }) from rfl]
    rcases CapabilityStore.consume_cases P p.capabilityStore now binding with
      ⟨hne, hs⟩ | ⟨t', ht', -, hs⟩
    · have hconsumes : consumesToken tid (.consumeProviderCapability now binding,
          .consumed (p.capabilityStore.consume P now binding).1) = false := by
        rw [Bool.eq_false_iff]
        intro hc
        obtain ⟨_, _, heq, -⟩ := consumesToken_iff.mp hc
        exact hne (Answer.consumed.inj (Prod.mk.inj heq).2)
      rw [hconsumes, hs]
      exact h
    · rw [hs]
      by_cases htid : binding.tokenId = tid
      · obtain rfl : t' = t := Option.some.inj (ht'.symm.trans (htid.symm ▸ h))
        have hconsumes : consumesToken tid (.consumeProviderCapability now binding,
            .consumed .authorized) = true := decide_eq_true htid
        rw [hconsumes, ← htid]
        exact Finmap.lookup_insert _
      · have hconsumes : consumesToken tid (.consumeProviderCapability now binding,
            .consumed .authorized) = false := decide_eq_false htid
        rw [hconsumes]
        exact (Finmap.lookup_insert_of_ne _ (Ne.symm htid)).trans h

/-- **The life of a token**: after a run that does not answer its id again it is stored with the
consumptions counted. -/
theorem run_token {p₀ : Pipeline} (h : (system P).Run p₀ es p)
    (ht : p₀.capabilityStore.capabilities.lookup tid = some t)
    (hno : ∀ e ∈ es, answersToken tid e = false) :
    p.capabilityStore.capabilities.lookup tid = some { t with
      useCount := t.useCount + es.countP (consumesToken tid) } := by
  induction h with
  | nil => exact ht
  | @snoc es p h op ih =>
    have hlast := hno _ (List.mem_append_right _ (List.mem_singleton.mpr rfl))
    have hstep := step_token (ih fun e he => hno e (List.mem_append_left _ he)) hlast
    have hcount : List.countP (consumesToken tid) [(op, ((system P).step p op).1)] =
        (consumesToken tid (op, (step P p op).1)).toNat := by
      rw [List.countP_singleton]
      cases h : consumesToken tid (op, ((system P).step p op).1) <;>
        exact (congrArg Bool.toNat h).symm
    rw [List.countP_append, hcount, ← Nat.add_assoc]
    exact hstep

/-! ### What no operation changes -/

/-- The constitution and the time to live. -/
def decidesUnder (p : Pipeline) : Option ConstitutionalEvaluator × ℤ :=
  (p.constitutionalEvaluator, p.capabilityStore.defaultTtlSecs)

/-- A call that passes a text leaves the view of some other session, and so the constitution. -/
lemma step_evaluator (op : Op) :
    (step P p op).2.constitutionalEvaluator = p.constitutionalEvaluator := by
  cases hturn : op.turnSession with
  | some sessionId =>
    have hother : op.turnOn ('x' :: sessionId) = false := by
      unfold Op.turnOn
      rw [hturn]
      refine decide_eq_false fun h => ?_
      have hlength := congrArg List.length (Option.some.inj h)
      simp at hlength
    have hview := view_of_turn (P := P) (p := p) (by rw [hturn]; rfl) hother
    exact congrArg View.evaluator hview
  | none =>
    cases op with
    | inbound | inboundContext | outbound => cases hturn
    | authorizeProviderExecution env req =>
      rcases authorizeProviderExecution_mints (P := P) (p := p) env req with ⟨e, h⟩ | ⟨id, h⟩
      · rw [h]
      · rw [h.step_eq]
        rfl
    | authorizeActionExecution env req =>
      rcases authorizeActionExecution_mints (P := P) (p := p) env req with
        ⟨e, h⟩ | ⟨_, _, _, h⟩
      · rw [h]
      · rw [h.step_eq]
        rfl
    | operatorReset env sessionId operatorToken =>
      obtain ⟨_, _, _, _, h, -⟩ :=
        operatorReset_snd (P := P) (p := p) env sessionId operatorToken
      have hkept := congrArg Pipeline.constitutionalEvaluator h
      exact hkept
    | configureOperatorResetAuthority authority =>
      obtain ⟨_, h⟩ := configureOperatorResetAuthority_snd (p := p) authority
      have hkept := congrArg Pipeline.constitutionalEvaluator h
      exact hkept
    | preauthorize now sessionId actionClass durationSecs =>
      obtain ⟨_, h⟩ := withPreauthorized_snd (p := p)
        (p.haap.preauthorize now sessionId actionClass durationSecs)
      rw [step]
      have hkept := congrArg Pipeline.constitutionalEvaluator h
      exact hkept
    | _ => rfl

lemma step_decidesUnder (op : Op) : decidesUnder (step P p op).2 = decidesUnder p := by
  refine Prod.ext (step_evaluator op) ?_
  change (step P p op).2.capabilityStore.defaultTtlSecs = p.capabilityStore.defaultTtlSecs
  rcases step_store P p op with hleft | ⟨env, req, -, hm⟩ | ⟨now, binding, rfl⟩
  · rw [hleft.store]
  · rw [hm.store]
    exact (CapabilityStore.authorize_tokens P env p.capabilityStore req).1
  · rw [show (step P p (.consumeProviderCapability now binding)).2.capabilityStore =
      (p.capabilityStore.consume P now binding).2 from rfl]
    rcases CapabilityStore.consume_cases P p.capabilityStore now binding with
      ⟨-, hs⟩ | ⟨_, -, -, hs⟩ <;> rw [hs]

/-- **A run keeps what it decides under.** -/
theorem run_decidesUnder {p₀ : Pipeline} (h : (system P).Run p₀ es p) :
    decidesUnder p = decidesUnder p₀ :=
  h.invariant (I := fun _ p => decidesUnder p = decidesUnder p₀) rfl
    fun _ _ op h => (step_decidesUnder op).trans h

/-! ### The index of a run -/

lemma step_indexStored {op : Op} (h : p.capabilityStore.IndexStored) :
    (step P p op).2.capabilityStore.IndexStored := by
  rcases step_store P p op with hleft | ⟨env, req, -, hm⟩ | ⟨now, binding, rfl⟩
  · rw [hleft.store]
    exact h
  · rw [hm.store]
    exact h.authorize P env req
  · exact h.consume now binding

/-- **The index of a run is sound.** -/
theorem run_indexStored {p₀ : Pipeline} (h₀ : p₀.capabilityStore.IndexStored)
    (h : (system P).Run p₀ es p) : p.capabilityStore.IndexStored :=
  h.invariant (I := fun _ p => p.capabilityStore.IndexStored) h₀ fun _ _ _ h => step_indexStored h

/-- **An authorization panics only on its clock.** -/
theorem authorization_answers {op : Op} (h : p.capabilityStore.IndexStored)
    (hop : op.authority.isSome = true) (hclock : ∀ env req, op.Asks env req →
      (addSeconds (env.part 1).now p.capabilityStore.defaultTtlSecs).isSome = true) :
    ∃ r, (step P p op).1 = .authorization r := by
  rcases authorization_cases P p op hop with ⟨e, h⟩ | ⟨env, req, hasks, hm⟩
  · exact ⟨_, congrArg Prod.fst h⟩
  · obtain ⟨r, hr⟩ := Option.isSome_iff_exists.mp (h.authorize_isSome P req (hclock env req hasks))
    exact ⟨r, by rw [hm.step_eq, mint]; exact congrArg Answer.ofAuthorization hr⟩

lemma authorizes (h : p.capabilityStore.IndexStored) {env : Supply}
    (hclock : (addSeconds (env.part 1).now p.capabilityStore.defaultTtlSecs).isSome = true) :
    (∀ req, (p.authorizeProviderExecution P env req).1.isSome = true) ∧
      ∀ req, (p.authorizeActionExecution P env req).1.isSome = true := by
  have hsome {o : Option (Except AuthorizationError CapabilityToken)}
      {r : Except AuthorizationError CapabilityToken}
      (ho : Answer.ofAuthorization o = .authorization r) : o.isSome = true := by
    cases o with
    | none => cases ho
    | some _ => rfl
  constructor
  · intro req
    have hop : (Op.authorizeProviderExecution env req).authority.isSome = true := rfl
    obtain ⟨r, hr⟩ := authorization_answers (P := P) h hop fun _ _ hasks => by
      cases hasks
      exact hclock
    exact hsome hr
  · intro req
    have hop : (Op.authorizeActionExecution env req).authority.isSome = true := rfl
    obtain ⟨r, hr⟩ := authorization_answers (P := P) h hop fun _ _ hasks => by
      cases hasks
      exact hclock
    exact hsome hr

/-! ### The policy of a decision -/

/-- A request under the policy. -/
def Op.AsksUnder (policyHash : Str) : Op → Prop
  | .authorizeProviderExecution _ req => req.policyHash = policyHash
  | .authorizeActionExecution _ req => req.policyHash = policyHash
  | _ => True

/-- All stored decisions are under the policy. -/
def DecidedUnder (policyHash : Str) (p : Pipeline) : Prop :=
  ∀ id d, p.capabilityStore.decisions.lookup id = some d → d.policyHash = policyHash

variable {policyHash : Str}

lemma Op.Asks.under {op : Op} {env : Supply} {req : DecisionRequest} (h : op.Asks env req)
    (hop : op.AsksUnder policyHash) : req.policyHash = policyHash := by
  cases h <;> exact hop

lemma step_decidedUnder {op : Op} (hop : op.AsksUnder policyHash)
    (h : DecidedUnder policyHash p) : DecidedUnder policyHash (step P p op).2 := by
  intro id d hd
  rcases step_store P p op with hleft | ⟨env, req, hasks, hm⟩ | ⟨now, binding, rfl⟩
  · exact h id d (hleft.store ▸ hd)
  · rw [hm.store] at hd
    rcases CapabilityStore.authorize_decisions hd with ⟨d₀, hd₀, heq⟩ | ⟨-, heq⟩
    · rw [heq]
      exact h id d₀ hd₀
    · rw [heq]
      exact hasks.under hop
  · have hd' : (p.capabilityStore.consume P now binding).2.decisions.lookup id = some d := hd
    rcases CapabilityStore.consume_cases P p.capabilityStore now binding with
      ⟨-, hs⟩ | ⟨_, -, -, hs⟩ <;> rw [hs] at hd' <;> exact h id d hd'

/-- **A run of requests under one policy** decides under this policy. -/
theorem run_decidedUnder {p₀ : Pipeline} (h₀ : DecidedUnder policyHash p₀)
    (h : (system P).Run p₀ es p) (hes : ∀ e ∈ es, e.1.AsksUnder policyHash) :
    DecidedUnder policyHash p :=
  h.invariant_on h₀ (fun _ _ => step_decidedUnder) hes

/-- A retry does not repeat the policy; the token has it all the same. -/
lemma policyHash_of_authorize {env : Supply} {req : DecisionRequest}
    (hok : (p.capabilityStore.authorize P env req).1 = some (.ok t))
    (hreq : req.policyHash = policyHash) (h : DecidedUnder policyHash p) :
    t.policyHash = policyHash := by
  rcases (CapabilityStore.authorize_ok hok).2 with heq | ⟨id, d, hd, -, heq⟩
  · rw [heq, hreq]
  · rw [heq]
    exact h id d hd

end Pipeline

end GovSec
