import GovSec.ServerHandlers
import GovSec.SessionAuthority

/-!
What the replies about an approval say, beside what the endpoint of authorizations does next.

An approval is stored under the identifiers as they came, and looked up under the trimmed ones. An
approval of a plain text is stored under no context, where no authorization looks.
-/

namespace GovSec

open GovSec.Lib.Text GovSec.Lib.Maps GovSec.Lib.Actions GovSec.Lib.JsonText GovSec.SerdeJson
open GovSec.Pipeline (fixedContext fixedPipeline)
open GovSec.EvidenceGovernedPipeline (fixedGoverned)

/-! ### The ledger after an approval -/

namespace VerdictLedger

variable {env : Supply} {l : VerdictLedger} {c r govTxId sessionId runId : Str}
  {signal : GovernanceSignal}

/-- A verdict is found for the context of a session, and it is not one of another run. -/
def LooksUp (l : VerdictLedger) (contextHash sessionId runId : Str) : Prop :=
  l.resolveApproval contextHash sessionId runId ≠ .error .approvedVerdictMissing ∧
    l.resolveApproval contextHash sessionId runId ≠ .error .runIdMismatch

instance (contextHash sessionId runId : Str) : Decidable (l.LooksUp contextHash sessionId runId) :=
  inferInstanceAs (Decidable (_ ∧ _))

lemma indexKey_eq_iff {a sid sid' : Str} : indexKey a sid = indexKey a sid' ↔ sid = sid' := by
  simp [indexKey]

/-- The new approval is resolved for its run only. -/
lemma resolveApproval_recorded (hc : isSha256Hex c = true) (hd : signal.direction = .inbound) :
    (recordFinalApprovedInner env l govTxId signal (some c) (some r)).2.resolveApproval c
        signal.sessionId runId =
      if r = runId then
        .ok ("SV-" ++ env.fresh.simple, newRecord env govTxId signal (some c) (some r))
      else .error .runIdMismatch := by
  have hindex : (recordFinalApprovedInner env l govTxId signal (some c)
      (some r)).2.approvedVerdictIdByContext c signal.sessionId =
        some ("SV-" ++ env.fresh.simple) := Finmap.lookup_insert _
  have hfound : foundRecord ((recordFinalApprovedInner env l govTxId signal (some c)
      (some r)).2.resolveByContext ("SV-" ++ env.fresh.simple) signal.sessionId) =
        .ok (newRecord env govTxId signal (some c) (some r)) :=
    foundRecord_eq_ok.mpr ⟨Finmap.lookup_insert _, rfl⟩
  unfold resolveApproval
  rw [hindex]
  simp only [okOr, Bind.bind, Except.bind]
  rw [hfound]
  by_cases hr : r = runId <;> simp [newRecord, failIf, hc, hd, hr, pure, Except.pure]

/-- A drawn verdict id is that of the new record, of the session of its signal. -/
lemma resolveByContext_recorded (id : Str) (hne : sessionId ≠ signal.sessionId) :
    (recordFinalApprovedInner env l govTxId signal (some c) (some r)).2.resolveByContext id
        sessionId =
      if id = "SV-" ++ env.fresh.simple then
        (.sessionMismatch, some (newRecord env govTxId signal (some c) (some r)))
      else l.resolveByContext id sessionId := by
  have hstored : (recordFinalApprovedInner env l govTxId signal (some c)
      (some r)).2.verdicts.lookup id = if id = "SV-" ++ env.fresh.simple then
        some (newRecord env govTxId signal (some c) (some r)) else l.verdicts.lookup id :=
    lookup_insert_eq_ite ..
  have hsession : (newRecord env govTxId signal (some c) (some r)).sessionId ≠ sessionId :=
    Ne.symm hne
  unfold resolveByContext
  simp only [hstored]
  by_cases hv : id = "SV-" ++ env.fresh.simple
  · simp only [if_pos hv, if_pos hsession]
  · simp only [if_neg hv]

/-- Under another session the ledger leads where it did, or to a record of the first session when
the verdict id was drawn again. -/
lemma resolveApproval_recorded_ne (hc : isSha256Hex c = true)
    (hne : sessionId ≠ signal.sessionId) :
    (recordFinalApprovedInner env l govTxId signal (some c) (some r)).2.resolveApproval c
        sessionId runId =
      if l.approvedVerdictIdByContext c sessionId = some ("SV-" ++ env.fresh.simple) then
        .error .verdictSessionMismatch
      else l.resolveApproval c sessionId runId := by
  have hindex : (recordFinalApprovedInner env l govTxId signal (some c)
      (some r)).2.approvedVerdictIdByContext c sessionId =
        l.approvedVerdictIdByContext c sessionId :=
    Finmap.lookup_insert_of_ne _ (fun h => hne (indexKey_eq_iff.mp h))
  unfold resolveApproval
  rw [hindex]
  cases hid : l.approvedVerdictIdByContext c sessionId with
  | none => rfl
  | some id =>
    simp only [okOr, Bind.bind, Except.bind, failIf, hc, resolveByContext_recorded id hne,
      Option.some.injEq]
    by_cases hv : id = "SV-" ++ env.fresh.simple
    · simp only [if_pos hv]
      rfl
    · simp only [if_neg hv]

/-- **The new approval is looked up** under its own session exactly for its own run, and under
another session exactly where that session had an approval already. -/
theorem looksUp_recorded_iff (hc : isSha256Hex c = true) (hd : signal.direction = .inbound) :
    (recordFinalApprovedInner env l govTxId signal (some c) (some r)).2.LooksUp c sessionId runId ↔
      sessionId = signal.sessionId ∧ runId = r ∨ sessionId ≠ signal.sessionId ∧
        (l.approvedVerdictIdByContext c sessionId = some ("SV-" ++ env.fresh.simple) ∨
          l.LooksUp c sessionId runId) := by
  unfold LooksUp
  by_cases hs : sessionId = signal.sessionId
  · rw [hs, resolveApproval_recorded hc hd]
    by_cases hr : r = runId
    · simp [hr]
    · simp [hr, Ne.symm hr]
  · rw [resolveApproval_recorded_ne hc hs]
    by_cases hv : l.approvedVerdictIdByContext c sessionId = some ("SV-" ++ env.fresh.simple)
    · rw [if_pos hv]
      simp only [hs, hv, false_and, true_or, false_or, ne_eq, not_false_eq_true, reduceCtorEq,
        Except.error.injEq, and_self]
    · rw [if_neg hv]
      simp only [hs, hv, false_and, false_or, ne_eq, not_false_eq_true, true_and]

/-- An approval without a context approves none. -/
lemma not_approves_recorded {record : VerdictRecord} :
    ¬ (recordFinalApprovedInner env l govTxId signal none none).2.Approves c sessionId runId
      ("SV-" ++ env.fresh.simple) record := by
  intro h
  have hstored : (recordFinalApprovedInner env l govTxId signal none none).2.verdicts.lookup
      ("SV-" ++ env.fresh.simple) = some (newRecord env govTxId signal none none) :=
    Finmap.lookup_insert _
  obtain rfl := Option.some.inj (hstored.symm.trans h.stored)
  cases h.context

end VerdictLedger

/-! ### Trimmed fields -/

/-- A hash has no white space. -/
lemma trim_of_isSha256Hex {t : Str} (h : isSha256Hex t = true) : trim t = t := by
  have hv : validateSha256 "external" t = .ok () := of_decide_eq_true h
  rw [validateSha256, failIf_eq_ok, not_or, not_not, not_not, List.all_eq_true] at hv
  have hblank : ∀ c ∈ t, isWhitespace c = false := by
    intro c hc
    have hhex := hv.2 c hc
    simp only [isLowerHexChar, Char.isDigit, Bool.or_eq_true, Bool.and_eq_true, decide_eq_true_eq,
      ge_iff_le, Char.le_def, UInt32.le_iff_toNat_le] at hhex
    simp only [isWhitespace, Bool.or_eq_false_iff, Bool.and_eq_false_iff, decide_eq_false_iff_not,
      beq_eq_false_iff_ne, Char.toNat]
    change (48 ≤ c.val.toNat ∧ c.val.toNat ≤ 57) ∨ (97 ≤ c.val.toNat ∧ c.val.toNat ≤ 102) at hhex
    omega
  simpa using @trim_surrounded t [] [] (by simp) hblank (by simp)

lemma ne_nil_of_isSha256Hex {t : Str} (h : isSha256Hex t = true) : t ≠ [] := by
  rintro rfl
  exact absurd h (by decide)

/-- The identifiers of a context that verifies are not blank. -/
lemma ModelContextEnvelope.trim_of_verify {P : Platform} {e : ModelContextEnvelope}
    (h : e.verify P = .ok ()) : trim e.sessionId ≠ [] ∧ trim e.runId ≠ [] := by
  obtain ⟨_, hv, -⟩ := bind_eq_ok.mp h
  obtain ⟨_, -, hv⟩ := bind_eq_ok.mp hv
  obtain ⟨_, hsession, hv⟩ := bind_eq_ok.mp hv
  obtain ⟨_, hrun, -⟩ := bind_eq_ok.mp hv
  obtain ⟨_, hs, -⟩ := bind_eq_ok.mp hsession
  obtain ⟨_, hr, -⟩ := bind_eq_ok.mp hrun
  exact ⟨failIf_eq_ok.mp hs, failIf_eq_ok.mp hr⟩

/-! ### The errors of an authorization -/

lemma ApprovalError.head?_debug (a : ApprovalError) :
    a.debug.head? ≠ some 'D' ∧ a.debug.head? ≠ some 'E' ∧
      a.debug ≠ AuthorizationError.alreadyIssued.debug := by
  cases a <;> decide +kernel

lemma ApprovalError.debug_injective : Function.Injective ApprovalError.debug := by
  intro a b h
  cases a <;> cases b <;> first | rfl | exact absurd h (by decide +kernel)

/-- The `Debug` form tells an approval error from every other error. -/
lemma AuthorizationError.eq_of_debug {e : AuthorizationError} {a : ApprovalError}
    (h : e.debug = a.debug) : e = .approval a := by
  obtain ⟨hd, he, hissued⟩ := a.head?_debug
  rw [← h] at hd he
  cases e with
  | approval b => rw [ApprovalError.debug_injective h]
  | envelope e => exact absurd rfl he
  | denied risks => exact absurd rfl hd
  | decision e => exact absurd rfl hd
  | decisionNotFound => exact absurd rfl hd
  | alreadyIssued => exact absurd h.symm hissued

/-- Once the approval is found, what fails is not the approval. -/
lemma Pipeline.authorizeProviderExecution_approval_iff {P : Platform} {env : Supply} {p : Pipeline}
    {req : ProviderAuthorizationRequest} {a : ApprovalError} :
    (p.authorizeProviderExecution P env req).1 = some (.error (.approval a)) ↔
      p.verdictLedger.resolveApproval req.contextHash req.sessionId req.runId = .error a := by
  unfold authorizeProviderExecution
  cases h : p.verdictLedger.resolveApproval req.contextHash req.sessionId req.runId with
  | error e => simp
  | ok v =>
    simp only [reduceCtorEq, iff_false]
    unfold mint CapabilityStore.authorize
    dsimp only
    split
    · simp
    · simp
    · split <;> simp

namespace Server

variable {P : Platform} {K : KeyRing P} {S : Service} {env env' : Supply}
  {fault fault' : Option EvidenceSinkError} {g : EvidenceGovernedPipeline}

/-! ### Replies that offer an authorization -/

/-- The reply says that the provider can be authorized. -/
def Response.OffersProvider (r : Response) : Prop := r.flag "provider_authorizable" = some true

instance (r : Response) : Decidable r.OffersProvider := inferInstanceAs (Decidable (_ = _))

lemma not_offersProvider_setMember {status : ℕ} {value : JsonTree} :
    ¬ Response.OffersProvider ⟨status, setMember value "provider_authorizable" (.bool false)⟩ := by
  intro hflag
  unfold Response.OffersProvider Response.flag at hflag
  dsimp only at hflag
  rcases member_setMember_self with h | h
  · rw [h] at hflag
    cases hflag
  · rw [h] at hflag
    cases hflag

/-- A member of another key does not change what the reply says. -/
lemma offersProvider_setMember_iff {status : ℕ} {value j : JsonTree} {key : Str}
    (hkey : key ≠ "provider_authorizable") :
    Response.OffersProvider ⟨status, setMember value key j⟩ ↔
      Response.OffersProvider ⟨status, value⟩ := by
  unfold Response.OffersProvider Response.flag
  rw [member_setMember_of_ne hkey]

/-- Only an approval with its verdict offers an authorization. -/
lemma approved_of_inspectReply {r : EnforcementResult} {verdictId : Option Str}
    {sessionId govTxId : Str} (h : (inspectReply r verdictId sessionId govTxId).OffersProvider) :
    r.isApproved = true ∧ ∃ v, verdictId = some v := by
  cases r with
  | approved content =>
    cases verdictId with
    | none =>
      have hfalse : some false = some true := h
      cases hfalse
    | some v => exact ⟨rfl, v, rfl⟩
  | _ => exact absurd h not_offersProvider_setMember

/-- The reply names the session, the run and the context of an envelope. -/
structure Response.Offers (r : Response) (envelope : ModelContextEnvelope) : Prop where
  sessionId : r.text "session_id" = some envelope.sessionId
  runId : r.text "run_id" = some envelope.runId
  contextHash : r.text "context_hash" = some envelope.contextHash

lemma approved_of_contextReply {envelope : ModelContextEnvelope} {verdictId : Option Str}
    {govTxId : Str} {receipt : EvidenceAppendReceipt}
    {answer : Except EnvelopeError EnforcementResult}
    (h : (contextReply envelope verdictId govTxId receipt answer).OffersProvider) :
    (∃ r, answer = .ok r ∧ r.isApproved = true) ∧
      (contextReply envelope verdictId govTxId receipt answer).Offers envelope := by
  cases answer with
  | error e =>
    have hnone : none = some true := h
    cases hnone
  | ok r =>
    cases r with
    | approved content =>
      cases verdictId with
      | none =>
        have hfalse : some false = some true := h
        cases hfalse
      | some v => exact ⟨⟨_, rfl, rfl⟩, rfl, rfl, rfl⟩
    | _ =>
      unfold contextReply at h
      dsimp only at h
      rw [offersProvider_setMember_iff (by decide), offersProvider_setMember_iff (by decide)] at h
      exact absurd h not_offersProvider_setMember

/-! ### An echoed approval -/

/-- The fields of an approval that a request to authorize repeats. -/
def echoedKeys : List Str := ["session_id", "run_id", "context_hash"]

/-- The request repeats the session, the run and the context of the reply. -/
def Echoes (reply : Response) (value : JsonTree) : Prop :=
  ∀ key ∈ echoedKeys, (member value key).bind readString = reply.text key

instance (reply : Response) (value : JsonTree) : Decidable (Echoes reply value) :=
  inferInstanceAs (Decidable (∀ key ∈ _, _))

/-- The other fields of the request are there and not blank. -/
def FillsIn (value : JsonTree) : Prop :=
  ∀ key ∈ (["gov_tx_id", "backend", "model", "action_class"] : List Str),
    trim (((member value key).bind readString).getD []) ≠ []

instance (value : JsonTree) : Decidable (FillsIn value) :=
  inferInstanceAs (Decidable (∀ key ∈ _, _))

/-- The request is refused with an error. -/
def RefusedWith (reply : Option Response) (error : Str) : Prop :=
  reply.map (·.status) = some 403 ∧ reply.bind (·.text "error") = some error

instance (reply : Option Response) (error : Str) : Decidable (RefusedWith reply error) :=
  inferInstanceAs (Decidable (_ ∧ _))

/-- The request is understood and the approval is found, for its own run. -/
def FindsApproval (reply : Option Response) : Prop :=
  ¬ RefusedWith reply "ApprovedVerdictMissing" ∧ ¬ RefusedWith reply "RunIdMismatch" ∧
    reply.map (·.status) ≠ some 400

instance (reply : Option Response) : Decidable (FindsApproval reply) :=
  inferInstanceAs (Decidable (_ ∧ _))

/-- The verdict id that an approval draws. -/
def newVerdictId (env : Supply) : Str := "SV-" ++ (((env.part 1).part 0).part 3).fresh.simple

/-- The identifiers of the context come back from trimming as they are. Failing that, the trimmed
session has a verdict for the context already: the one now drawn, or one that its own check does
not refuse for the trimmed run. -/
def Findable (env : Supply) (g : EvidenceGovernedPipeline) (envelope : ModelContextEnvelope) :
    Prop :=
  trim envelope.sessionId = envelope.sessionId ∧ trim envelope.runId = envelope.runId ∨
    trim envelope.sessionId ≠ envelope.sessionId ∧
      (g.pipeline.verdictLedger.approvedVerdictIdByContext envelope.contextHash
          (trim envelope.sessionId) = some (newVerdictId env) ∨
        g.pipeline.verdictLedger.LooksUp envelope.contextHash (trim envelope.sessionId)
          (trim envelope.runId))

/-- What an approved context leaves: its approval in the ledger, and the reply that names it. -/
lemma approved_of_offersProvider {envelope : ModelContextEnvelope}
    (h : (handleContextInspect P K env fault g (.ok envelope)).1.OffersProvider) :
    (handleContextInspect P K env fault g (.ok envelope)).1.Offers envelope ∧
    envelope.verify P = .ok () ∧
    ∃ govTxId signal, Pipeline.Reports envelope.sessionId .inbound signal ∧
      (handleContextInspect P K env fault g (.ok envelope)).2.pipeline.verdictLedger =
        (g.pipeline.verdictLedger.recordFinalApprovedInner (((env.part 1).part 0).part 3) govTxId
          signal (some envelope.contextHash) (some envelope.runId)).2 := by
  obtain ⟨⟨r, hanswer, happ⟩, hoffers⟩ := approved_of_contextReply h
  have hr : (result (Pipeline.inboundContext P ((env.part 1).part 0) envelope
    (newGovTxId (env.part 0))) g.pipeline).1 = .ok r := hanswer
  refine ⟨hoffers, ?_⟩
  rcases Pipeline.inboundContext_records P ((env.part 1).part 0) (newGovTxId (env.part 0)) envelope
    g.pipeline with ⟨e, he, -⟩ | ⟨hverify, r', hr', govTxId, signal, hsignal, hledger⟩
  · rw [hr] at he
    cases he
  · obtain rfl := Except.ok.inj (hr.symm.trans hr')
    rw [happ, if_pos rfl] at hledger
    exact ⟨hverify, govTxId, signal, hsignal, hledger⟩

variable (P S) in
/-- A request that repeats an offer asks for the trimmed run of the trimmed session. -/
lemma providerRequest_of_echoes (p : Pipeline) {reply : Response} {value : JsonTree}
    {envelope : ModelContextEnvelope} (hverify : envelope.verify P = .ok ())
    (hoffers : reply.Offers envelope) (hechoes : Echoes reply value) (hfills : FillsIn value) :
    ∃ req, providerRequest P S p value = .ok req ∧ req.contextHash = envelope.contextHash ∧
      req.sessionId = trim envelope.sessionId ∧ req.runId = trim envelope.runId := by
  have hhash := ModelContextEnvelope.isSha256Hex_of_verify hverify
  have htrim := trim_of_isSha256Hex hhash
  obtain ⟨hsession, hrun⟩ := ModelContextEnvelope.trim_of_verify hverify
  have hsession' := requiredJsonString_of_text
    ((hechoes "session_id" (by simp [echoedKeys])).trans hoffers.sessionId) hsession
  have hrun' := requiredJsonString_of_text
    ((hechoes "run_id" (by simp [echoedKeys])).trans hoffers.runId) hrun
  have hhash' := requiredJsonString_of_text
    ((hechoes "context_hash" (by simp [echoedKeys])).trans hoffers.contextHash)
    (htrim.symm ▸ ne_nil_of_isSha256Hex hhash)
  have hfilled (key : Str) (h : trim (((member value key).bind readString).getD []) ≠ []) :
      ∃ t, requiredJsonString value key = .ok t := ⟨_, if_neg h⟩
  obtain ⟨govTxId, htx⟩ := hfilled _ (hfills "gov_tx_id" (by simp))
  obtain ⟨backend, hbackend⟩ := hfilled _ (hfills "backend" (by simp))
  obtain ⟨model, hmodel⟩ := hfilled _ (hfills "model" (by simp))
  obtain ⟨actionClass, haction⟩ := hfilled _ (hfills "action_class" (by simp))
  rw [htrim] at hhash'
  simp only [providerRequest, htx, hsession', hbackend, hmodel, haction, hhash', hrun', Bind.bind,
    Except.bind]
  exact ⟨_, rfl, rfl, rfl, rfl⟩

variable (K env fault) in
/-- The reply to a request that is understood is that of the pipeline's answer. -/
lemma handleProviderAuthorize_of_request {value : JsonTree} {req : ProviderAuthorizationRequest}
    (h : providerRequest P S g.pipeline value = .ok req) :
    ∃ receipt, (handleProviderAuthorize P K S env fault g (some value)).1 =
      (g.pipeline.authorizeProviderExecution P (env.part 0) req).1.map
        (providerReply S receipt) := by
  simp only [handleProviderAuthorize, h,
    EvidenceGovernedPipeline.authorizeProviderExecutionWithEvidence]
  obtain ⟨_ | answer, pipeline⟩ := g.pipeline.authorizeProviderExecution P (env.part 0) req
  · exact ⟨⟨[], [], 0, [], .notConfigured⟩, rfl⟩
  · exact ⟨_, rfl⟩

variable (S) in
/-- A reply with the error of an approval is to a request that failed at it. -/
lemma refusedWith_iff (o : Option (Except AuthorizationError CapabilityToken))
    (receipt : EvidenceAppendReceipt) (a : ApprovalError) :
    RefusedWith (o.map (providerReply S receipt)) a.debug ↔ o = some (.error (.approval a)) := by
  rcases o with _ | e | token
  · simp [RefusedWith]
  · have hreply : RefusedWith (some (providerReply S receipt (.error e))) a.debug ↔
        some e.debug = some a.debug := ⟨fun h => h.2, fun h => ⟨rfl, h⟩⟩
    simp only [Option.map_some, hreply, Option.some.injEq, Except.error.injEq]
    exact ⟨AuthorizationError.eq_of_debug, by rintro rfl; rfl⟩
  · have hstatus : (providerReply S receipt (.ok token)).status = 200 := rfl
    simp [RefusedWith, hstatus]

/-- A request that is understood finds its approval when the ledger does. -/
lemma findsApproval_iff {value : JsonTree} {req : ProviderAuthorizationRequest}
    (h : providerRequest P S g.pipeline value = .ok req) :
    FindsApproval (handleProviderAuthorize P K S env fault g (some value)).1 ↔
      g.pipeline.verdictLedger.LooksUp req.contextHash req.sessionId req.runId := by
  obtain ⟨receipt, hreply⟩ := handleProviderAuthorize_of_request K env fault h
  have hrefused := refusedWith_iff S
    (g.pipeline.authorizeProviderExecution P (env.part 0) req).1 receipt
  simp only [Pipeline.authorizeProviderExecution_approval_iff] at hrefused
  have hstatus : ((g.pipeline.authorizeProviderExecution P (env.part 0) req).1.map
      (providerReply S receipt)).map (·.status) ≠ some 400 := by
    rcases (g.pipeline.authorizeProviderExecution P (env.part 0) req).1 with _ | e | token <;>
      simp [providerReply]
  rw [hreply]
  constructor
  · rintro ⟨hmissing, hrun, -⟩
    exact ⟨fun h => hmissing ((hrefused .approvedVerdictMissing).mpr h),
      fun h => hrun ((hrefused .runIdMismatch).mpr h)⟩
  · rintro ⟨hmissing, hrun⟩
    exact ⟨fun h => hmissing ((hrefused .approvedVerdictMissing).mp h),
      fun h => hrun ((hrefused .runIdMismatch).mp h), hstatus⟩

/-- **When an echoed approval is found**: the next request to authorize, which repeats the session,
the run and the context of an approval and fills in the rest, finds it exactly when the
identifiers are findable. -/
theorem echo_findsApproval_iff {envelope : ModelContextEnvelope} {value : JsonTree}
    (hoffers : (handleContextInspect P K env fault g (.ok envelope)).1.OffersProvider)
    (hechoes : Echoes (handleContextInspect P K env fault g (.ok envelope)).1 value)
    (hfills : FillsIn value) :
    FindsApproval (handleProviderAuthorize P K S env' fault'
        (handleContextInspect P K env fault g (.ok envelope)).2 (some value)).1 ↔
      Findable env g envelope := by
  obtain ⟨hnamed, hverify, govTxId, signal, ⟨hsession, hdirection⟩, hledger⟩ :=
    approved_of_offersProvider hoffers
  obtain ⟨req, hreq, hhash, hsid, hrun⟩ := providerRequest_of_echoes P S
    (handleContextInspect P K env fault g (.ok envelope)).2.pipeline hverify hnamed hechoes hfills
  rw [findsApproval_iff hreq, hledger, hhash, hsid, hrun,
    VerdictLedger.looksUp_recorded_iff (ModelContextEnvelope.isSha256Hex_of_verify hverify)
      hdirection, hsession]
  exact Iff.rfl

/-- A service that writes no instant. -/
def fixedService : Service := ⟨"t", "GENERAL", "V1", fun _ => []⟩

/-- A request that repeats the offer of a context. -/
def echo (envelope : ModelContextEnvelope) : JsonTree :=
  .object
    [("gov_tx_id", .string "tx"), ("session_id", .string envelope.sessionId),
      ("backend", .string "b"), ("model", .string "m"), ("action_class", .string "a"),
      ("context_hash", .string envelope.contextHash), ("run_id", .string envelope.runId)]

lemma echoes_echo {envelope : ModelContextEnvelope}
    (h : (handleContextInspect P K env fault g (.ok envelope)).1.OffersProvider) :
    Echoes (handleContextInspect P K env fault g (.ok envelope)).1 (echo envelope) := by
  obtain ⟨⟨hsession, hrun, hhash⟩, -⟩ := approved_of_offersProvider h
  simp only [Echoes, echoedKeys, List.forall_mem_cons, hsession, hrun, hhash]
  exact ⟨rfl, rfl, rfl, List.forall_mem_nil _⟩

lemma fillsIn_echo (envelope : ModelContextEnvelope) : FillsIn (echo envelope) := by
  have hfields : ∀ key ∈ (["gov_tx_id", "backend", "model", "action_class"] : List Str),
      (member (echo envelope) key).bind readString = (member (echo (fixedContext [])) key).bind
        readString := by
    simp only [List.forall_mem_cons]
    exact ⟨rfl, rfl, rfl, rfl, List.forall_mem_nil _⟩
  intro key hkey
  rw [hfields key hkey]
  have hfilled : FillsIn (echo (fixedContext [])) := by decide +kernel
  exact hfilled key hkey

theorem echo_findsApproval_iff_hi :
    FindsApproval (handleProviderAuthorize silentPlatform (fixedKeys _) fixedService
        (fixedSupply 1 1) none (handleContextInspect silentPlatform (fixedKeys _) (fixedSupply 0 0)
          none fixedGoverned (.ok (fixedContext "hi"))).2
        (some (echo (fixedContext "hi")))).1 ↔
      Findable (fixedSupply 0 0) fixedGoverned (fixedContext "hi") :=
  have hoffers : (handleContextInspect silentPlatform (fixedKeys _) (fixedSupply 0 0) none
      fixedGoverned (.ok (fixedContext "hi"))).1.OffersProvider := by
    decide +kernel
  echo_findsApproval_iff hoffers (echoes_echo hoffers) (fillsIn_echo _)

/-- The context of a session whose id starts with a space. -/
def spacedContext : ModelContextEnvelope := { fixedContext "hi" with sessionId := " s" }

/-- The space is trimmed from the session, and no approval is found. -/
theorem echo_not_findsApproval :
    ¬ ∀ (envelope : ModelContextEnvelope) (value : JsonTree),
      (handleContextInspect silentPlatform (fixedKeys _) (fixedSupply 0 0) none
          fixedGoverned (.ok envelope)).1.OffersProvider →
        Echoes (handleContextInspect silentPlatform (fixedKeys _) (fixedSupply 0 0) none
          fixedGoverned (.ok envelope)).1 value →
        FillsIn value →
        FindsApproval (handleProviderAuthorize silentPlatform (fixedKeys _) fixedService
          (fixedSupply 1 1) none (handleContextInspect silentPlatform (fixedKeys _)
            (fixedSupply 0 0) none fixedGoverned (.ok envelope)).2
          (some value)).1 := by
  intro h
  have hoffers : (handleContextInspect silentPlatform (fixedKeys _) (fixedSupply 0 0) none
      fixedGoverned (.ok spacedContext)).1.OffersProvider := by
    decide +kernel
  have hfinds := h spacedContext _ hoffers (echoes_echo hoffers) (fillsIn_echo _)
  have hrefused : RefusedWith (handleProviderAuthorize silentPlatform (fixedKeys _) fixedService
      (fixedSupply 1 1) none (handleContextInspect silentPlatform (fixedKeys _) (fixedSupply 0 0)
        none fixedGoverned (.ok spacedContext)).2 (some (echo spacedContext))).1
      "ApprovedVerdictMissing" := by
    decide +kernel
  exact hfinds.1 hrefused

/-! ### An offer without a context -/

/-- The request is granted, and the approval that lets it through is the one of the verdict. -/
def GrantedOn (P : Platform) (K : KeyRing P) (S : Service) (env : Supply)
    (fault : Option EvidenceSinkError) (g : EvidenceGovernedPipeline) (value : JsonTree)
    (verdictId : Str) : Prop :=
  (handleProviderAuthorize P K S env fault g (some value)).1.map (·.status) = some 200 ∧
    ∃ req record, providerRequest P S g.pipeline value = .ok req ∧
      g.pipeline.verdictLedger.Approves req.contextHash req.sessionId req.runId verdictId record

/-- When a text is answered with an offer, some next request to authorize is granted on the
verdict that the answer names. -/
def FlagTruthful (P : Platform) (K : KeyRing P) (S : Service) (env : Supply)
    (g : EvidenceGovernedPipeline) (body : Option JsonTree) : Prop :=
  (handleInspect P env g body).1.OffersProvider →
    ∃ verdictId, (handleInspect P env g body).1.text "verdict_id" = some verdictId ∧
      ∃ env' fault value, GrantedOn P K S env' fault (handleInspect P env g body).2 value verdictId

/-- An offered text has an approval in the ledger that is stored under no context. -/
lemma recorded_of_offersProvider {body : Option JsonTree}
    (h : (handleInspect P env g body).1.OffersProvider) :
    ∃ env' govTxId signal,
      (handleInspect P env g body).1.text "verdict_id" =
        some ("SV-" ++ env'.fresh.simple : Str) ∧
      (handleInspect P env g body).2.pipeline.verdictLedger =
        (g.pipeline.verdictLedger.recordFinalApprovedInner env' govTxId signal none none).2 := by
  cases body with
  | none =>
    have hnone : none = some true := h
    cases hnone
  | some value =>
    cases hfields : inspectFields value with
    | error error =>
      simp only [handleInspect, hfields] at h
      have hnone : none = some true := h
      cases hnone
    | ok fields =>
      obtain ⟨payload, sessionId⟩ := fields
      simp only [handleInspect, hfields] at h ⊢
      obtain ⟨signal, ⟨hsession, -⟩, hledger⟩ := Pipeline.inbound_ledger P (env.part 1)
        sessionId payload (newGovTxId (env.part 0)) g.pipeline
      generalize result (Pipeline.inbound P (env.part 1) payload sessionId
        (newGovTxId (env.part 0))) g.pipeline = called at h hledger ⊢
      obtain ⟨r, pipeline⟩ := called
      dsimp only at h hledger ⊢
      obtain ⟨happ, v, hv⟩ := approved_of_inspectReply h
      rw [happ, if_pos rfl] at hledger
      have hindex : pipeline.verdictLedger.approvedVerdictId (newGovTxId (env.part 0)) sessionId =
          some ("SV-" ++ ((env.part 1).part 2).fresh.simple) := by
        rw [hledger, ← hsession]
        exact Finmap.lookup_insert _
      refine ⟨(env.part 1).part 2, _, signal, ?_, hledger⟩
      rw [hindex]
      cases r with
      | approved content => rfl
      | _ => cases happ

/-- No request is granted on the verdict of an offered text, for its session or another. -/
lemma not_grantedOn_of_offersProvider {body : Option JsonTree} {value : JsonTree} {verdictId : Str}
    (h : (handleInspect P env g body).1.OffersProvider)
    (hnamed : (handleInspect P env g body).1.text "verdict_id" = some verdictId) :
    ¬ GrantedOn P K S env' fault (handleInspect P env g body).2 value verdictId := by
  rintro ⟨-, req, record, -, happroves⟩
  obtain ⟨env₁, govTxId, signal, hrecorded, hledger⟩ := recorded_of_offersProvider h
  obtain rfl := Option.some.inj (hrecorded.symm.trans hnamed)
  rw [hledger] at happroves
  exact VerdictLedger.not_approves_recorded happroves

/-- **The offer is never kept**: when the answer to a text says that the provider can be
authorized, no next request to authorize is granted on its verdict. -/
theorem not_flagTruthful {body : Option JsonTree}
    (h : (handleInspect P env g body).1.OffersProvider) : ¬ FlagTruthful P K S env g body := by
  intro htruthful
  obtain ⟨verdictId, hnamed, env', fault, value, hgranted⟩ := htruthful h
  exact not_grantedOn_of_offersProvider h hnamed hgranted

/-- A text for the session "s". -/
def hiBody : JsonTree := .object [("payload", .string "hi"), ("session_id", .string "s")]

lemma offersProvider_hi : (handleInspect silentPlatform (fixedSupply 0 0) fixedGoverned
    (some hiBody)).1.OffersProvider := by
  decide +kernel

theorem not_flagTruthful_hi :
    ¬ FlagTruthful silentPlatform (fixedKeys _) fixedService (fixedSupply 0 0) fixedGoverned
      (some hiBody) :=
  not_flagTruthful offersProvider_hi

theorem not_forall_flagTruthful :
    ¬ ∀ value : JsonTree, FlagTruthful silentPlatform (fixedKeys _) fixedService (fixedSupply 0 0)
      fixedGoverned (some value) := by
  intro htruthful
  obtain ⟨verdictId, hnamed, env', fault, value, hgranted⟩ :=
    htruthful hiBody offersProvider_hi
  exact not_grantedOn_of_offersProvider offersProvider_hi hnamed hgranted

end Server

end GovSec
