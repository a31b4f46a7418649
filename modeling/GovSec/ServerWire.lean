import GovSec.ServerRouting

/-!
What the server writes is read back: whatever a connection brings, the reply is one message, and a
reply that is a tree is an object of JSON with the members that its handler gave.
-/

namespace GovSec.Server

open GovSec.Lib GovSec.Lib.Text GovSec.Lib.Maps GovSec.Lib.Runs GovSec.Lib.JsonText
open GovSec.Lib.Streams
open GovSec.SerdeJson
open Stream' (Seq)

variable {P : Platform} {K : KeyRing P} {S : Service} {V : Serde}

/-! ### Well-formed objects -/

@[simp] lemma wellFormed_null : WellFormed .null := .null

@[simp] lemma wellFormed_bool (b : Bool) : WellFormed (.bool b) := .bool b

@[simp] lemma wellFormed_string (s : Str) : WellFormed (.string s) := .string s

@[simp] lemma wellFormed_natText (n : ℕ) : WellFormed (.number (natText n)) :=
  .number (by simpa using isNumber_natText_append n (by simp) (rfl : isFraction [] = true))

@[simp] lemma wellFormed_array_iff {items : List JsonTree} :
    WellFormed (.array items) ↔ ∀ j ∈ items, WellFormed j := by
  refine ⟨fun h => ?_, .array⟩
  cases h with
  | array h => exact h

@[simp] lemma wellFormed_object_iff {members : List (Str × JsonTree)} :
    WellFormed (.object members) ↔ ∀ m ∈ members, WellFormed m.2 := by
  refine ⟨fun h => ?_, .object⟩
  cases h with
  | object h => exact h

@[simp] lemma wellFormed_optional (t : Option Str) : WellFormed (writeOption JsonTree.string t) :=
  wellFormed_writeOption fun _ _ => .string _

/-- A well-formed object. -/
def IsObject (j : JsonTree) : Prop := WellFormed j ∧ ∃ members, j = .object members

lemma isObject {members : List (Str × JsonTree)} (h : ∀ m ∈ members, WellFormed m.2) :
    IsObject (.object members) := ⟨.object h, members, rfl⟩

lemma IsObject.setMember {value j : JsonTree} {key : Str} (h : IsObject value)
    (hj : WellFormed j) : IsObject (SerdeJson.setMember value key j) := by
  obtain ⟨hvalue, members, rfl⟩ := h
  refine isObject (List.forall_mem_append.mpr ⟨fun m hm => ?_, by simpa using hj⟩)
  exact wellFormed_object_iff.mp hvalue m (List.mem_of_mem_filter hm)

/-- The member that was set is found. -/
lemma IsObject.member_setMember {value j : JsonTree} {key : Str} (h : IsObject value) :
    member (SerdeJson.setMember value key j) key = some j := by
  obtain ⟨-, members, rfl⟩ := h
  simp [SerdeJson.setMember, member, JsonTree.get]

lemma isObject_verdictValue (r : EnforcementResult) (sessionId : Str) :
    IsObject (verdictValue r sessionId) := by
  unfold verdictValue
  cases h : parse (verdictJson r sessionId) with
  | none => exact isObject (by simp)
  | some j =>
    have hbrace : ∃ t, verdictJson r sessionId = '\x7b' :: t := by
      cases r <;> exact ⟨_, rfl⟩
    obtain ⟨t, ht⟩ := hbrace
    rw [ht] at h
    exact ⟨wellFormed_of_parse h, object_of_parse h⟩

/-! ### The replies of the handlers -/

/-- The status fits in its type, and the body is a well-formed object. -/
structure Response.Sound (r : Response) : Prop where
  status : r.status < 2 ^ 16
  body : IsObject r.body

lemma wellFormed_sinkStatus (status : EvidenceSinkStatus) : WellFormed status.tree := by
  cases status <;> simp [EvidenceSinkStatus.tree]

@[simp] lemma wellFormed_receipt (receipt : EvidenceAppendReceipt) :
    WellFormed (evidenceReceiptJson receipt) := by
  simp [evidenceReceiptJson, wellFormed_sinkStatus]

lemma failed_sound (error : Str) : (failed error).Sound := ⟨by simp [failed], isObject (by simp)⟩

lemma inspectReply_sound (r : EnforcementResult) (verdictId : Option Str) (sessionId govTxId : Str) :
    (inspectReply r verdictId sessionId govTxId).Sound := by
  have hvalue := isObject_verdictValue r sessionId
  unfold inspectReply
  split
  · exact ⟨by simp, isObject (by simp)⟩
  · exact ⟨by simp, isObject (by simp)⟩
  · exact ⟨by simp, (hvalue.setMember (by simp)).setMember (by simp)⟩

lemma contextReply_sound (envelope : ModelContextEnvelope) (verdictId : Option Str) (govTxId : Str)
    (receipt : EvidenceAppendReceipt) (answer : Except EnvelopeError EnforcementResult) :
    (contextReply envelope verdictId govTxId receipt answer).Sound := by
  unfold contextReply
  split
  · exact ⟨by simp, isObject (by simp)⟩
  · next r =>
    have hvalue := isObject_verdictValue r envelope.sessionId
    split
    · exact ⟨by simp, isObject (by simp)⟩
    · exact ⟨by simp, isObject (by simp)⟩
    · exact ⟨by simp, (((hvalue.setMember (by simp)).setMember (by simp)).setMember
        (by simp)).setMember (by simp)⟩

lemma outboundReply_sound (sessionId : Str) (receipt : EvidenceAppendReceipt)
    (answer : Except ApprovalError EnforcementResult) :
    (outboundReply sessionId receipt answer).Sound := by
  cases answer with
  | ok r => exact ⟨by simp [outboundReply], (isObject_verdictValue r sessionId).setMember (by simp)⟩
  | error e => exact ⟨by simp [outboundReply], isObject (by simp)⟩

lemma providerReply_sound (receipt : EvidenceAppendReceipt)
    (answer : Except AuthorizationError CapabilityToken) :
    (providerReply S receipt answer).Sound := by
  cases answer with
  | ok token => exact ⟨by simp [providerReply], isObject (by simp)⟩
  | error e => exact ⟨by simp [providerReply], isObject (by simp)⟩

lemma actionReply_sound (toolName : Str) (receipt : EvidenceAppendReceipt)
    (answer : Except AuthorizationError CapabilityToken) :
    (actionReply S toolName receipt answer).Sound := by
  cases answer with
  | ok token => exact ⟨by simp [actionReply], isObject (by simp)⟩
  | error e =>
    have hrisks : WellFormed (riskClassesTree e) := by
      cases e <;> simp [riskClassesTree, ActionRiskClass.tree]
    simp only [actionReply, actionRefusal]
    split
    · exact ⟨by simp, isObject (by simp)⟩
    · exact ⟨by simp, isObject (by simp [hrisks])⟩

lemma consumeReply_sound (binding : PresentedBinding) {diagnostics : List (Str × JsonTree)}
    (h : ∀ m ∈ diagnostics, WellFormed m.2) (receipt : EvidenceAppendReceipt)
    (outcome : ConsumeOutcome) : (consumeReply binding diagnostics receipt outcome).Sound := by
  refine ⟨?_, isObject (by simpa using h)⟩
  unfold consumeReply
  split <;> simp

lemma evidenceResponse_sound (plane : EvidencePlane) : (evidenceResponse V plane).Sound := by
  refine ⟨by simp [evidenceResponse], isObject ?_⟩
  simp [eventTree]

lemma actionConsumeDiagnostics_wellFormed (binding : PresentedBinding) (isAuthorized : Bool) :
    ∀ m ∈ actionConsumeDiagnostics binding isAuthorized, WellFormed m.2 := by
  cases isAuthorized <;> simp [actionConsumeDiagnostics]

/-! ### Every reply -/

/-- The reply of an endpoint: a text, an error, or a sound tree. -/
structure Reply.Sound (r : Reply) : Prop where
  status : r.status < 2 ^ 16
  body : ∀ response, r = .jsonResponse response → IsObject response.body

lemma Response.Sound.reply {response : Response} (h : response.Sound) :
    Reply.Sound (.jsonResponse response) :=
  ⟨h.status, by rintro _ ⟨⟩; exact h.body⟩

lemma okJson_sound (body : Str) : Reply.Sound (.okJson body) :=
  ⟨by simp [Reply.status], by rintro _ ⟨⟩⟩

lemma errJson_sound {status : ℕ} (h : status < 2 ^ 16) (msg : Str) :
    Reply.Sound (.errJson status msg) := ⟨h, by rintro _ ⟨⟩⟩

variable {g : EvidenceGovernedPipeline} {c : Connection}

lemma handleConsume_sound (bindingOf : Pipeline → JsonTree → Except Str PresentedBinding)
    {diagnostics : PresentedBinding → Bool → List (Str × JsonTree)}
    (h : ∀ binding isAuthorized, ∀ m ∈ diagnostics binding isAuthorized, WellFormed m.2)
    (env : Supply) (fault : Option EvidenceSinkError) (body : Option JsonTree) :
    (handleConsume P K bindingOf diagnostics env fault g body).1.Sound := by
  unfold handleConsume
  split
  · exact failed_sound _
  · split
    · exact failed_sound _
    · exact consumeReply_sound _ (h _ _) _ _

lemma handleProviderConsume_sound (env : Supply) (fault : Option EvidenceSinkError)
    (body : Option JsonTree) : (handleProviderConsume P K S env fault g body).1.Sound :=
  handleConsume_sound _ (by simp) env fault body

lemma handleActionConsume_sound (env : Supply) (fault : Option EvidenceSinkError)
    (body : Option JsonTree) : (handleActionConsume P K S env fault g body).1.Sound :=
  handleConsume_sound _ actionConsumeDiagnostics_wellFormed env fault body

lemma handleProviderAuthorize_sound {env : Supply} {fault : Option EvidenceSinkError}
    {body : Option JsonTree} {response : Response}
    (h : (handleProviderAuthorize P K S env fault g body).1 = some response) : response.Sound := by
  unfold handleProviderAuthorize at h
  split at h
  · cases h
    exact failed_sound _
  · split at h
    · cases h
      exact failed_sound _
    · obtain ⟨a, -, rfl⟩ := Option.map_eq_some_iff.mp h
      exact providerReply_sound _ _

lemma handleActionAuthorize_sound {env : Supply} {fault : Option EvidenceSinkError}
    {body : Option JsonTree} {response : Response}
    (h : (handleActionAuthorize P K S V env fault g body).1 = some response) : response.Sound := by
  unfold handleActionAuthorize at h
  split at h
  · cases h
    exact failed_sound _
  · split at h
    · cases h
      exact failed_sound _
    · obtain ⟨a, -, rfl⟩ := Option.map_eq_some_iff.mp h
      exact actionReply_sound _ _ _

lemma handleInspect_sound {env : Supply} {body : Option JsonTree}
    (h : ∀ error, body.map inspectFields ≠ some (.error error)) :
    (handleInspect P env g body).1.Sound := by
  unfold handleInspect
  split
  · exact failed_sound _
  · next value =>
    split
    · next error hfields => exact absurd (congrArg some hfields) (h error)
    · exact inspectReply_sound _ _ _ _

lemma handleContextInspect_sound (env : Supply) (fault : Option EvidenceSinkError)
    (body : Except Str ModelContextEnvelope) :
    (handleContextInspect P K env fault g body).1.Sound := by
  unfold handleContextInspect
  split
  · exact failed_sound _
  · exact contextReply_sound _ _ _ _ _

lemma handleOutbound_sound (env : Supply) (fault : Option EvidenceSinkError)
    (body : Option JsonTree) : (handleOutbound P K env fault g body).1.Sound := by
  unfold handleOutbound
  split
  · exact failed_sound _
  · split
    · exact failed_sound _
    · exact outboundReply_sound _ _ _

lemma handleSessionReset_sound (env : Supply) (body : Option JsonTree) :
    (handleSessionReset P env g body).1.Sound := by
  unfold handleSessionReset
  split
  · exact (failed_sound _).reply
  · split
    · exact errJson_sound (by simp) _
    · dsimp only
      split
      · exact okJson_sound _
      · exact errJson_sound (by simp) _

lemma handleSessionStart_sound (p : Pipeline) (body : Option JsonTree) :
    (handleSessionStart p body).Sound := by
  unfold handleSessionStart
  split
  · exact (failed_sound _).reply
  · dsimp only
    split
    · exact errJson_sound (by simp) _
    · exact okJson_sound _

lemma handleSessionEnd_sound (env : Supply) (diskWrites : Bool) (body : Option JsonTree) :
    (handleSessionEnd env diskWrites g body).1.Sound := by
  unfold handleSessionEnd
  split
  · exact (failed_sound _).reply
  · dsimp only
    split
    · exact errJson_sound (by simp) _
    · exact okJson_sound _

/-- One case for each endpoint. -/
lemma answer_sound {e : Endpoint} {body : Str} {r : Reply}
    (h : (answer P K S V c g body e).1 = some r) : r.Sound := by
  cases e with
  | inspect =>
    simp only [answer] at h
    split at h
    · cases h
      exact errJson_sound (by simp) _
    · next hfields =>
      cases h
      exact (handleInspect_sound fun error herror => hfields error herror).reply
  | outbound =>
    cases h
    exact (handleOutbound_sound _ _ _).reply
  | contextInspect =>
    cases h
    exact (handleContextInspect_sound _ _ _).reply
  | providerAuthorize =>
    obtain ⟨response, hresponse, rfl⟩ := Option.map_eq_some_iff.mp h
    exact (handleProviderAuthorize_sound hresponse).reply
  | providerConsume =>
    obtain rfl := Option.some.inj h
    exact (handleProviderConsume_sound _ _ _).reply
  | actionAuthorize =>
    obtain ⟨response, hresponse, rfl⟩ := Option.map_eq_some_iff.mp h
    exact (handleActionAuthorize_sound hresponse).reply
  | actionConsume =>
    obtain rfl := Option.some.inj h
    exact (handleActionConsume_sound _ _ _).reply
  | sessionReset =>
    cases h
    exact handleSessionReset_sound _ _
  | sessionStart =>
    cases h
    exact handleSessionStart_sound _ _
  | sessionEnd =>
    cases h
    exact handleSessionEnd_sound _ _ _
  | evidence =>
    cases h
    exact (evidenceResponse_sound _).reply
  | notFound =>
    cases h
    exact errJson_sound (by simp) _
  | health | sessionState | audit =>
    cases h
    exact okJson_sound _

lemma respond_sound {r : Reply} (h : (respond P K S V g c).1 = some r) : r.Sound := by
  cases hadmitted : admitted P S c.received with
  | some a =>
    rw [respond_of_admitted hadmitted] at h
    exact answer_sound h
  | none =>
    rw [respond_of_refused hadmitted] at h
    unfold refusal at h
    split at h <;> cases h
    · exact errJson_sound (by simp) _
    · exact errJson_sound (by simp) _

/-- **Every reply is read back**: in whatever state, whatever a connection brings, the bytes of the
reply are read as its status line, its headers and exactly its body, however they arrive and
whatever follows them. A reply that is a tree is then parsed as an object with the members that the
handler gave. -/
theorem respond_reads_back {r : Reply} (h : ((web P K S V).step g c).1 = some r)
    (hlen : utf8Len r.body < 2 ^ 64) (s : Seq UInt8) (sizes : Stream' ℕ) :
    (∃ headers r₁ r₂ sizes',
      readLineBounded maxHeaderLineBytes (.ofSizes (front (utf8 r.message.text) s) sizes) =
        (some (r.start ++ "\r\n"), r₁) ∧
      readHeaders P 5 ∅ r₁ = some (.ok headers, r₂) ∧
      readBody (declaredLen headers) r₂ = (r.body, .ofSizes s sizes')) ∧
    ∀ response, r = .jsonResponse response → ∃ members, parse r.body = some (.object members) ∧
      ∀ key, JsonTree.get members key = (member response.body key).map normal := by
  have hsound := respond_sound h
  refine ⟨Reply.read_back P hsound.status hlen s sizes, fun response hr => ?_⟩
  obtain ⟨hbody, members, hmembers⟩ := hsound.body response hr
  refine ⟨Value.sortEntries ((normalMembers members).foldl KeyedLists.put []), ?_, fun key => ?_⟩
  · rw [hr, Reply.parse_body hbody, hmembers, normal]
  · rw [← member_normal, hmembers, normal]
    rfl

/-- A request to consume a capability, with an empty body. -/
def emptyConsumption : Connection := fixedConnection 0 "/provider/consume" []

theorem respond_reads_back_emptyConsumption :
    let r : Reply := .jsonResponse invalidBody
    (∃ headers r₁ r₂ sizes',
      readLineBounded maxHeaderLineBytes
          (.ofSizes (front (utf8 r.message.text) Seq.nil) (Stream'.const 0)) =
        (some (r.start ++ "\r\n"), r₁) ∧
      readHeaders silentPlatform 5 ∅ r₁ = some (.ok headers, r₂) ∧
      readBody (declaredLen headers) r₂ = (r.body, .ofSizes Seq.nil sizes')) ∧
    ∀ response, r = .jsonResponse response → ∃ members, parse r.body = some (.object members) ∧
      ∀ key, JsonTree.get members key = (member response.body key).map normal := by
  have hadmitted : admitted silentPlatform fixedService emptyConsumption.received =
      some (.providerConsume, []) := by decide +kernel
  have hreply : ((web silentPlatform (fixedKeys _) fixedService treeSerde).step fixedStarted
      emptyConsumption).1 = some (.jsonResponse invalidBody) := by
    change (respond _ _ _ _ _ _).1 = _
    rw [respond_of_admitted hadmitted]
    rfl
  exact respond_reads_back hreply (by decide +kernel) Seq.nil (Stream'.const 0)

end GovSec.Server
