import GovSec.OutboundStates
import GovSec.ServerAuthority

/-!
The record and the reply of a reviewed output.

The event of an outbound call says that the output was released when the result is an approval. The
flag of the reply says so for a restricted result too, so the two disagree in state `S2`.
-/

namespace GovSec.Server

open GovSec.Lib.Text GovSec.Lib.Actions GovSec.Lib.Runs GovSec.Lib.JsonText GovSec.SerdeJson
open GovSec.Pipeline (Answers outboundState fixedContext fixedHash)
open GovSec.EvidenceGovernedPipeline (fixedGoverned)

variable {P : Platform} {K : KeyRing P} {S : Service} {env : Supply}
  {fault : Option EvidenceSinkError} {g : EvidenceGovernedPipeline} {value : JsonTree}
  {payload sessionId : Str}

/-- The reply lets the caller release the output. -/
def Response.Releases (r : Response) : Prop := r.flag "ok" = some true

instance (r : Response) : Decidable r.Releases := inferInstanceAs (Decidable (_ = _))

/-- The request asks for the review of an output in a session with a plain id, and the context it
presents is accepted. -/
def Correlates (g : EvidenceGovernedPipeline) (value : JsonTree) (payload sessionId : Str) : Prop :=
  IsPlain sessionId ∧ ∃ contextHash runId record,
    outboundFields value = .ok (payload, sessionId, contextHash, runId) ∧
      g.pipeline.resolveOutboundContextBinding contextHash sessionId runId = .ok record

/-- The verdict of a result is read back with its flag. -/
lemma flag_outboundReply {r : EnforcementResult} {receipt : EvidenceAppendReceipt} {message : Str}
    (hsession : IsPlain sessionId) (hmessage : IsBody (singleQuoted r.message) message) :
    (outboundReply sessionId receipt (.ok r)).flag "ok" = some r.ok := by
  obtain ⟨members, hreads, hok, -, -⟩ := faithfulVerdict_of_isPlain hsession hmessage
  have hverdict : verdictValue r sessionId = .object members := by
    rw [verdictValue, hreads.parse_eq, Option.getD_some]
  have hmember : member (outboundReply sessionId receipt (.ok r)).body "ok" =
      some (.bool r.ok) := by
    refine (member_setMember_of_ne (by decide)).trans ?_
    rw [hverdict]
    exact hok
  unfold Response.flag
  rw [hmember]
  rfl

/-- An observed call leaves one event of its answer. -/
lemma observe_events {α : Type} (plane : EvidencePlane) (called : α × Pipeline)
    (evidence : α → EvidenceEventType × EvidencePayload) :
    ∃ event receipt,
      (EvidenceGovernedPipeline.observe P K env fault plane called
        evidence).2.evidence.state.events = plane.state.events ++ [event] ∧
      event.eventType = (evidence called.1).1 ∧
      (EvidenceGovernedPipeline.observe P K env fault plane called evidence).1 =
        (called.1, receipt) :=
  ⟨_, _, EvidenceGovernedPipeline.append_events env fault plane (evidence called.1), rfl, rfl⟩

variable (P K env fault) in
/-- What a reviewed output leaves: one event of the result, and the reply to it. -/
lemma handleOutbound_of_correlates (h : Correlates g value payload sessionId) :
    ∃ event receipt,
      (handleOutbound P K env fault g (some value)).2.evidence.state.events =
        g.evidence.state.events ++ [event] ∧
      event.eventType = outboundType
        (result (Pipeline.outbound P (env.part 0) payload sessionId) g.pipeline).1 ∧
      (handleOutbound P K env fault g (some value)).1 = outboundReply sessionId receipt
        (.ok (result (Pipeline.outbound P (env.part 0) payload sessionId) g.pipeline).1) := by
  obtain ⟨-, contextHash, runId, record, hfields, hresolve⟩ := h
  simp only [handleOutbound, hfields, EvidenceGovernedPipeline.outboundWithEvidence, hresolve,
    EvidenceGovernedPipeline.session_of_resolveOutboundContextBinding hresolve]
  generalize result (Pipeline.outbound P (env.part 0) payload sessionId) g.pipeline = called
  obtain ⟨event, receipt, hevents, htype, hanswer⟩ := observe_events (P := P) (K := K) g.evidence
    called (correlatedEvidence P payload g.pipeline.activePolicyVersion record)
  generalize EvidenceGovernedPipeline.observe P K (env.part 1) fault g.evidence called
    (correlatedEvidence P payload g.pipeline.activePolicyVersion record) = observed
    at hevents hanswer
  obtain ⟨answer, g'⟩ := observed
  dsimp only at hanswer
  subst hanswer
  exact ⟨event, receipt, hevents, htype, rfl⟩

/-- The event of a reviewed output says that it was released exactly when the reply does. -/
def Agrees (P : Platform) (K : KeyRing P) (g : EvidenceGovernedPipeline) : Request → Prop
  | .outbound env fault (some value) => ∀ payload sessionId, Correlates g value payload sessionId →
    ∃ event, (handleOutbound P K env fault g (some value)).2.evidence.state.events =
        g.evidence.state.events ++ [event] ∧
      (event.eventType = .outboundReleased ↔
        (handleOutbound P K env fault g (some value)).1.Releases)
  | _ => True

/-- The session of a reviewed output, joined with what the layers demand of the output, is not in
`S2`. -/
def Unrestricted (P : Platform) (g : EvidenceGovernedPipeline) : Request → Prop
  | .outbound env _ (some value) => ∀ payload sessionId, Correlates g value payload sessionId →
    outboundState P (env.part 0) g.pipeline payload sessionId ≠ .S2
  | _ => True

lemma outboundType_eq_released_iff {r : EnforcementResult} :
    outboundType r = .outboundReleased ↔ r.isApproved = true := by
  unfold outboundType
  cases r.isApproved <;> simp

/-- Of the states only `S2` is released by the reply and withheld by the event. -/
lemma released_iff_of_answers {content : Str} {state : SecurityState} {r : EnforcementResult}
    (h : Answers content state r) :
    (outboundType r = .outboundReleased ↔ r.ok = true) ↔ state ≠ .S2 := by
  rw [outboundType_eq_released_iff, h.isApproved_iff, h.ok_iff]
  cases state <;> decide

lemma agrees_iff (g : EvidenceGovernedPipeline) (request : Request) :
    Agrees P K g request ↔ Unrestricted P g request := by
  cases request with
  | outbound env fault body =>
    cases body with
    | none => exact Iff.rfl
    | some value =>
      refine forall_congr' fun payload => forall_congr' fun sessionId => imp_congr_right fun h => ?_
      obtain ⟨event, receipt, hevents, htype, hreply⟩ :=
        handleOutbound_of_correlates P K env fault h
      have hanswers : Answers payload (outboundState P (env.part 0) g.pipeline payload sessionId)
          (result (Pipeline.outbound P (env.part 0) payload sessionId) g.pipeline).1 :=
        Pipeline.outbound_answers
      rw [← released_iff_of_answers hanswers, ← htype, Response.Releases, hreply,
        flag_outboundReply h.1 hanswers.isBody_message, Option.some.injEq, hevents]
      constructor
      · rintro ⟨event', hevent, hagrees⟩
        obtain rfl := List.singleton_inj.mp (List.append_cancel_left hevent)
        exact hagrees
      · exact fun hagrees => ⟨event, rfl, hagrees⟩
  | _ => exact Iff.rfl

/-- **When record and reply agree** throughout a run of requests: exactly when no output is
reviewed in `S2`. -/
theorem agrees_run_iff (g : EvidenceGovernedPipeline) (requests : List Request) :
    (system P K S).Always (Agrees P K) g requests ↔
      (system P K S).Always (fun g request => Unrestricted P g request) g requests :=
  System.always_congr fun g request => agrees_iff g request

/-- The review of a text in the run of the fixed context. -/
def reviewBody (payload : Str) : JsonTree :=
  .object
    [("payload", .string payload), ("session_id", .string "s"),
      ("context_hash", .string fixedHash), ("run_id", .string "r")]

/-- An output that is accepted in `S2` is reviewed twofold. -/
lemma not_agrees_of_restricted {contextHash runId : Str} (hsession : IsPlain sessionId)
    (hfields : outboundFields value = .ok (payload, sessionId, contextHash, runId))
    (hresolved :
      (g.pipeline.resolveOutboundContextBinding contextHash sessionId runId).isOk = true)
    (hstate : outboundState P (env.part 0) g.pipeline payload sessionId = .S2) :
    ¬ Agrees P K g (.outbound env fault (some value)) := by
  intro hagrees
  refine (agrees_iff _ _).mp hagrees payload sessionId
    ⟨hsession, contextHash, runId, ?_⟩ hstate
  cases hresolve : g.pipeline.resolveOutboundContextBinding contextHash sessionId runId with
  | error e =>
    rw [hresolve] at hresolved
    cases hresolved
  | ok record => exact ⟨record, hfields, rfl⟩

/-- After an approved context a poisoned output is restricted: the reply releases what the record
withholds. -/
theorem not_forall_agrees :
    ¬ ∀ requests, (system silentPlatform (fixedKeys _) fixedService).Always
      (Agrees silentPlatform (fixedKeys _)) fixedGoverned requests := by
  intro h
  have hrun := h [.contextInspect (fixedSupply 0 0) none (.ok (fixedContext "hi")),
    .outbound (fixedSupply 1 1) none (some (reviewBody "[system]"))]
  have hfields :
      outboundFields (reviewBody "[system]") = .ok ("[system]", "s", fixedHash, "r") := by
    decide +kernel
  exact not_agrees_of_restricted (by decide) hfields (by decide +kernel) (by decide +kernel)
    (System.always_cons.mp (System.always_cons.mp hrun).2).1

end GovSec.Server
