import GovSec.SessionFrame
import GovSec.PipelineRuns

/-!
The two ways into the pipeline: a call on one text and a call on a sealed context.

On a context of one inspected segment the two make the same decision on the segment's text and
leave the same sessions and monitors, from any state that pre-authorizes neither of their two
action classes.
-/

namespace GovSec.Pipeline

open GovSec.Lib.Text GovSec.Lib.Maps GovSec.Lib.Actions

/-- The ids of the caller only go to the history of GovMem's second version, which nothing
reads. -/
def inboundWithIdentity (P : Platform) (env : Supply) (userInput sessionId govTxId : Str)
    (_departmentId _agentId : Option Str) : StateM Pipeline EnforcementResult :=
  inbound P env userInput sessionId govTxId

def inboundContextWithIdentity (P : Platform) (env : Supply) (envelope : ModelContextEnvelope)
    (govTxId : Str) (_departmentId _agentId : Option Str) :
    StateM Pipeline (Except EnvelopeError EnforcementResult) :=
  inboundContext P env envelope govTxId

/-- The session has no pre-authorization for the action classes of the pipeline itself. -/
def NoOwnPreauthorization (p : Pipeline) (sessionId : Str) : Prop :=
  ∀ e ∈ p.haap.preauthsOf sessionId, e.1 ≠ "pipeline_inbound" ∧ e.1 ≠ "pipeline_inbound_context"

variable {P : Platform} {env env' : Supply} {p p' : Pipeline}

/-- One view for every session is one content of the session stores. -/
lemma stores_eq_of_views (h : ∀ r, p.view r = p'.view r) :
    p.arbiter.sessionStates = p'.arbiter.sessionStates ∧
      p.sessionMemories = p'.sessionMemories ∧ p.overwatch = p'.overwatch := by
  refine ⟨Finmap.ext_lookup fun r => congrArg View.state (h r),
    Finmap.ext_lookup fun r => congrArg View.memory (h r), ?_⟩
  have hc : p.overwatch.config = p'.overwatch.config := congrArg View.overwatchConfig (h [])
  have hs : p.overwatch.sessions = p'.overwatch.sessions :=
    Finmap.ext_lookup fun r => congrArg View.fingerprint (h r)
  have heta (ow : OverWatch) : ow = ⟨ow.config, ow.sessions⟩ := rfl
  rw [heta p.overwatch, hc, hs]

lemma inboundOimSite_clock (h : env.clock = env'.clock) :
    (inboundOimSite env).clock = (inboundOimSite env').clock := by
  unfold inboundOimSite
  iterate 7 refine Supply.clock_part ?_ _
  exact h

/-- One monitor of the monitor makes the same of signals with one content. -/
lemma heardAlike_refl (h : env.clock = env'.clock) (g : Gist) (o : OIM) :
    HeardAlike env env' g o o True Eq where
  start := rfl
  after _ _ hw hw' := OIM.heard_congr h (hw.trans hw'.symm)
  report _ _ _ hw hw' := OIM.reportOn_congr h (hw.trans hw'.symm)

/-- **The two inbound paths agree.** From one state, at one time, a call on the text of the only
inspected segment of a sealed context and a call on this context end in one result, but for the
action class that a gate's reason names, and leave the same states, memories and monitors. -/
theorem inboundContextWithIdentity_agrees (P : Platform) (env env' : Supply) (p : Pipeline)
    (envelope : ModelContextEnvelope) (segment : ContextSegment) (govTxId govTxId' : Str)
    (departmentId departmentId' agentId agentId' : Option Str) (hclock : env.clock = env'.clock)
    (hv : envelope.verify P = .ok ())
    (hs : envelope.segmentsRequiringInspection = [segment])
    (hp : p.NoOwnPreauthorization envelope.sessionId) :
    let text := result (inboundWithIdentity P env segment.content envelope.sessionId govTxId
      departmentId agentId) p
    let context := result (inboundContextWithIdentity P env' envelope govTxId' departmentId'
      agentId') p
    (∃ r, context.1 = .ok r ∧
        SameResult "pipeline_inbound" "pipeline_inbound_context" text.1 r) ∧
      text.2.arbiter.sessionStates = context.2.arbiter.sessionStates ∧
      text.2.sessionMemories = context.2.sessionMemories ∧
      text.2.overwatch = context.2.overwatch ∧ text.2.oim = context.2.oim := by
  intro text context
  have hstart : Linked envelope.sessionId "pipeline_inbound" "pipeline_inbound_context"
      (Unheard P segment.content .inbound envelope.sessionId
        (p.overwatch.reportOn P segment.content .inbound envelope.sessionId) p.oim p.oim) p p := by
    exact ⟨rfl, fun e he => iff_of_false (hp e he).1 (hp e he).2, rfl, rfl, rfl⟩
  obtain ⟨hr, hl⟩ := inbound_inboundContext_paired hclock hv hs
    (heardAlike_refl (inboundOimSite_clock hclock) _ _) p p hstart fun _ => trivial
  have hviews (r : Str) : text.2.view r = context.2.view r := by
    by_cases h : r = envelope.sessionId
    · rw [h]
      exact hl.view
    · exact ((inbound_keeps p).1 r h).trans ((inboundContext_keeps p).1 r h).symm
  obtain ⟨hstates, hmems, how⟩ := stores_eq_of_views hviews
  exact ⟨hr, hstates, hmems, how, hl.monitors⟩

/-- The text "hi" and the context of this text, in a new pipeline. -/
theorem inboundContextWithIdentity_agrees_new :
    let p := fixedPipeline .default
    let text :=
      result (inboundWithIdentity silentPlatform (fixedSupply 0 0) "hi" "s" "tx" none none) p
    let context := result (inboundContextWithIdentity silentPlatform (fixedSupply 0 1)
      (fixedContext "hi") "tx" (some "d") none) p
    (∃ r, context.1 = .ok r ∧
        SameResult "pipeline_inbound" "pipeline_inbound_context" text.1 r) ∧
      text.2.arbiter.sessionStates = context.2.arbiter.sessionStates ∧
      text.2.sessionMemories = context.2.sessionMemories ∧
      text.2.overwatch = context.2.overwatch ∧ text.2.oim = context.2.oim :=
  inboundContextWithIdentity_agrees silentPlatform (fixedSupply 0 0) (fixedSupply 0 1)
    (fixedPipeline .default) (fixedContext "hi") ⟨0, .user, .externalUser, "hi", none, none⟩ "tx"
    "tx" none (some "d") none none rfl (by decide +kernel) (by decide +kernel)
    fun e he => by cases he

end GovSec.Pipeline
