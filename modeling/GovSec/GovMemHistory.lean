import GovSec.PipelineRuns
import GovSec.Lib.Projections

/-!
The history that GovMem keeps in its second mode.

The calls of the pipeline also record their turns and the signals of the layers in sessions of
GovMem, under the names that the caller gives for a department and an agent. The pipeline with these
records does to its layers what the pipeline without them does.
-/

namespace GovSec

open GovSec.Lib.Text GovSec.Lib.Maps GovSec.Lib.Actions GovSec.Lib.Runs

inductive GovMemMode
  | v1
  | v2
  deriving DecidableEq

inductive MessageDirection
  | userToSystem
  | systemToUser
  deriving DecidableEq

structure Message where
  turn : ℕ
  timestamp : DateTime
  content : Str
  direction : MessageDirection
  blocked : Bool
  deriving DecidableEq

/-- What a layer's signal is recorded as. -/
structure LayerEntry where
  layer : Str
  severity : Severity
  violation : Option Str
  confidence : ℚ
  deriving DecidableEq

structure LayerSignal extends LayerEntry where
  timestamp : DateTime
  deriving DecidableEq

structure GovMemSession where
  sessionId : Str
  createdAt : DateTime
  departmentId : Option Str
  agentId : Option Str
  messages : List Message
  layerSignals : List LayerSignal
  deriving DecidableEq

/-- The pipeline with GovMem's records. -/
structure RecordedPipeline where
  pipeline : Pipeline
  mode : GovMemMode
  v2Sessions : HashMap Str GovMemSession
  /-- The signals given to `record_layer_signal` so far, with their sessions; the source keeps no
  such list. -/
  passed : List (Str × LayerEntry)

namespace RecordedPipeline

/-- No turn has been recorded. -/
def new (pipeline : Pipeline) (mode : GovMemMode) : RecordedPipeline := ⟨pipeline, mode, ∅, []⟩

/-! ### GovMem -/

/-- The metadata that a caller may give. -/
structure Identity where
  departmentId : Option Str
  agentId : Option Str

def recordTurnV2 (env : Supply) (sessionId message : Str) (direction : MessageDirection)
    (blocked : Bool) (identity : Identity) (sessions : HashMap Str GovMemSession) :
    HashMap Str GovMemSession :=
  let session := (sessions.lookup sessionId).getD
    { sessionId
      createdAt := (env.part 0).now
      departmentId := identity.departmentId
      agentId := identity.agentId
      messages := []
      layerSignals := [] }
  let message : Message :=
    { turn := session.messages.length % 2 ^ 32 + 1
      timestamp := (env.part 1).now
      content := message
      direction
      blocked }
  sessions.insert sessionId { session with messages := session.messages ++ [message] }

def recordTurn (env : Supply) (sessionId message : Str) (direction : MessageDirection)
    (blocked : Bool) (identity : Identity) : StateM RecordedPipeline Unit :=
  modifyGet fun s =>
    match s.mode with
    | .v1 => ((), s)
    | .v2 =>
      ((), { s with v2Sessions := recordTurnV2 env sessionId message direction blocked identity
                      s.v2Sessions })

def recordLayerSignal (env : Supply) (sessionId layer : Str) (signal : GovernanceSignal) :
    StateM RecordedPipeline Unit :=
  modifyGet fun s =>
    let entry : LayerEntry := ⟨layer, signal.severity, signal.violationClass, signal.confidence⟩
    let s := { s with passed := s.passed ++ [(sessionId, entry)] }
    if s.mode = .v2 then
      ((), { s with v2Sessions := modifyAt s.v2Sessions sessionId fun session =>
                      { session with layerSignals := session.layerSignals ++ [⟨entry, env.now⟩] } })
    else ((), s)

/-- The department is not looked at. -/
def shouldBlock (s : RecordedPipeline) (sessionId : Str) (_departmentId : Option Str) : Bool :=
  s.pipeline.shouldBlock sessionId

/-! ### The calls with their records -/

variable (P : Platform) (env : Supply)

/-- A part of a call that records nothing. -/
def inner {α : Type} (m : StateM Pipeline α) : StateM RecordedPipeline α :=
  within pipeline (fun p s => { s with pipeline := p }) m

def arbitrate {α : Type} (signal : GovernanceSignal) (modifier : ℚ) (stop : EnforcementResult → α)
    (next : StateM RecordedPipeline α) : StateM RecordedPipeline α := do
  let state ← inner (Pipeline.processWithModifier P env signal modifier)
  match Pipeline.checkHardBlock state with
  | some result => pure (stop result)
  | none => next

/-- The names under which a call records the signals of its layers. -/
structure LayerNames where
  sentinel : Str
  corridor : Str
  overwatch : Str

def textLayers : LayerNames := ⟨"sentinel", "corridor_in", "overwatch"⟩
def contextLayers : LayerNames :=
  ⟨"sentinel_context_segment", "corridor_in_context", "overwatch_context"⟩

/-- The outcome and the highest signal. -/
abbrev Layers := StateM RecordedPipeline (Pipeline.LayerOutcome × Option GovernanceSignal)

def overwatchLayer (names : LayerNames) (identity : Identity) (t : Pipeline.Turn)
    (highest : Option GovernanceSignal) : Layers := do
  let signal ← inner (Pipeline.overwatchEvaluate P (env.part 0) t.content .inbound t.sessionId)
  recordLayerSignal (env.part 3) t.sessionId names.overwatch signal
  let s ← get
  if s.shouldBlock t.sessionId identity.departmentId then
    pure (.blocked (.quarantined "GOVMEM-DRIFT-DETECTED"), highest)
  else
    let highest := Pipeline.trackHighest signal highest
    arbitrate P (env.part 1) signal t.thresholdModifier (fun result => (.blocked result, highest))
      (inner (Pipeline.haapLayer P (env.part 2) t signal highest))

def corridorLayer (names : LayerNames) (identity : Identity) (t : Pipeline.Turn)
    (highest : Option GovernanceSignal) : Layers := do
  let signal ← inner (Pipeline.corridorEvaluate P (env.part 0) t.content .inbound t.sessionId)
  recordLayerSignal (env.part 3) t.sessionId names.corridor signal
  let highest := Pipeline.trackHighest signal highest
  arbitrate P (env.part 1) signal t.thresholdModifier (fun result => (.blocked result, highest))
    (overwatchLayer P (env.part 2) names identity t highest)

def layers (names : LayerNames) (identity : Identity) (t : Pipeline.Turn)
    (highest : Option GovernanceSignal) : Layers :=
  match highest with
  | none => corridorLayer P (env.part 1) names identity t none
  | some signal =>
    arbitrate P (env.part 0) signal t.thresholdModifier
      (fun result => (.blocked result, some signal))
      (corridorLayer P (env.part 1) names identity t (some signal))

def govern (names : LayerNames) (identity : Identity) (t : Pipeline.Turn)
    (highest : Option GovernanceSignal) :
    StateM RecordedPipeline (EnforcementResult × Option GovernanceSignal) := do
  let (outcome, highest) ← layers P (env.part 0) names identity t highest
  let result ← inner (Pipeline.settle P (env.part 1) t outcome highest)
  pure (result, highest)

def inboundWithIdentity (userInput sessionId govTxId : Str) (identity : Identity) :
    StateM RecordedPipeline EnforcementResult := do
  let (t, signal) ← inner (Pipeline.inboundTurn P (env.part 0) userInput sessionId)
  recordTurn (env.part 3) sessionId userInput .userToSystem (.high ≤ signal.severity) identity
  recordLayerSignal (env.part 4) sessionId textLayers.sentinel signal
  let (result, _) ← govern P (env.part 1) textLayers identity t (Pipeline.trackHighest signal none)
  if result.isApproved then
    let _ ← inner (Pipeline.recordApproval (env.part 2) govTxId signal none none)
    pure result
  else pure result

/-- Sentinel on each segment; each signal is recorded, at a time of its own. -/
def inspectSegments (times : Supply) (sessionId : Str) : List ContextSegment → ℕ →
    Option GovernanceSignal → StateM RecordedPipeline (Option GovernanceSignal)
  | [], _, highest => pure highest
  | segment :: rest, k, highest => do
    let signal ← inner (Pipeline.inspect P (env.part k) segment.content .inbound sessionId)
    recordLayerSignal (times.part k) sessionId contextLayers.sentinel signal
    inspectSegments times sessionId rest (k + 1) (Pipeline.trackHighest signal highest)

/-- The turn is recorded after the signals of its segments. -/
def contextTurn (envelope : ModelContextEnvelope) (identity : Identity) :
    StateM RecordedPipeline (Pipeline.Turn × Option GovernanceSignal) := do
  let sessionId := envelope.sessionId
  let segments := envelope.segmentsRequiringInspection
  let thresholdModifier ← inner (Pipeline.initSessionMemory (env.part 0) sessionId)
  let highest ← inspectSegments P (env.part 1) (env.part 2) sessionId segments 0 none
  let content := Pipeline.concatenate segments
  recordTurn (env.part 3) sessionId content .userToSystem
    (highest.any fun signal => .high ≤ signal.severity) identity
  pure
    ({ sessionId
       content
       classification := classifyPayload P content
       thresholdModifier
       actionClass := "pipeline_inbound_context" }, highest)

def inboundContextWithIdentity (envelope : ModelContextEnvelope) (govTxId : Str)
    (identity : Identity) : StateM RecordedPipeline (Except EnvelopeError EnforcementResult) :=
  match envelope.verify P with
  | .error e => pure (.error e)
  | .ok () => do
    let (t, highest) ← contextTurn P (env.part 0) envelope identity
    let (result, highest) ← govern P (env.part 1) contextLayers identity t highest
    if result.isApproved then
      let signal := highest.getD
        (Pipeline.contextSignal (env.part 2) envelope.sessionId envelope.contextHash)
      let _ ← inner (Pipeline.recordApproval (env.part 3) govTxId signal
        (some envelope.contextHash) (some envelope.runId))
      pure (.ok result)
    else pure (.ok result)

def isBlock : EnforcementResult → Bool
  | .quarantined _ | .hardLocked _ => true
  | _ => false

/-- The last part of an outbound call, which records the turn. -/
def outboundSentinel (modelOutput sessionId : Str) (modifier : ℚ) :
    StateM RecordedPipeline EnforcementResult := do
  let result ← inner (Pipeline.outboundSentinel P env modelOutput sessionId modifier)
  recordTurn (env.part 3) sessionId modelOutput .systemToUser (isBlock result) ⟨none, none⟩
  pure result

def outboundOim (modelOutput sessionId : Str) (modifier : ℚ) (owSignal : GovernanceSignal) :
    StateM RecordedPipeline EnforcementResult := do
  let signal ← inner (Pipeline.oimObserve P (env.part 0) owSignal)
  arbitrate P (env.part 1) signal modifier id
    (outboundSentinel P (env.part 2) modelOutput sessionId modifier)

def outboundOverwatch (modelOutput sessionId : Str) (modifier : ℚ) :
    StateM RecordedPipeline EnforcementResult := do
  let signal ← inner
    (Pipeline.overwatchEvaluate P (env.part 0) modelOutput .outbound sessionId)
  arbitrate P (env.part 1) signal modifier id
    (outboundOim P (env.part 2) modelOutput sessionId modifier signal)

/-- An early exit records no turn. -/
def outbound (modelOutput sessionId : Str) : StateM RecordedPipeline EnforcementResult := do
  let s ← get
  let modifier := s.pipeline.getThresholdModifier sessionId
  let signal ← inner (Pipeline.corridorEvaluate P (env.part 0) modelOutput .outbound sessionId)
  recordLayerSignal (env.part 3) sessionId "corridor_out" signal
  arbitrate P (env.part 1) signal modifier id
    (outboundOverwatch P (env.part 2) modelOutput sessionId modifier)

/-- An operation of the pipeline with the metadata of its caller, which only the inbound calls
take. -/
def step (s : RecordedPipeline) (c : Pipeline.Op × Identity) :
    Pipeline.Answer × RecordedPipeline :=
  match c.1 with
  | .inbound env userInput sessionId govTxId =>
    (result (inboundWithIdentity P env userInput sessionId govTxId c.2) s).map .enforced id
  | .inboundContext env envelope govTxId =>
    (result (inboundContextWithIdentity P env envelope govTxId c.2) s).map .context id
  | .outbound env modelOutput sessionId =>
    (result (outbound P env modelOutput sessionId) s).map .enforced id
  | op => ((Pipeline.step P s.pipeline op).1,
      { s with pipeline := (Pipeline.step P s.pipeline op).2 })

def system : System RecordedPipeline (Pipeline.Op × Identity) Pipeline.Answer := ⟨step P⟩

/-! ### The records change nothing else -/

variable {P env} {s : RecordedPipeline}

lemma projects_inner {α : Type} (m : StateM Pipeline α) : Projects pipeline (inner m) m :=
  projects_within (fun _ _ => rfl) m

lemma recordTurn_unseen (env : Supply) (sessionId message : Str) (direction : MessageDirection)
    (blocked : Bool) (identity : Identity) : Along (fun s s' => s'.pipeline = s.pipeline)
      (recordTurn env sessionId message direction blocked identity) := fun s => by
  rw [recordTurn, result_modifyGet]
  cases s.mode <;> rfl

lemma recordLayerSignal_unseen (env : Supply) (sessionId layer : Str) (signal : GovernanceSignal) :
    Along (fun s s' => s'.pipeline = s.pipeline)
      (recordLayerSignal env sessionId layer signal) := fun s => by
  rw [recordLayerSignal, result_modifyGet]
  simp only
  split <;> rfl

lemma projects_arbitrate {α : Type} {signal : GovernanceSignal} {modifier : ℚ}
    {stop : EnforcementResult → α} {next' : StateM RecordedPipeline α} {next : StateM Pipeline α}
    (h : Projects pipeline next' next) :
    Projects pipeline (arbitrate P env signal modifier stop next')
      (Pipeline.arbitrate P env signal modifier stop next) := by
  refine (projects_inner _).bind fun state => ?_
  cases Pipeline.checkHardBlock state with
  | none => exact h
  | some result => exact .pure _

variable (names : LayerNames) (identity : Identity) (t : Pipeline.Turn)
  (highest : Option GovernanceSignal)

lemma projects_overwatchLayer : Projects pipeline (overwatchLayer P env names identity t highest)
    (Pipeline.overwatchLayer P env t highest) := by
  refine (projects_inner _).bind fun signal => .unseen (recordLayerSignal_unseen _ _ _ _) ?_
  refine .get fun s => ?_
  rw [shouldBlock]
  split
  · exact .pure _
  · exact projects_arbitrate (projects_inner _)

lemma projects_corridorLayer : Projects pipeline (corridorLayer P env names identity t highest)
    (Pipeline.corridorLayer P env t highest) := by
  refine (projects_inner _).bind fun signal => .unseen (recordLayerSignal_unseen _ _ _ _) ?_
  exact projects_arbitrate (projects_overwatchLayer names identity t _)

lemma projects_layers : Projects pipeline (layers P env names identity t highest)
    (Pipeline.layers P env t highest) := by
  cases highest with
  | none => exact projects_corridorLayer names identity t none
  | some signal => exact projects_arbitrate (projects_corridorLayer names identity t _)

lemma projects_govern : Projects pipeline (govern P env names identity t highest)
    (Pipeline.govern P env t highest) :=
  (projects_layers names identity t highest).bind fun _ =>
    (projects_inner _).bind fun _ => .pure _

lemma projects_inboundWithIdentity (userInput sessionId govTxId : Str) :
    Projects pipeline (inboundWithIdentity P env userInput sessionId govTxId identity)
      (Pipeline.inbound P env userInput sessionId govTxId) := by
  refine (projects_inner _).bind fun ts => .unseen (recordTurn_unseen _ _ _ _ _ _) ?_
  refine .unseen (recordLayerSignal_unseen _ _ _ _) ?_
  refine (projects_govern _ _ _ _).bind fun ⟨result, _⟩ => ?_
  cases hr : result.isApproved with
  | true =>
    simp only [hr, if_true]
    exact (projects_inner _).bind fun _ => .pure _
  | false =>
    simp only [hr, Bool.false_eq_true, if_false]
    exact .pure _

lemma projects_inspectSegments (times : Supply) (sessionId : Str) (segments : List ContextSegment)
    (k : ℕ) : Projects pipeline (inspectSegments P env times sessionId segments k highest)
      (Pipeline.inspectSegments P env sessionId segments k highest) := by
  induction segments generalizing k highest with
  | nil => exact .pure _
  | cons segment rest ih =>
    exact (projects_inner _).bind fun signal =>
      .unseen (recordLayerSignal_unseen _ _ _ _) (ih _ _)

lemma projects_contextTurn (envelope : ModelContextEnvelope) :
    Projects pipeline (contextTurn P env envelope identity)
      (Pipeline.contextTurn P env envelope) := by
  refine (projects_inner _).bind fun modifier => ?_
  refine (projects_inspectSegments _ _ _ _ _).bind fun highest => ?_
  exact .unseen (recordTurn_unseen _ _ _ _ _ _) (.pure _)

lemma projects_inboundContextWithIdentity (envelope : ModelContextEnvelope) (govTxId : Str) :
    Projects pipeline (inboundContextWithIdentity P env envelope govTxId identity)
      (Pipeline.inboundContext P env envelope govTxId) := by
  unfold inboundContextWithIdentity Pipeline.inboundContext
  cases envelope.verify P with
  | error e => exact .pure _
  | ok =>
    refine (projects_contextTurn _ _).bind fun ⟨t, highest⟩ => ?_
    refine (projects_govern _ _ _ _).bind fun ⟨result, highest⟩ => ?_
    cases hr : result.isApproved with
    | true =>
      simp only [hr, if_true]
      exact (projects_inner _).bind fun _ => .pure _
    | false =>
      simp only [hr, Bool.false_eq_true, if_false]
      exact .pure _

lemma projects_outboundSentinel (modelOutput sessionId : Str) (modifier : ℚ) :
    Projects pipeline (outboundSentinel P env modelOutput sessionId modifier)
      (Pipeline.outboundSentinel P env modelOutput sessionId modifier) := fun s => by
  rw [outboundSentinel, result_bind, projects_inner _ s]
  exact congrArg _ (recordTurn_unseen _ _ _ _ _ _ _).symm

lemma projects_outbound (modelOutput sessionId : Str) :
    Projects pipeline (outbound P env modelOutput sessionId)
      (Pipeline.outbound P env modelOutput sessionId) := by
  refine .get fun s => (projects_inner _).bind fun signal => ?_
  refine .unseen (recordLayerSignal_unseen _ _ _ _) (projects_arbitrate ?_)
  refine (projects_inner _).bind fun signal => projects_arbitrate ?_
  refine (projects_inner _).bind fun signal => projects_arbitrate ?_
  exact projects_outboundSentinel _ _ _

/-- An answer with the state after it, seen through the projection. -/
lemma map_of_projects {α : Type} {m' : StateM RecordedPipeline α} {m : StateM Pipeline α}
    (h : Projects pipeline m' m) (f : α → Pipeline.Answer) (s : RecordedPipeline) :
    (result m s.pipeline).map f id =
      (((result m' s).map f id).1, ((result m' s).map f id).2.pipeline) := by
  rw [h s]
  rfl

/-- The operation passes a text through the layers. -/
def records : Pipeline.Op → Bool
  | .inbound .. | .inboundContext .. | .outbound .. => true
  | _ => false

/-- The other operations work on the pipeline alone. -/
lemma step_of_not_records {op : Pipeline.Op} (h : records op = false) (s : RecordedPipeline)
    (identity : Identity) :
    step P s (op, identity) = ((Pipeline.step P s.pipeline op).1,
      { s with pipeline := (Pipeline.step P s.pipeline op).2 }) := by
  cases op <;> first | rfl | cases h

/-- **Refinement.** Each operation answers, and leaves the pipeline, as it does without records. -/
theorem step_pipeline (s : RecordedPipeline) (c : Pipeline.Op × Identity) :
    Pipeline.step P s.pipeline c.1 = ((step P s c).1, (step P s c).2.pipeline) := by
  obtain ⟨op, identity⟩ := c
  cases hr : records op with
  | false => rw [step_of_not_records hr]
  | true =>
    cases op with
    | inbound env userInput sessionId govTxId =>
      exact map_of_projects (projects_inboundWithIdentity identity userInput sessionId govTxId)
        .enforced s
    | inboundContext env envelope govTxId =>
      exact map_of_projects (projects_inboundContextWithIdentity identity envelope govTxId)
        .context s
    | outbound env modelOutput sessionId =>
      exact map_of_projects (projects_outbound modelOutput sessionId) .enforced s
    | _ => cases hr

end RecordedPipeline

end GovSec
