import GovSec.Sentinel
import GovSec.Corridor
import GovSec.OverWatch
import GovSec.Oim
import GovSec.Haap
import GovSec.Arbiter
import GovSec.ContextEnvelope
import GovSec.VerdictLedger
import GovSec.Capability
import GovSec.Lib.Actions

/-!
The governance pipeline: one state that holds every layer, and the calls that pass a text
through the layers.

Both inbound calls run the same layers after their own first inspection. The layers end in a
block or in a state of the arbiter; only then the session memory takes in the most severe
signal of the call, and a call that was not blocked raises the arbiter to the memory's floor.
-/

namespace GovSec

open GovSec.Lib.Text GovSec.Lib.Maps GovSec.Lib.Actions

/-! ### Results -/

structure RestrictionsApplied where
  toolCallsDisabled : Bool
  responseDepthLimited : Bool
  enhancedLogging : Bool
  deriving DecidableEq

inductive EnforcementResult
  | approved (content : Str)
  | restricted (content : Str) (restrictions : RestrictionsApplied)
  | quarantined (message : Str)
  | hardLocked (message : Str)
  | haapGated (reason : Str) (agency : AgencyLevel) (drs : ℕ)
  deriving DecidableEq

def EnforcementResult.isApproved : EnforcementResult → Bool
  | approved _ => true
  | _ => false

/-! ### State -/

/-- The part of GovMem that decides: a threshold between 0 and 1. -/
structure GovMem where
  blockThreshold : ℚ
  nonneg : 0 ≤ blockThreshold
  lt_one : blockThreshold < 1

def GovMem.default : GovMem := ⟨0.7, by norm_num, by norm_num⟩

structure Pipeline where
  overwatch : OverWatch
  oim : OIM
  arbiter : Arbiter
  crypto : CryptoEngine
  constitutionalEvaluator : Option ConstitutionalEvaluator
  haap : HaapGate
  sessionMemories : HashMap Str SessionMemory
  strategicMemory : StrategicMemory
  memoryConfig : MemoryConfig
  govmem : GovMem
  verdictLedger : VerdictLedger
  capabilityStore : CapabilityStore

namespace Pipeline

def new (arbiterConfig : ArbiterConfig) (constitutionalEvaluator : Option ConstitutionalEvaluator)
    (crypto : CryptoEngine) (strategicMemory : StrategicMemory) (govmem : GovMem) : Pipeline where
  overwatch := .new
  oim := .new
  arbiter := .new arbiterConfig
  crypto
  constitutionalEvaluator
  haap := .new
  sessionMemories := ∅
  strategicMemory
  memoryConfig := .default
  govmem
  verdictLedger := .new
  capabilityStore := .new

section Reads

variable (p : Pipeline) (sessionId : Str)

def currentState : SecurityState := p.arbiter.currentState sessionId

def getThresholdModifier : ℚ :=
  ((p.sessionMemories.lookup sessionId).map (·.thresholdModifier)).getD 1

/-- The accumulated memory of the session exceeds the blocking threshold. -/
def shouldBlock : Bool :=
  match p.sessionMemories.lookup sessionId with
  | some mem => p.govmem.blockThreshold < 1 - mem.thresholdModifier
  | none => false

def stateDrs : SecurityState → ℕ
  | .S1 => 0
  | .S2 => 45
  | .S3 => 75
  | .S4 => 100

def memoryPressure : MemoryState → ℕ
  | .clear => 0
  | .watching => 5
  | .elevated => 15
  | .escalated => 25
  | .locked => 50

/-- The risk score of a session. -/
def sessionDrs : ℕ :=
  min (stateDrs (p.currentState sessionId) +
    ((p.sessionMemories.lookup sessionId).map fun m => memoryPressure m.memoryState).getD 0) 100

end Reads

/-! ### The layers as actions -/

variable (P : Platform) (env : Supply)

def inspect (payload : Str) (direction : Direction) (sessionId : Str) :
    StateM Pipeline GovernanceSignal :=
  modifyGet fun p =>
    let (signal, crypto) := Sentinel.inspect P env p.crypto payload direction sessionId
    (signal, { p with crypto })

def corridorEvaluate (payload : Str) (direction : Direction) (sessionId : Str) :
    StateM Pipeline GovernanceSignal :=
  modifyGet fun p =>
    let (signal, crypto) :=
      Corridor.evaluate P env p.crypto payload direction sessionId p.constitutionalEvaluator
    (signal, { p with crypto })

def overwatchEvaluate (payload : Str) (direction : Direction) (sessionId : Str) :
    StateM Pipeline GovernanceSignal :=
  modifyGet fun p =>
    let (signal, overwatch, crypto) :=
      OverWatch.evaluate P env p.crypto p.overwatch payload direction sessionId
    (signal, { p with overwatch, crypto })

def oimObserve (owSignal : GovernanceSignal) : StateM Pipeline GovernanceSignal :=
  modifyGet fun p =>
    let (signal, oim, crypto) := OIM.observe p.oim P env p.crypto owSignal
    (signal, { p with oim, crypto })

/-- `haap_evaluate`: the gate at the session's risk score. -/
def haapEvaluate (sessionId : Str) (agency : AgencyLevel) (actionClass : Str)
    (token : Option Str) : StateM Pipeline HaapVerdict :=
  modifyGet fun p =>
    let (verdict, haap, crypto) :=
      p.haap.evaluate P env p.crypto sessionId agency (p.sessionDrs sessionId) actionClass token
    (verdict, { p with haap, crypto })

def processWithModifier (signal : GovernanceSignal) (modifier : ℚ) :
    StateM Pipeline SecurityState :=
  modifyGet fun p =>
    let (state, arbiter, crypto) := p.arbiter.processWithModifier P env p.crypto signal modifier
    (state, { p with arbiter, crypto })

def process (signal : GovernanceSignal) : StateM Pipeline SecurityState :=
  modifyGet fun p =>
    let (state, arbiter, crypto) := p.arbiter.process P env p.crypto signal
    (state, { p with arbiter, crypto })

/-- The modifier of the session, whose memory starts as strategic memory advises. -/
def initSessionMemory (sessionId : Str) : StateM Pipeline ℚ :=
  modifyGet fun p =>
    match p.sessionMemories.lookup sessionId with
    | some mem => (mem.thresholdModifier, p)
    | none =>
      let advice := p.strategicMemory.adviseSessionStart sessionId
      let mem := { SessionMemory.new env.now sessionId with memoryState := advice.initialState }
      (advice.thresholdModifier,
        { p with sessionMemories := p.sessionMemories.insert sessionId mem })

def ingestToMemory (sessionId : Str) (highest : Option GovernanceSignal)
    (classification : RequestClassification) : StateM Pipeline (Option MemoryVerdict) :=
  modifyGet fun p =>
    match highest, p.sessionMemories.lookup sessionId with
    | some signal, some mem =>
      let (verdict, mem) := mem.ingestSignal env.now signal classification p.memoryConfig
      (some verdict, { p with sessionMemories := p.sessionMemories.insert sessionId mem })
    | _, _ => (none, p)

def trackHighest (signal : GovernanceSignal) (highest : Option GovernanceSignal) :
    Option GovernanceSignal :=
  match highest with
  | none => some signal
  | some h =>
    if h.severity < signal.severity ∨
        (signal.severity = h.severity ∧ h.confidence < signal.confidence) then some signal
    else some h

def memorySeverity : MemoryState → Severity
  | .watching => .medium
  | .elevated => .high
  | .escalated => .high
  | .locked => .critical
  | .clear => .none

def memoryConfidence : MemoryState → ℚ
  | .watching => 0.70
  | .elevated => 0.82
  | .escalated => 0.90
  | .locked => 0.98
  | .clear => 0

def buildMemorySignal (sessionId : Str) (verdict : MemoryVerdict) (direction : Direction) :
    StateM Pipeline GovernanceSignal :=
  modifyGet fun p =>
    let (signal, crypto) := attachCrypto P env p.crypto
      (violationSignal .sentinel direction sessionId "SESSION_MEMORY_ESCALATION" "MEM-001"
        (memorySeverity verdict.state) (memoryConfidence verdict.state)
        (computeHash P ("memory_checkpoint_" ++ sessionId)) "sentinel/session_memory")
    (signal, { p with crypto })

def enforcementResult (state : SecurityState) (content : Str) : EnforcementResult :=
  match state with
  | .S1 => .approved content
  | .S2 => .restricted content ⟨true, false, true⟩
  | .S3 => .quarantined ("This request requires additional verification before proceeding. " ++
      "A security review has been flagged. Please contact support if you believe this is an error.")
  | .S4 => .hardLocked
      "Session suspended. Security event recorded. Please contact your administrator."

def checkHardBlock (state : SecurityState) : Option EnforcementResult :=
  match state with
  | .S4 => some (.hardLocked "Session suspended. Security event recorded.")
  | .S3 => some (.quarantined "This request requires additional verification.")
  | _ => none

/-- The arbiter's answer to the signal of a layer: it ends the call or the next layer follows. -/
def arbitrate {α : Type} (signal : GovernanceSignal) (modifier : ℚ)
    (stop : EnforcementResult → α) (next : StateM Pipeline α) : StateM Pipeline α := do
  let state ← processWithModifier P env signal modifier
  match checkHardBlock state with
  | some result => pure (stop result)
  | none => next

/-! ### Inbound calls -/

/-- What an inbound call knows once its memory is there and its text is classified. -/
structure Turn where
  sessionId : Str
  content : Str
  classification : RequestClassification
  thresholdModifier : ℚ
  /-- The action class that the call names to the gate. -/
  actionClass : Str

/-- How the layers of a call end: with an early answer, or in a state of the arbiter. -/
inductive LayerOutcome
  | blocked (result : EnforcementResult)
  | passed (state : SecurityState)

/-- The outcome and the highest signal. -/
abbrev Layers := StateM Pipeline (LayerOutcome × Option GovernanceSignal)

/-- OIM watches the signal of OverWatch. -/
def oimLayer (t : Turn) (owSignal : GovernanceSignal) (highest : Option GovernanceSignal) :
    Layers := do
  let signal ← oimObserve P (env.part 0) owSignal
  let state ← processWithModifier P (env.part 1) signal t.thresholdModifier
  pure (.passed state, trackHighest signal highest)

/-- The gate, at the default agency and without a token. -/
def haapLayer (t : Turn) (owSignal : GovernanceSignal) (highest : Option GovernanceSignal) :
    Layers := do
  let verdict ← haapEvaluate P (env.part 0) t.sessionId .executeActions t.actionClass none
  match verdict with
  | .constitutionalBlock _ _ =>
    pure (.blocked (.hardLocked
      "Constitutional block. DRS ceiling exceeded. No override path."), highest)
  | .gateRequired drs agency reason _ => pure (.blocked (.haapGated reason agency drs), highest)
  | .tokenRejected _ _ =>
    pure (.blocked (.quarantined "Authorization token rejected. Contact operator."), highest)
  | _ => oimLayer P (env.part 1) t owSignal highest

/-- OverWatch, after which the memory may block and the gate follows. -/
def overwatchLayer (t : Turn) (highest : Option GovernanceSignal) : Layers := do
  let signal ← overwatchEvaluate P (env.part 0) t.content .inbound t.sessionId
  let p ← get
  if p.shouldBlock t.sessionId then
    pure (.blocked (.quarantined "GOVMEM-DRIFT-DETECTED"), highest)
  else
    let highest := trackHighest signal highest
    arbitrate P (env.part 1) signal t.thresholdModifier (fun result => (.blocked result, highest))
      (haapLayer P (env.part 2) t signal highest)

def corridorLayer (t : Turn) (highest : Option GovernanceSignal) : Layers := do
  let signal ← corridorEvaluate P (env.part 0) t.content .inbound t.sessionId
  let highest := trackHighest signal highest
  arbitrate P (env.part 1) signal t.thresholdModifier (fun result => (.blocked result, highest))
    (overwatchLayer P (env.part 2) t highest)

/-- All layers, from Sentinel's signal on, when there is one. -/
def layers (t : Turn) (highest : Option GovernanceSignal) : Layers :=
  match highest with
  | none => corridorLayer P (env.part 1) t none
  | some signal =>
    arbitrate P (env.part 0) signal t.thresholdModifier
      (fun result => (.blocked result, some signal)) (corridorLayer P (env.part 1) t (some signal))

/-- Apply the memory's floor to the arbiter's state; the arbiter hears of it by a signal. -/
def applyFloor (t : Turn) (state : SecurityState) (verdict : MemoryVerdict) :
    StateM Pipeline EnforcementResult := do
  let floored := Arbiter.applyMemoryFloor verdict.state state
  if state < floored then
    let signal ← buildMemorySignal P (env.part 0) t.sessionId verdict .inbound
    let _ ← process P (env.part 1) signal
    pure (enforcementResult floored t.content)
  else pure (enforcementResult floored t.content)

/-- Every way out ingests the highest signal; only the last one applies the memory floor. -/
def settle (t : Turn) (outcome : LayerOutcome) (highest : Option GovernanceSignal) :
    StateM Pipeline EnforcementResult := do
  let verdict ← ingestToMemory (env.part 0) t.sessionId highest t.classification
  match outcome, verdict with
  | .blocked result, _ => pure result
  | .passed state, none => pure (enforcementResult state t.content)
  | .passed state, some v => applyFloor P (env.part 1) t state v

def govern (t : Turn) (highest : Option GovernanceSignal) :
    StateM Pipeline (EnforcementResult × Option GovernanceSignal) := do
  let (outcome, highest) ← layers P (env.part 0) t highest
  let result ← settle P (env.part 1) t outcome highest
  pure (result, highest)

/-- Execution authority for an approved call, with the context it covers when it has one. -/
def recordApproval (govTxId : Str) (signal : GovernanceSignal) (contextHash runId : Option Str) :
    StateM Pipeline Str :=
  modifyGet fun p =>
    let (id, verdictLedger) :=
      p.verdictLedger.recordFinalApprovedInner env govTxId signal contextHash runId
    (id, { p with verdictLedger })

/-- The start of a call on one text: its memory, its class and Sentinel's signal. -/
def inboundTurn (userInput sessionId : Str) : StateM Pipeline (Turn × GovernanceSignal) := do
  let thresholdModifier ← initSessionMemory (env.part 0) sessionId
  let signal ← inspect P (env.part 1) userInput .inbound sessionId
  pure
    ({ sessionId
       content := userInput
       classification := classifyPayload P userInput
       thresholdModifier
       actionClass := "pipeline_inbound" }, signal)

def inbound (userInput sessionId govTxId : Str) : StateM Pipeline EnforcementResult := do
  let (t, signal) ← inboundTurn P (env.part 0) userInput sessionId
  let (result, _) ← govern P (env.part 1) t (trackHighest signal none)
  if result.isApproved then
    let _ ← recordApproval (env.part 2) govTxId signal none none
    pure result
  else pure result

/-- Sentinel on each segment; the `k`-th draws from the `k`-th part. -/
def inspectSegments (sessionId : Str) :
    List ContextSegment → ℕ → Option GovernanceSignal → StateM Pipeline (Option GovernanceSignal)
  | [], _, highest => pure highest
  | segment :: rest, k, highest => do
    let signal ← inspect P (env.part k) segment.content .inbound sessionId
    inspectSegments sessionId rest (k + 1) (trackHighest signal highest)

/-- The contents one under another; an empty beginning adds no line. -/
def concatenate (segments : List ContextSegment) : Str :=
  segments.foldl
    (fun acc s => if acc = [] then acc ++ s.content else acc ++ '\n' :: s.content) []

/-- The signal that stands for a context without any. -/
def contextSignal (sessionId contextHash : Str) : GovernanceSignal :=
  ((SignalBuilder.new .sentinel .inbound sessionId).withPayloadHash contextHash).build env

/-- The start of a call on a whole context: its memory, the highest of Sentinel's signals on
the segments, and the class of the segments together. -/
def contextTurn (envelope : ModelContextEnvelope) :
    StateM Pipeline (Turn × Option GovernanceSignal) := do
  let sessionId := envelope.sessionId
  let segments := envelope.segmentsRequiringInspection
  let thresholdModifier ← initSessionMemory (env.part 0) sessionId
  let highest ← inspectSegments P (env.part 1) sessionId segments 0 none
  let content := concatenate segments
  pure
    ({ sessionId
       content
       classification := classifyPayload P content
       thresholdModifier
       actionClass := "pipeline_inbound_context" }, highest)

def inboundContext (envelope : ModelContextEnvelope) (govTxId : Str) :
    StateM Pipeline (Except EnvelopeError EnforcementResult) :=
  match envelope.verify P with
  | .error e => pure (.error e)
  | .ok () => do
    let (t, highest) ← contextTurn P (env.part 0) envelope
    let (result, highest) ← govern P (env.part 1) t highest
    if result.isApproved then
      let signal :=
        highest.getD (contextSignal (env.part 2) envelope.sessionId envelope.contextHash)
      let _ ← recordApproval (env.part 3) govTxId signal (some envelope.contextHash)
        (some envelope.runId)
      pure (.ok result)
    else pure (.ok result)

/-! ### Outbound calls -/

def outboundSentinel (modelOutput sessionId : Str) (modifier : ℚ) :
    StateM Pipeline EnforcementResult := do
  let signal ← inspect P (env.part 0) modelOutput .outbound sessionId
  let state ← processWithModifier P (env.part 1) signal modifier
  pure (enforcementResult state modelOutput)

def outboundOim (modelOutput sessionId : Str) (modifier : ℚ) (owSignal : GovernanceSignal) :
    StateM Pipeline EnforcementResult := do
  let signal ← oimObserve P (env.part 0) owSignal
  arbitrate P (env.part 1) signal modifier id
    (outboundSentinel P (env.part 2) modelOutput sessionId modifier)

def outboundOverwatch (modelOutput sessionId : Str) (modifier : ℚ) :
    StateM Pipeline EnforcementResult := do
  let signal ← overwatchEvaluate P (env.part 0) modelOutput .outbound sessionId
  arbitrate P (env.part 1) signal modifier id
    (outboundOim P (env.part 2) modelOutput sessionId modifier signal)

/-- Corridor, OverWatch, OIM and Sentinel in turn. -/
def outbound (modelOutput sessionId : Str) : StateM Pipeline EnforcementResult := do
  let p ← get
  let modifier := p.getThresholdModifier sessionId
  let signal ← corridorEvaluate P (env.part 0) modelOutput .outbound sessionId
  arbitrate P (env.part 1) signal modifier id
    (outboundOverwatch P (env.part 2) modelOutput sessionId modifier)

/-! ### Sessions -/

/-- The answer says whether the profile of the session reached the disk; `diskWrites` is
whether a write would succeed. -/
def endSession (diskWrites : Bool) (sessionId actorId : Str) : StateM Pipeline Bool :=
  modifyGet fun p =>
    let (persisted, strategicMemory) :=
      match p.sessionMemories.lookup sessionId with
      | some m => p.strategicMemory.ingestSession env.now diskWrites actorId m.toFingerprint
      | none => (false, p.strategicMemory)
    (persisted,
      { p with
        strategicMemory
        sessionMemories := p.sessionMemories.erase sessionId
        arbiter := p.arbiter.forgetSession sessionId
        overwatch := p.overwatch.resetSession sessionId })

/-- The arbiter checks the authority before anything else is touched. -/
def operatorReset (sessionId operatorToken : Str) : StateM Pipeline (Except Str Unit) :=
  modifyGet fun p =>
    match p.arbiter.operatorResetSession P env p.crypto sessionId operatorToken with
    | (.error e, arbiter, crypto) => (.error e, { p with arbiter, crypto })
    | (.ok (), arbiter, crypto) =>
      (.ok (),
        { p with
          arbiter
          crypto
          overwatch := p.overwatch.resetSession sessionId
          sessionMemories := p.sessionMemories.erase sessionId })

def configureOperatorResetAuthority (authority : OperatorResetAuthority) :
    StateM Pipeline (Except Str Unit) :=
  modifyGet fun p =>
    let (answer, arbiter) := p.arbiter.configureOperatorResetAuthority authority
    (answer, { p with arbiter })

end Pipeline

end GovSec
