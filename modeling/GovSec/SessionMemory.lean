import GovSec.Signal
import GovSec.Lib.Maps

/-!
The two tiers of memory: the accumulator of one session, whose state tightens the arbiter's
thresholds and sets a floor under its decisions, and the profiles of actors across sessions.
-/

namespace GovSec

open GovSec.Lib.Text GovSec.Lib.Maps

def maxRetainedTurns : ℕ := 20

/-! ### Session memory -/

inductive RequestClassification
  | benign
  | informational
  | boundary
  | escalation
  | authorityClaim
  | extraction
  | obfuscated
  deriving DecidableEq

structure TurnRecord where
  turn : ℕ
  timestamp : DateTime
  severity : Str
  confidence : ℚ
  classification : RequestClassification
  violationClass : Option Str
  deriving DecidableEq

inductive MemoryState
  | clear
  | watching
  | elevated
  | escalated
  | locked
  deriving DecidableEq

/-- The `Debug` form. -/
def MemoryState.text : MemoryState → Str
  | clear => "Clear"
  | watching => "Watching"
  | elevated => "Elevated"
  | escalated => "Escalated"
  | locked => "Locked"

structure SessionMemory where
  sessionId : Str
  createdAt : DateTime
  turns : List TurnRecord
  turnCount : ℕ
  cumulativeThreat : ℚ
  threatTrajectory : ℚ
  maxConfidence : ℚ
  escalationVelocity : ℚ
  boundaryProbes : ℕ
  authorityClaims : ℕ
  extractionAttempts : ℕ
  obfuscationCount : ℕ
  memoryState : MemoryState
  escalated : Bool
  escalationReason : Option Str
  deriving DecidableEq

structure MemoryConfig where
  watchingThreshold : ℚ
  elevatedThreshold : ℚ
  escalatedThreshold : ℚ
  lockedThreshold : ℚ
  velocityTrigger : ℚ
  boundaryProbeLimit : ℕ
  decayFactor : ℚ
  deriving DecidableEq

/-- `MemoryConfig::default()`. -/
def MemoryConfig.default : MemoryConfig where
  watchingThreshold := 0.8
  elevatedThreshold := 1.5
  escalatedThreshold := 2.5
  lockedThreshold := 4.0
  velocityTrigger := 0.15
  boundaryProbeLimit := 3
  decayFactor := 0.95

structure MemoryVerdict where
  state : MemoryState
  cumulativeThreat : ℚ
  trajectory : ℚ
  forceCheckpoint : Bool
  thresholdModifier : ℚ
  stateChanged : Bool
  escalationReason : Option Str
  deriving DecidableEq

structure SessionFingerprint where
  sessionId : Str
  createdAt : DateTime
  turnCount : ℕ
  finalCumulativeThreat : ℚ
  maxConfidence : ℚ
  peakTrajectory : ℚ
  boundaryProbes : ℕ
  authorityClaims : ℕ
  extractionAttempts : ℕ
  obfuscationCount : ℕ
  finalState : MemoryState
  escalated : Bool
  behaviorHash : BitVec 64
  deriving DecidableEq

def RequestClassification.typeByte : RequestClassification → BitVec 64
  | benign => 0
  | informational => 1
  | boundary => 2
  | escalation => 3
  | authorityClaim => 4
  | extraction => 5
  | obfuscated => 6

namespace SessionMemory

def new (now : DateTime) (sessionId : Str) : SessionMemory where
  sessionId
  createdAt := now
  turns := []
  turnCount := 0
  cumulativeThreat := 0
  threatTrajectory := 0
  maxConfidence := 0
  escalationVelocity := 0
  boundaryProbes := 0
  authorityClaims := 0
  extractionAttempts := 0
  obfuscationCount := 0
  memoryState := .clear
  escalated := false
  escalationReason := none

/-- The factor on the arbiter's thresholds. -/
def thresholdModifier (m : SessionMemory) : ℚ :=
  match m.memoryState with
  | .clear => 1
  | .watching => 0.85
  | .elevated => 0.65
  | .escalated => 0.40
  | .locked => 0

def computeState (config : MemoryConfig) (m : SessionMemory) : MemoryState :=
  if config.velocityTrigger < m.escalationVelocity ∧ 3 ≤ m.turnCount ∧ m.memoryState = .clear then
    .elevated
  else if config.lockedThreshold ≤ m.cumulativeThreat then .locked
  else if config.escalatedThreshold ≤ m.cumulativeThreat then .escalated
  else if config.elevatedThreshold ≤ m.cumulativeThreat then .elevated
  else if config.watchingThreshold ≤ m.cumulativeThreat then .watching
  else .clear

/-- The slope of the confidences of the last `window` turns. -/
def computeTrajectory (window : ℕ) (m : SessionMemory) : ℚ :=
  let recent := m.turns.drop (m.turns.length - window)
  if recent.length < 2 then 0
  else
    let n : ℚ := recent.length
    let points := recent.zipIdx.map fun (turn, i) => ((i : ℚ), turn.confidence)
    let sumX := (points.map fun p => p.1).sum
    let sumY := (points.map fun p => p.2).sum
    let sumXY := (points.map fun p => p.1 * p.2).sum
    let sumXX := (points.map fun p => p.1 * p.1).sum
    let denominator := n * sumXX - sumX * sumX
    if |denominator| < 1 / 1000000 then 0 else (n * sumXY - sumX * sumY) / denominator

def severityWeight : Severity → ℚ
  | .none => 0
  | .low => 0.3
  | .medium => 0.6
  | .high => 1
  | .critical => 1.5

/-- What a violation class adds to the accumulated threat. -/
def threatAmplifiers : List (Str × ℚ) :=
  [("MODEL_EXFIL", 10), ("AUTHORITY_CLAIM", 8), ("AGENT_BROADCAST_OVERRIDE", 8),
    ("GOV_SURFACE_INTEL", 4), ("RUNTIME_DOS", 6), ("ZERO_WIDTH_CHARS", 5),
    ("L33T_OBFUSCATION", 5), ("BASE64_INJECTION", 7)]

def threatAmplifier : Option Str → ℚ
  | none => 0
  | some vc => ((threatAmplifiers.find? (·.1 = vc)).map (·.2)).getD 0

def recordTurn (now : DateTime) (signal : GovernanceSignal) (classification : RequestClassification)
    (m : SessionMemory) : SessionMemory :=
  let turnCount := m.turnCount + 1
  let record : TurnRecord :=
    { turn := turnCount, timestamp := now, severity := signal.severity.text
      confidence := signal.confidence, classification, violationClass := signal.violationClass }
  let turns := m.turns ++ [record]
  { m with turnCount, turns := turns.drop (turns.length - maxRetainedTurns) }

def countPattern (classification : RequestClassification) (m : SessionMemory) : SessionMemory :=
  match classification with
  | .boundary => { m with boundaryProbes := m.boundaryProbes + 1 }
  | .authorityClaim => { m with authorityClaims := m.authorityClaims + 1 }
  | .extraction => { m with extractionAttempts := m.extractionAttempts + 1 }
  | .obfuscated => { m with obfuscationCount := m.obfuscationCount + 1 }
  | _ => m

/-- The weight of one signal, with the pattern bonuses of the counters in `m`. -/
def signalWeight (signal : GovernanceSignal) (classification : RequestClassification)
    (config : MemoryConfig) (m : SessionMemory) : ℚ :=
  signal.confidence * severityWeight signal.severity +
  (if config.boundaryProbeLimit < m.boundaryProbes then
    0.1 * ((m.boundaryProbes - config.boundaryProbeLimit : ℕ) : ℚ) else 0) +
  (if classification = .authorityClaim then 0.2 else 0) +
  (if 1 < m.extractionAttempts then 0.15 * (m.extractionAttempts : ℚ) else 0)

def escalationText (m : SessionMemory) : Str :=
  "SessionMemory: cumulative=" ++ fixedText 2 m.cumulativeThreat ++ " turn=" ++
    natText m.turnCount ++ " trajectory=" ++ fixedText 3 m.threatTrajectory ++ " velocity=" ++
    fixedText 3 m.escalationVelocity ++ " probes=" ++ natText m.boundaryProbes ++ " auth=" ++
    natText m.authorityClaims ++ " extract=" ++ natText m.extractionAttempts

/-- The accumulated metrics after a signal of weight `weighted`. -/
def accumulate (signal : GovernanceSignal) (weighted : ℚ) (config : MemoryConfig)
    (m : SessionMemory) : SessionMemory :=
  let cumulativeThreat :=
    m.cumulativeThreat * config.decayFactor + weighted + threatAmplifier signal.violationClass
  { m with
    cumulativeThreat
    maxConfidence := max m.maxConfidence signal.confidence
    threatTrajectory := computeTrajectory 5 m
    escalationVelocity :=
      if 1 < m.turnCount then cumulativeThreat / (m.turnCount : ℚ) else weighted }

def forceCheckpoint (m : SessionMemory) : Bool :=
  m.memoryState = .escalated ∨ m.memoryState = .locked

/-- The first checkpoint of a session is remembered with its reason. -/
def recordEscalation (m : SessionMemory) : SessionMemory :=
  if m.forceCheckpoint && !m.escalated then
    { m with escalated := true, escalationReason := some (escalationText m) }
  else m

/-- The verdict on the memory after a signal, given the memory before. -/
def verdict (previous m : SessionMemory) : MemoryVerdict where
  state := m.memoryState
  cumulativeThreat := m.cumulativeThreat
  trajectory := m.threatTrajectory
  forceCheckpoint := m.forceCheckpoint
  thresholdModifier := m.thresholdModifier
  stateChanged := m.memoryState ≠ previous.memoryState
  escalationReason := m.escalationReason

/-- Accumulate one signal and decide the new memory state. -/
def ingestSignal (now : DateTime) (signal : GovernanceSignal)
    (classification : RequestClassification) (config : MemoryConfig) (m : SessionMemory) :
    MemoryVerdict × SessionMemory :=
  let counted := countPattern classification (recordTurn now signal classification m)
  let weighted := signalWeight signal classification config counted
  let metrics := accumulate signal weighted config counted
  let m' := recordEscalation { metrics with memoryState := computeState config metrics }
  (verdict m m', m')

/-- FNV-1a over the classifications of the retained turns. -/
def computeBehaviorHash (m : SessionMemory) : BitVec 64 :=
  m.turns.foldl (fun hash turn => (hash ^^^ turn.classification.typeByte) * 0x100000001b3#64)
    0xcbf29ce484222325#64

def toFingerprint (m : SessionMemory) : SessionFingerprint where
  sessionId := m.sessionId
  createdAt := m.createdAt
  turnCount := m.turnCount
  finalCumulativeThreat := m.cumulativeThreat
  maxConfidence := m.maxConfidence
  peakTrajectory := m.threatTrajectory
  boundaryProbes := m.boundaryProbes
  authorityClaims := m.authorityClaims
  extractionAttempts := m.extractionAttempts
  obfuscationCount := m.obfuscationCount
  finalState := m.memoryState
  escalated := m.escalated
  behaviorHash := m.computeBehaviorHash

section Facts

variable {now : DateTime} {signal : GovernanceSignal} {classification : RequestClassification}
  {config : MemoryConfig} {m : SessionMemory}

@[simp] lemma countPattern_sessionId : (countPattern classification m).sessionId = m.sessionId := by
  cases classification <;> rfl

@[simp] lemma countPattern_turns : (countPattern classification m).turns = m.turns := by
  cases classification <;> rfl

@[simp] lemma recordEscalation_sessionId : (recordEscalation m).sessionId = m.sessionId := by
  unfold recordEscalation; split <;> rfl

@[simp] lemma recordEscalation_turns : (recordEscalation m).turns = m.turns := by
  unfold recordEscalation; split <;> rfl

@[simp] lemma recordEscalation_memoryState : (recordEscalation m).memoryState = m.memoryState := by
  unfold recordEscalation; split <;> rfl

/-- At most the last twenty turns are retained. -/
theorem ingestSignal_turns_le :
    (ingestSignal now signal classification config m).2.turns.length ≤ maxRetainedTurns := by
  simp only [ingestSignal, recordEscalation_turns, accumulate, countPattern_turns, recordTurn,
    List.length_drop]
  omega

/-- Only a locked memory switches the thresholds off. -/
lemma thresholdModifier_nonpos : m.thresholdModifier ≤ 0 ↔ m.memoryState = .locked := by
  unfold thresholdModifier
  cases m.memoryState <;> simp <;> norm_num

lemma thresholdModifier_le_one : m.thresholdModifier ≤ 1 := by
  unfold thresholdModifier
  split <;> norm_num

end Facts

end SessionMemory

/-! ### Strategic memory -/

inductive StrategicThreatLevel
  | unknown
  | clean
  | cautious
  | suspicious
  | hostile
  deriving DecidableEq

/-- The `Debug` form. -/
def StrategicThreatLevel.text : StrategicThreatLevel → Str
  | unknown => "Unknown"
  | clean => "Clean"
  | cautious => "Cautious"
  | suspicious => "Suspicious"
  | hostile => "Hostile"

structure ActorProfile where
  actorId : Str
  firstSeen : DateTime
  lastSeen : DateTime
  totalSessions : ℕ
  escalatedSessions : ℕ
  sessionFingerprints : List SessionFingerprint
  strategicThreatLevel : StrategicThreatLevel
  cumulativeRiskScore : ℚ
  campaignDetected : Bool
  campaignDescription : Option Str
  recommendedInitialState : MemoryState
  recommendedThresholdModifier : ℚ
  deriving DecidableEq

structure SessionStartAdvice where
  initialState : MemoryState
  thresholdModifier : ℚ
  advisory : Option Str
  deriving DecidableEq

namespace StrategicMemory

/-- Four latest sessions with at most two behaviours between them. -/
def detectCampaign (profile : ActorProfile) : ActorProfile :=
  if 3 ≤ profile.totalSessions ∧ 2 ≤ profile.escalatedSessions ∧
      ((profile.sessionFingerprints.reverse.take 4).map (·.behaviorHash)).dedup.length ≤ 2 then
    { profile with
      campaignDetected := true
      campaignDescription :=
        some ("Repeated attack pattern across " ++ natText profile.totalSessions ++ " sessions") }
  else profile

def threatLevel (profile : ActorProfile) : StrategicThreatLevel :=
  let escalationRatio : ℚ :=
    if 0 < profile.totalSessions then profile.escalatedSessions / profile.totalSessions else 0
  if profile.campaignDetected then .hostile
  else if 0.5 < escalationRatio ∧ 3 ≤ profile.totalSessions then .suspicious
  else if 0.25 < escalationRatio ∧ 2 ≤ profile.totalSessions then .cautious
  else if 2 ≤ profile.totalSessions ∧ profile.escalatedSessions = 0 then .clean
  else .unknown

/-- The initial memory state and threshold modifier recommended for a threat level. -/
def recommendation : StrategicThreatLevel → MemoryState × ℚ
  | .unknown => (.clear, 1)
  | .clean => (.clear, 1)
  | .cautious => (.watching, 0.80)
  | .suspicious => (.elevated, 0.55)
  | .hostile => (.escalated, 0.30)

def evaluateActor (profile : ActorProfile) : ActorProfile :=
  let profile := detectCampaign profile
  let level := threatLevel profile
  { profile with
    strategicThreatLevel := level
    recommendedInitialState := (recommendation level).1
    recommendedThresholdModifier := (recommendation level).2 }

def newProfile (now : DateTime) (actorId : Str) : ActorProfile where
  actorId
  firstSeen := now
  lastSeen := now
  totalSessions := 0
  escalatedSessions := 0
  sessionFingerprints := []
  strategicThreatLevel := .unknown
  cumulativeRiskScore := 0
  campaignDetected := false
  campaignDescription := none
  recommendedInitialState := .clear
  recommendedThresholdModifier := 1

def addSession (now : DateTime) (fingerprint : SessionFingerprint) (profile : ActorProfile) :
    ActorProfile :=
  evaluateActor { profile with
    lastSeen := now
    totalSessions := profile.totalSessions + 1
    escalatedSessions := profile.escalatedSessions + if fingerprint.escalated then 1 else 0
    cumulativeRiskScore := profile.cumulativeRiskScore + fingerprint.finalCumulativeThreat * 0.3
    sessionFingerprints := profile.sessionFingerprints ++ [fingerprint] }

/-- The recommendations of a profile are those for its threat level. -/
def Evaluated (profile : ActorProfile) : Prop :=
  (profile.recommendedInitialState, profile.recommendedThresholdModifier) =
    recommendation profile.strategicThreatLevel

lemma evaluated_addSession (now : DateTime) (fingerprint : SessionFingerprint)
    (profile : ActorProfile) : Evaluated (addSession now fingerprint profile) := rfl

end StrategicMemory

structure StrategicMemory where
  actors : HashMap Str ActorProfile
  /-- The disk location of the snapshot, when there is one. -/
  memoryPath : Option Str
  evaluated : ∀ id profile, actors.lookup id = some profile → StrategicMemory.Evaluated profile

namespace StrategicMemory

def new : StrategicMemory := ⟨∅, none, by simp⟩

def isDurable (s : StrategicMemory) : Bool := s.memoryPath.isSome

/-- The answer says whether the snapshot reached the disk; `diskWrites` is whether a write
would succeed. -/
def ingestSession (now : DateTime) (diskWrites : Bool) (actorId : Str)
    (fingerprint : SessionFingerprint) (s : StrategicMemory) : Bool × StrategicMemory :=
  let profile := (s.actors.lookup actorId).getD (newProfile now actorId)
  (s.isDurable && diskWrites,
    { s with
      actors := s.actors.insert actorId (addSession now fingerprint profile)
      evaluated := by
        intro id profile' h
        rw [lookup_insert_eq_ite] at h
        split at h
        · exact Option.some.inj h ▸ evaluated_addSession _ _ _
        · exact s.evaluated id profile' h })

def advisoryText (actorId : Str) (profile : ActorProfile) : Option Str :=
  if profile.campaignDetected then
    some ("STRATEGIC MEMORY ADVISORY: Actor " ++ actorId ++ " — " ++ natText profile.totalSessions ++
      " sessions, " ++ natText profile.escalatedSessions ++ " escalated. Campaign: " ++
      profile.campaignDescription.getD "unclassified" ++ ". Starting " ++
      profile.recommendedInitialState.text ++ " at " ++
      fixedText 0 (profile.recommendedThresholdModifier * 100) ++ "% threshold.")
  else if profile.strategicThreatLevel ≠ .clean ∧ profile.strategicThreatLevel ≠ .unknown then
    some ("STRATEGIC MEMORY ADVISORY: Actor " ++ actorId ++ " — " ++
      profile.strategicThreatLevel.text ++ ". " ++ natText profile.escalatedSessions ++ "/" ++
      natText profile.totalSessions ++ " sessions escalated.")
  else none

def adviseSessionStart (actorId : Str) (s : StrategicMemory) : SessionStartAdvice :=
  match s.actors.lookup actorId with
  | none => ⟨.clear, 1, none⟩
  | some profile =>
    ⟨profile.recommendedInitialState, profile.recommendedThresholdModifier,
      advisoryText actorId profile⟩

/-- Strategic advice tightens the thresholds and never switches them off. -/
lemma adviseSessionStart_modifier (actorId : Str) (s : StrategicMemory) :
    0 < (adviseSessionStart actorId s).thresholdModifier ∧
      (adviseSessionStart actorId s).thresholdModifier ≤ 1 := by
  unfold adviseSessionStart
  split
  · simp
  · next profile h =>
    have heval := congrArg Prod.snd (s.evaluated actorId profile h)
    dsimp only at heval ⊢
    rw [heval]
    cases profile.strategicThreatLevel <;> norm_num [recommendation]

end StrategicMemory

/-! ### The payload classifier -/

def authorityClaimPhrases : List Str :=
  ["i'm the developer", "admin override", "your developer", "anthropic says", "operator token",
    "maintenance mode", "your creator", "authorized user"]

def extractionPhrases : List Str :=
  ["system prompt", "your instructions", "your configuration", "policy_rule", "threshold",
    "arbiter config", "governance_signal", "show me your"]

def boundaryPhrases : List Str :=
  ["hypothetically", "in theory", "what if you", "imagine you", "just this once",
    "make an exception"]

def escalationPhrases : List Str :=
  ["ignore previous", "override", "bypass", "no restrictions", "forget your", "disregard"]

def informationalPhrases : List Str :=
  ["how does", "what is", "explain", "tell me about", "help me", "can you"]

def isZeroWidth (c : Char) : Bool :=
  [0x200B, 0x200C, 0x200D, 0x2060, 0xFEFF, 0x00AD].contains c.toNat

def isCyrillic (c : Char) : Bool := 0x0400 ≤ c.toNat && c.toNat ≤ 0x04FF

def classifyPayload (P : Platform) (payload : Str) : RequestClassification :=
  let lower := P.toLowercase payload
  let hasZeroWidth := payload.any isZeroWidth
  let hasCyrillic := payload.any isCyrillic
  let hasAscii := payload.any Char.isAlpha
  if containsAny lower authorityClaimPhrases then .authorityClaim
  else if containsAny lower extractionPhrases then .extraction
  else if hasZeroWidth || (hasCyrillic && hasAscii) then .obfuscated
  else if containsAny lower boundaryPhrases then .boundary
  else if containsAny lower escalationPhrases then .escalation
  else if containsAny lower informationalPhrases then .informational
  else .benign

end GovSec
