import GovSec.Encoding
import GovSec.Validation

/-!
The evidence plane: signed, hash-linked events of what the runtime decided, signed checkpoints
of the chain, an optional external sink with a queue of what it has not taken yet, and the
verification of a snapshot by itself and against a checkpoint.
-/

namespace GovSec

open GovSec.Lib.Text

/-! ### Keys and instants -/

/-- Ed25519 under keys that are read from text. The engine's own key is one of them. -/
structure KeyRing (P : Platform) where
  /-- The 32 bytes of the engine's verifying key. -/
  verifyingKey : Hex 64
  /-- `VerifyingKey::from_bytes` succeeds. -/
  isKey : Hex 64 → Bool
  verifyUnder : Hex 64 → Str → Hex 128 → Bool
  isKey_verifyingKey : isKey verifyingKey = true
  verifyUnder_verifyingKey : verifyUnder verifyingKey = P.verify

/-- A key ring on which every key verifies what the engine's does. -/
def fixedKeys (P : Platform) : KeyRing P where
  verifyingKey := Hex.repeated 64 0
  isKey _ := true
  verifyUnder _ := P.verify
  isKey_verifyingKey := rfl
  verifyUnder_verifyingKey := rfl

/-- `hex::decode` to `n / 2` bytes. -/
def Hex.read (n : ℕ) (t : Str) : Option (Hex n) :=
  match hexDecode t with
  | some ds => if h : ds.length = n then some ⟨ds, h⟩ else none
  | none => none

lemma Hex.read_text {n : ℕ} (hn : n % 2 = 0) (h : Hex n) : Hex.read n h.text = some h := by
  have hdec : hexDecode h.text = some h.digits := by
    rw [hexDecode, if_pos (by simpa using hn), mapM_hexValue_text]
  simp [Hex.read, hdec, h.length_eq]

/-- A `DateTime<Utc>` as it is stored. In the last second of a minute the nanoseconds may run
to two seconds, a leap second. -/
@[ext] structure UtcInstant where
  secs : ℤ
  nanos : ℕ
  nanos_lt : nanos < 2000000000
  leap : 1000000000 ≤ nanos → secs % 60 = 59
  deriving DecidableEq

namespace UtcInstant

lemma nanos_emod_lt (t : DateTime) : (t % nanosPerSec).toNat < 1000000000 := by
  unfold nanosPerSec
  omega

/-- `Utc::now()` at the instant `t`. -/
def ofDateTime (t : DateTime) : UtcInstant where
  secs := t / nanosPerSec
  nanos := (t % nanosPerSec).toNat
  nanos_lt := (nanos_emod_lt t).trans (by decide)
  leap h := absurd h (not_le.mpr (nanos_emod_lt t))

/-- The nanoseconds since the epoch. -/
def totalNanos (t : UtcInstant) : ℤ := t.secs * nanosPerSec + t.nanos

/-- `timestamp_nanos_opt().unwrap_or(0)`. -/
def timestampNanosOrZero (t : UtcInstant) : ℤ := timestampNanos t.totalNanos

@[simp] lemma totalNanos_ofDateTime (t : DateTime) : (ofDateTime t).totalNanos = t := by
  have hpos : (0 : ℤ) < nanosPerSec := by decide
  have hmod := Int.emod_nonneg t hpos.ne'
  have hdiv := Int.mul_ediv_add_emod t nanosPerSec
  simp only [totalNanos, ofDateTime, Int.toNat_of_nonneg hmod]
  rw [mul_comm]
  exact hdiv

end UtcInstant

/-! ### Events -/

def evidenceSchemaVersion : Str := "logos.govsec-evidence.v1"
def evidenceCheckpointSchemaVersion : Str := "logos.govsec-evidence-checkpoint.v1"

inductive EvidenceEventType
  | contextApproved
  | contextRefused
  | providerAuthorized
  | providerRefused
  | actionAuthorized
  | actionRefused
  | capabilityConsumed
  | capabilityRejected
  | outboundReleased
  | outboundWithheld
  deriving DecidableEq

def EvidenceEventType.asStr : EvidenceEventType → Str
  | contextApproved => "CONTEXT_APPROVED"
  | contextRefused => "CONTEXT_REFUSED"
  | providerAuthorized => "PROVIDER_AUTHORIZED"
  | providerRefused => "PROVIDER_REFUSED"
  | actionAuthorized => "ACTION_AUTHORIZED"
  | actionRefused => "ACTION_REFUSED"
  | capabilityConsumed => "CAPABILITY_CONSUMED"
  | capabilityRejected => "CAPABILITY_REJECTED"
  | outboundReleased => "OUTBOUND_RELEASED"
  | outboundWithheld => "OUTBOUND_WITHHELD"

/-- The inverse of `asStr`. -/
def EvidenceEventType.ofStr? (t : Str) : Option EvidenceEventType :=
  [contextApproved, contextRefused, providerAuthorized, providerRefused, actionAuthorized,
    actionRefused, capabilityConsumed, capabilityRejected, outboundReleased,
    outboundWithheld].find? (·.asStr = t)

lemma EvidenceEventType.ofStr?_asStr (k : EvidenceEventType) : ofStr? k.asStr = some k := by
  cases k <;> decide

lemma EvidenceEventType.asStr_injective : Function.Injective asStr := fun k l h =>
  Option.some.inj (by rw [← ofStr?_asStr k, h, ofStr?_asStr])

lemma EvidenceEventType.bar_notMem_asStr (k : EvidenceEventType) : '|' ∉ k.asStr := by
  cases k <;> decide

@[ext] structure EvidencePayload where
  govTxId : Option Str
  sessionId : Option Str
  runId : Option Str
  principalFingerprint : Option Str
  authority : Option Str
  contextHash : Option Str
  decisionId : Option Str
  capabilityId : Option Str
  actionHash : Option Str
  outboundHash : Option Str
  toolName : Option Str
  resourceKind : Option Str
  resourceLocatorHash : Option Str
  toolCallId : Option Str
  policyVersion : Option Str
  policyHash : Option Str
  outcome : Str
  deriving DecidableEq

structure EvidenceEvent where
  schemaVersion : Str
  epochId : Str
  epochParentHash : Option Str
  sequence : ℕ
  eventId : Str
  timestamp : UtcInstant
  eventType : EvidenceEventType
  payload : EvidencePayload
  previousEventHash : Str
  eventHash : Str
  signerFingerprint : Str
  signerPublicKey : Str
  signature : Str
  deriving DecidableEq

structure EvidenceCheckpoint where
  schemaVersion : Str
  epochId : Str
  lastSequence : ℕ
  headHash : Str
  signerFingerprint : Str
  signerPublicKey : Str
  createdAt : UtcInstant
  checkpointHash : Str
  signature : Str
  deriving DecidableEq

/-! ### Canonical texts -/

def enc (value : Str) : Str := hexEncode (utf8 value)

def encOpt : Option Str → Str
  | some value => '1' :: enc value
  | none => ['0']

def canonicalEventFields (event : EvidenceEvent) : List Str :=
  let payload := event.payload
  [enc event.schemaVersion, enc event.epochId, encOpt event.epochParentHash,
    natText event.sequence, enc event.eventId, intText event.timestamp.timestampNanosOrZero,
    event.eventType.asStr, encOpt payload.govTxId, encOpt payload.sessionId, encOpt payload.runId,
    encOpt payload.principalFingerprint, encOpt payload.authority, encOpt payload.contextHash,
    encOpt payload.decisionId, encOpt payload.capabilityId, encOpt payload.actionHash,
    encOpt payload.outboundHash, encOpt payload.toolName, encOpt payload.resourceKind,
    encOpt payload.resourceLocatorHash, encOpt payload.toolCallId, encOpt payload.policyVersion,
    encOpt payload.policyHash, enc payload.outcome, enc event.previousEventHash,
    enc event.signerFingerprint, enc event.signerPublicKey]

def canonicalEventMaterial (event : EvidenceEvent) : Str :=
  joinWith '|' (canonicalEventFields event)

def canonicalCheckpointMaterial (schemaVersion epochId : Str) (lastSequence : ℕ)
    (headHash signerFingerprint signerPublicKey : Str) (createdAt : UtcInstant) : Str :=
  joinWith '|'
    [enc schemaVersion, enc epochId, natText lastSequence, enc headHash, enc signerFingerprint,
      enc signerPublicKey, intText createdAt.timestampNanosOrZero]

lemma enc_injective : Function.Injective enc := hexEncode_injective.comp utf8_injective

lemma encOpt_injective : Function.Injective encOpt := by
  rintro (_ | a) (_ | b) h <;> simp only [encOpt, List.cons.injEq] at h
  · rfl
  · exact absurd h.1 (by decide)
  · exact absurd h.1 (by decide)
  · rw [enc_injective h.2]

lemma bar_notMem_enc (value : Str) : '|' ∉ enc value := bar_notMem_hexEncode _

lemma bar_notMem_encOpt (value : Option Str) : '|' ∉ encOpt value := by
  cases value <;> simp [encOpt, bar_notMem_enc]

lemma bar_notMem_canonicalEventFields (event : EvidenceEvent) :
    ∀ t ∈ canonicalEventFields event, '|' ∉ t := by
  simp [canonicalEventFields, bar_notMem_enc, bar_notMem_encOpt, bar_notMem_natText,
    bar_notMem_intText, EvidenceEventType.bar_notMem_asStr]

/-! ### Signatures under embedded keys -/

section Verification

variable (P : Platform) (K : KeyRing P)

/-- The verifying key a text holds. -/
def readKey (publicKeyHex : Str) : Option (Hex 64) :=
  (Hex.read 64 publicKeyHex).filter K.isKey

/-- The first 16 digits of the hash of a key's text. -/
def keyFingerprint (publicKeyHex : Str) : Str := (computeHash P publicKeyHex).take 16

def verifyingKeyHex : Str := K.verifyingKey.text

def verifyingKeyFingerprint : Str := keyFingerprint P (verifyingKeyHex P K)

def signerFingerprint (publicKeyHex : Str) : Option Str :=
  (readKey P K publicKeyHex).map fun _ => keyFingerprint P publicKeyHex

def verifySignatureHex (publicKeyHex data signatureHex : Str) : Bool :=
  match readKey P K publicKeyHex with
  | none => false
  | some key =>
    match Hex.read 128 signatureHex with
    | none => false
    | some signature => K.verifyUnder key data signature

def EvidenceEvent.recomputeHash (event : EvidenceEvent) : Str :=
  computeHash P (canonicalEventMaterial event)

def EvidenceEvent.verifySignature (event : EvidenceEvent) : Bool :=
  verifySignatureHex P K event.signerPublicKey event.eventHash event.signature

namespace EvidenceCheckpoint

variable (checkpoint : EvidenceCheckpoint)

def hashMaterial : Str :=
  canonicalCheckpointMaterial checkpoint.schemaVersion checkpoint.epochId checkpoint.lastSequence
    checkpoint.headHash checkpoint.signerFingerprint checkpoint.signerPublicKey checkpoint.createdAt

def recomputeHash : Str := computeHash P checkpoint.hashMaterial

def verify : Bool :=
  if checkpoint.schemaVersion ≠ evidenceCheckpointSchemaVersion then false
  else
    match GovSec.signerFingerprint P K checkpoint.signerPublicKey with
    | none => false
    | some fingerprint =>
      if fingerprint ≠ checkpoint.signerFingerprint then false
      else if checkpoint.recomputeHash P ≠ checkpoint.checkpointHash then false
      else
        verifySignatureHex P K checkpoint.signerPublicKey checkpoint.checkpointHash
          checkpoint.signature

end EvidenceCheckpoint

inductive EvidenceVerificationError
  | invalidCheckpoint
  | checkpointSignerMismatch
  | schemaMismatch (sequence : ℕ)
  | mixedEpoch
  | mixedSigner
  | signerFingerprintMismatch
  | invalidSequence (expected actual : ℕ)
  | parentMismatch (sequence : ℕ)
  | hashMismatch (sequence : ℕ)
  | signatureInvalid (sequence : ℕ)
  deriving DecidableEq

/-- What the first event of an epoch links to when the epoch has no parent. -/
def genesisHash (epochId signer : Str) : Str :=
  computeHash P (evidenceSchemaVersion ++ "|GENESIS|" ++ epochId ++ '|' :: signer)

/-- The hash the first event of an epoch links to. -/
def epochStart (epochParentHash : Option Str) (epochId signer : Str) : Str :=
  epochParentHash.getD (genesisHash P epochId signer)

/-- The loop of `verify_snapshot` from a position on. -/
def verifyEvents (first : EvidenceEvent) (signerFp : Str) :
    ℕ → Str → List EvidenceEvent → Except EvidenceVerificationError Unit
  | _, _, [] => .ok ()
  | index, previousHash, event :: events => do
    failIf (event.schemaVersion ≠ evidenceSchemaVersion) (.schemaMismatch event.sequence)
    failIf (event.epochId ≠ first.epochId ∨ event.epochParentHash ≠ first.epochParentHash)
      .mixedEpoch
    failIf (event.signerPublicKey ≠ first.signerPublicKey ∨ event.signerFingerprint ≠ signerFp)
      .mixedSigner
    failIf (event.sequence ≠ index + 1) (.invalidSequence (index + 1) event.sequence)
    failIf (event.previousEventHash ≠ previousHash) (.parentMismatch event.sequence)
    failIf (event.recomputeHash P ≠ event.eventHash) (.hashMismatch event.sequence)
    failIf (¬ event.verifySignature P K = true) (.signatureInvalid event.sequence)
    verifyEvents first signerFp (index + 1) event.eventHash events

def verifySnapshot : List EvidenceEvent → Except EvidenceVerificationError Unit
  | [] => .ok ()
  | first :: rest => do
    let signerFp ← okOr (signerFingerprint P K first.signerPublicKey) .signerFingerprintMismatch
    failIf (signerFp ≠ first.signerFingerprint) .signerFingerprintMismatch
    verifyEvents P K first signerFp 0 (epochStart P first.epochParentHash first.epochId signerFp)
      (first :: rest)

def verifySnapshotAgainstCheckpoint (events : List EvidenceEvent)
    (checkpoint : EvidenceCheckpoint) :
    Except EvidenceVerificationError Unit := do
  failIf (¬ checkpoint.verify P K = true) .invalidCheckpoint
  verifySnapshot P K events
  match events.getLast? with
  | none => failIf (checkpoint.lastSequence ≠ 0) (.invalidSequence checkpoint.lastSequence 0)
  | some last => do
    failIf (last.epochId ≠ checkpoint.epochId) .mixedEpoch
    failIf (last.signerPublicKey ≠ checkpoint.signerPublicKey ∨
      last.signerFingerprint ≠ checkpoint.signerFingerprint) .mixedSigner
    failIf (last.sequence ≠ checkpoint.lastSequence)
      (.invalidSequence checkpoint.lastSequence last.sequence)
    failIf (last.eventHash ≠ checkpoint.headHash) (.parentMismatch last.sequence)

end Verification

/-! ### The sink -/

structure EvidenceSinkError where
  sink : Str
  message : Str
  deriving DecidableEq

def EvidenceSinkError.text (e : EvidenceSinkError) : Str :=
  "evidence sink " ++ e.sink ++ " failed: " ++ e.message

/-- An external sink with what it has stored. Whether a write succeeds is the sink's affair:
each write is given its fault, if any. -/
structure EvidenceSink where
  name : Str
  stored : List EvidenceEvent
  deriving DecidableEq

def EvidenceSink.write (sink : EvidenceSink) (event : EvidenceEvent) :
    Option EvidenceSinkError → Except EvidenceSinkError Unit × EvidenceSink
  | some error => (.error error, sink)
  | none => (.ok (), { sink with stored := sink.stored ++ [event] })

inductive EvidenceSinkStatus
  | notConfigured
  | delivered (sink : Str)
  | deferred (sink error : Str)
  deriving DecidableEq

structure EvidenceAppendReceipt where
  eventId : Str
  eventHash : Str
  sequence : ℕ
  epochId : Str
  sinkStatus : EvidenceSinkStatus
  deriving DecidableEq

/-! ### The plane -/

structure EvidenceState where
  epochId : Str
  epochParentHash : Option Str
  headHash : Str
  nextSequence : ℕ
  events : List EvidenceEvent
  pendingSink : List EvidenceEvent
  deriving DecidableEq

structure EvidencePlane where
  sink : Option EvidenceSink
  state : EvidenceState
  deriving DecidableEq

namespace EvidencePlane

variable (P : Platform) (K : KeyRing P) (env : Supply)

def withParentHash (epochParentHash : Option Str) (sink : Option EvidenceSink) : EvidencePlane :=
  let epochId : Str := "EVP-" ++ env.fresh.simple
  { sink
    state :=
      { epochId
        epochParentHash
        headHash := epochStart P epochParentHash epochId (verifyingKeyFingerprint P K)
        nextSequence := 1
        events := []
        pendingSink := [] } }

def new (sink : Option EvidenceSink) : EvidencePlane := withParentHash P K env none sink

def fromCheckpoint (checkpoint : EvidenceCheckpoint) (sink : Option EvidenceSink) :
    Except EvidenceVerificationError EvidencePlane := do
  failIf (¬ checkpoint.verify P K = true) .invalidCheckpoint
  failIf (checkpoint.signerPublicKey ≠ verifyingKeyHex P K ∨
    checkpoint.signerFingerprint ≠ verifyingKeyFingerprint P K) .checkpointSignerMismatch
  pure (withParentHash P K env (some checkpoint.headHash) sink)

variable (p : EvidencePlane)

/-- The next event of the chain, hashed and signed. -/
def newEvent (eventType : EvidenceEventType) (payload : EvidencePayload) : EvidenceEvent :=
  let event : EvidenceEvent :=
    { schemaVersion := evidenceSchemaVersion
      epochId := p.state.epochId
      epochParentHash := p.state.epochParentHash
      sequence := p.state.nextSequence
      eventId := "EVE-" ++ env.fresh.simple
      timestamp := .ofDateTime env.now
      eventType
      payload
      previousEventHash := p.state.headHash
      eventHash := []
      signerFingerprint := verifyingKeyFingerprint P K
      signerPublicKey := verifyingKeyHex P K
      signature := [] }
  let eventHash := computeHash P (canonicalEventMaterial event)
  { event with eventHash, signature := CryptoEngine.sign P eventHash }

/-- The local part of `append`: the event joins the chain. -/
def recorded (event : EvidenceEvent) : EvidenceState :=
  { p.state with
    events := p.state.events ++ [event]
    headHash := event.eventHash
    nextSequence := p.state.nextSequence + 1 }

/-- Once one event is deferred, later ones queue behind it. -/
def append (eventType : EvidenceEventType) (payload : EvidencePayload)
    (fault : Option EvidenceSinkError) : EvidenceAppendReceipt × EvidencePlane :=
  let event := newEvent P K env p eventType payload
  let state := p.recorded event
  let deferred := { state with pendingSink := state.pendingSink ++ [event] }
  let (sinkStatus, plane) : EvidenceSinkStatus × EvidencePlane :=
    match p.sink with
    | none => (.notConfigured, ⟨none, state⟩)
    | some sink =>
      if state.pendingSink ≠ [] then
        (.deferred sink.name "prior deferred evidence pending", ⟨some sink, deferred⟩)
      else
        match sink.write event fault with
        | (.ok (), sink) => (.delivered sink.name, ⟨some sink, state⟩)
        | (.error error, sink) => (.deferred sink.name error.text, ⟨some sink, deferred⟩)
  ({ eventId := event.eventId
     eventHash := event.eventHash
     sequence := event.sequence
     epochId := event.epochId
     sinkStatus }, plane)

/-- The loop of `flush_pending`. The writes are counted from `delivered` on. -/
def drain (fault : ℕ → Option EvidenceSinkError) (delivered : ℕ) (sink : EvidenceSink) :
    List EvidenceEvent → Except EvidenceSinkError ℕ × EvidenceSink × List EvidenceEvent
  | [] => (.ok delivered, sink, [])
  | event :: rest =>
    match sink.write event (fault delivered) with
    | (.error error, sink) => (.error error, sink, event :: rest)
    | (.ok (), sink) => drain fault (delivered + 1) sink rest

def flushPending (fault : ℕ → Option EvidenceSinkError) :
    Except EvidenceSinkError ℕ × EvidencePlane :=
  match p.sink with
  | none => (.ok 0, p)
  | some sink =>
    let (answer, sink, pendingSink) := drain fault 0 sink p.state.pendingSink
    (answer, ⟨some sink, { p.state with pendingSink }⟩)

def checkpoint : EvidenceCheckpoint :=
  let createdAt := UtcInstant.ofDateTime env.now
  let lastSequence := p.state.nextSequence - 1
  let checkpointHash := computeHash P (canonicalCheckpointMaterial evidenceCheckpointSchemaVersion
    p.state.epochId lastSequence p.state.headHash (verifyingKeyFingerprint P K)
    (verifyingKeyHex P K) createdAt)
  { schemaVersion := evidenceCheckpointSchemaVersion
    epochId := p.state.epochId
    lastSequence
    headHash := p.state.headHash
    signerFingerprint := verifyingKeyFingerprint P K
    signerPublicKey := verifyingKeyHex P K
    createdAt
    checkpointHash
    signature := CryptoEngine.sign P checkpointHash }

end EvidencePlane

end GovSec
