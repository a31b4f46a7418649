import GovSec.Evidence
import GovSec.Lib.Chain
import GovSec.Lib.Runs

/-!
Runs of an evidence plane: the chain every run keeps, and the delivery of its events, which
are together what the sink stored and what is pending.
-/

namespace GovSec

open GovSec.Lib.Text GovSec.Lib.Chain GovSec.Lib.Runs

variable (P : Platform) (K : KeyRing P)

/-! ### What the verifier accepts -/

/-- The checks of `verify_snapshot` on one event, other than its link. -/
structure EvidenceEvent.Checked (first : EvidenceEvent) (signerFp : Str) (index : ℕ)
    (event : EvidenceEvent) : Prop where
  schemaVersion : event.schemaVersion = evidenceSchemaVersion
  epochId : event.epochId = first.epochId
  epochParentHash : event.epochParentHash = first.epochParentHash
  signerPublicKey : event.signerPublicKey = first.signerPublicKey
  signerFingerprint : event.signerFingerprint = signerFp
  sequence : event.sequence = index + 1
  hash : event.recomputeHash P = event.eventHash
  signature : event.verifySignature P K = true

/-- The events are linked from a start. -/
abbrev EventsLinked : Str → List EvidenceEvent → Prop :=
  Linked EvidenceEvent.previousEventHash EvidenceEvent.eventHash

variable {P K}

/-- **What the loop accepts**: linked events that pass their checks. -/
theorem verifyEvents_eq_ok {first : EvidenceEvent} {signerFp : Str} {index : ℕ} {previousHash : Str}
    {events : List EvidenceEvent} :
    verifyEvents P K first signerFp index previousHash events = .ok () ↔
      EventsLinked previousHash events ∧
        ∀ i event, events[i]? = some event →
          EvidenceEvent.Checked P K first signerFp (index + i) event := by
  induction events generalizing index previousHash with
  | nil => simp [verifyEvents, Linked]
  | cons event events ih =>
    simp only [verifyEvents, bind_eq_ok, failIf_eq_ok, not_or, not_not, ih]
    constructor
    · rintro ⟨_, hschema, _, ⟨hepoch, hparent⟩, _, ⟨hkey, hfp⟩, _, hseq, _, hprev, _, hhash, _,
        hsig, hlinked, hrest⟩
      refine ⟨⟨hprev, hlinked⟩, fun i e he => ?_⟩
      cases i with
      | zero =>
        obtain rfl : event = e := by simpa using he
        exact ⟨hschema, hepoch, hparent, hkey, hfp, hseq, hhash, hsig⟩
      | succ i =>
        have hi : index + (i + 1) = index + 1 + i := by omega
        rw [hi]
        exact hrest i e (by simpa using he)
    · rintro ⟨⟨hprev, hlinked⟩, hchecked⟩
      have h := hchecked 0 event rfl
      refine ⟨(), h.schemaVersion, (), ⟨h.epochId, h.epochParentHash⟩, (),
        ⟨h.signerPublicKey, h.signerFingerprint⟩, (), h.sequence, (), hprev, (), h.hash, (),
        h.signature, hlinked, fun i e he => ?_⟩
      have hi : index + 1 + i = index + (i + 1) := by omega
      rw [hi]
      exact hchecked (i + 1) e (by simpa using he)

lemma verifySnapshot_cons_eq_ok {first : EvidenceEvent} {rest : List EvidenceEvent} :
    verifySnapshot P K (first :: rest) = .ok () ↔
      signerFingerprint P K first.signerPublicKey = some first.signerFingerprint ∧
        EventsLinked (epochStart P first.epochParentHash first.epochId first.signerFingerprint)
          (first :: rest) ∧
        ∀ i event, (first :: rest)[i]? = some event →
          EvidenceEvent.Checked P K first first.signerFingerprint i event := by
  simp only [verifySnapshot, bind_eq_ok, okOr_eq_ok, failIf_eq_ok, not_not, verifyEvents_eq_ok,
    Nat.zero_add]
  constructor
  · rintro ⟨_, hfp, _, rfl, h⟩
    exact ⟨hfp, h⟩
  · rintro ⟨hfp, h⟩
    exact ⟨_, hfp, (), rfl, h⟩

lemma EvidenceCheckpoint.verify_iff {c : EvidenceCheckpoint} :
    c.verify P K = true ↔
      c.schemaVersion = evidenceCheckpointSchemaVersion ∧
        GovSec.signerFingerprint P K c.signerPublicKey = some c.signerFingerprint ∧
        c.recomputeHash P = c.checkpointHash ∧
        verifySignatureHex P K c.signerPublicKey c.checkpointHash c.signature = true := by
  unfold EvidenceCheckpoint.verify
  cases GovSec.signerFingerprint P K c.signerPublicKey <;> split_ifs <;> simp_all

/-! ### The engine's own key -/

lemma readKey_verifyingKeyHex : readKey P K (verifyingKeyHex P K) = some K.verifyingKey := by
  simp [readKey, verifyingKeyHex, Hex.read_text, K.isKey_verifyingKey]

lemma signerFingerprint_verifyingKeyHex :
    signerFingerprint P K (verifyingKeyHex P K) = some (verifyingKeyFingerprint P K) := by
  simp [signerFingerprint, readKey_verifyingKeyHex, verifyingKeyFingerprint]

/-- Under the engine's key a signature text is what the scheme says of the signature it holds. -/
lemma verifySignatureHex_verifyingKeyHex (data signatureHex : Str) :
    verifySignatureHex P K (verifyingKeyHex P K) data signatureHex =
      ((Hex.read 128 signatureHex).map (P.verify data)).getD false := by
  rw [verifySignatureHex, readKey_verifyingKeyHex]
  cases Hex.read 128 signatureHex <;> simp [K.verifyUnder_verifyingKey]

lemma verifySignatureHex_sign (hsign : SignsCorrectly P) (data : Str) :
    verifySignatureHex P K (verifyingKeyHex P K) data (CryptoEngine.sign P data) = true := by
  rw [verifySignatureHex_verifyingKeyHex, CryptoEngine.sign, Hex.read_text (by decide)]
  exact hsign data

/-! ### What the writer keeps -/

namespace EvidencePlane

/-- The hash the first event of a plane's epoch links to. -/
def start (P : Platform) (K : KeyRing P) (p : EvidencePlane) : Str :=
  epochStart P p.state.epochParentHash p.state.epochId (verifyingKeyFingerprint P K)

/-- An event as the plane of an epoch writes it at a position of its chain. -/
structure Wrote (P : Platform) (K : KeyRing P) (epochId : Str) (epochParentHash : Option Str)
    (index : ℕ) (event : EvidenceEvent) : Prop where
  schemaVersion : event.schemaVersion = evidenceSchemaVersion
  epochId : event.epochId = epochId
  epochParentHash : event.epochParentHash = epochParentHash
  signerPublicKey : event.signerPublicKey = verifyingKeyHex P K
  signerFingerprint : event.signerFingerprint = verifyingKeyFingerprint P K
  sequence : event.sequence = index + 1
  hash : event.eventHash = event.recomputeHash P
  signature : event.signature = CryptoEngine.sign P event.eventHash
  /-- The clock reads no leap seconds. -/
  timestamp : event.timestamp.nanos < 1000000000

/-- The chain of a plane. -/
structure Chained (P : Platform) (K : KeyRing P) (p : EvidencePlane) : Prop where
  linked : EventsLinked (p.start P K) p.state.events
  headHash : p.state.headHash = head EvidenceEvent.eventHash (p.start P K) p.state.events
  nextSequence : p.state.nextSequence = p.state.events.length + 1
  wrote : ∀ i event, p.state.events[i]? = some event →
    Wrote P K p.state.epochId p.state.epochParentHash i event

variable (P K) in
/-- A plane as `new` or `from_checkpoint` returns it. -/
inductive Opened : EvidencePlane → Prop
  | new (env : Supply) (sink : Option EvidenceSink) : Opened (EvidencePlane.new P K env sink)
  | fromCheckpoint {env : Supply} {checkpoint : EvidenceCheckpoint} {sink : Option EvidenceSink}
      {p : EvidencePlane} (h : EvidencePlane.fromCheckpoint P K env checkpoint sink = .ok p) :
      Opened p

/-- Either way the epoch is fresh, and only its parent differs. -/
lemma Opened.eq_withParentHash {p : EvidencePlane} (h : Opened P K p) :
    ∃ env parent sink, p = withParentHash P K env parent sink := by
  cases h with
  | new env sink => exact ⟨env, none, sink, rfl⟩
  | @fromCheckpoint env checkpoint sink _ h =>
    simp only [EvidencePlane.fromCheckpoint, bind_eq_ok, pure_eq_ok] at h
    obtain ⟨_, _, _, _, rfl⟩ := h
    exact ⟨env, some checkpoint.headHash, sink, rfl⟩

lemma Opened.chained {p : EvidencePlane} (h : Opened P K p) : Chained P K p := by
  obtain ⟨env, parent, sink, rfl⟩ := h.eq_withParentHash
  exact ⟨trivial, rfl, rfl, fun i event he => by simp [withParentHash] at he⟩

section Append

variable (env : Supply) (p : EvidencePlane) (eventType : EvidenceEventType)
  (payload : EvidencePayload) (fault : Option EvidenceSinkError)

lemma wrote_newEvent {index : ℕ} (hnext : p.state.nextSequence = index + 1) :
    Wrote P K p.state.epochId p.state.epochParentHash index
      (newEvent P K env p eventType payload) :=
  ⟨rfl, rfl, rfl, rfl, rfl, hnext, rfl, rfl, UtcInstant.nanos_emod_lt _⟩

/-- **What an append can do**: the event joins the chain, and with a sink it goes to the queue, or
to the sink when nothing is queued. -/
lemma append_cases :
    (p.sink = none ∧ (append P K env p eventType payload fault).2 =
      ⟨none, p.recorded (newEvent P K env p eventType payload)⟩) ∨
    (∃ sink, p.sink = some sink ∧ (append P K env p eventType payload fault).2 =
      ⟨some sink, { p.recorded (newEvent P K env p eventType payload) with
        pendingSink := p.state.pendingSink ++ [newEvent P K env p eventType payload] }⟩) ∨
    (∃ sink, p.sink = some sink ∧ p.state.pendingSink = [] ∧
      (append P K env p eventType payload fault).2 =
        ⟨some { sink with stored := sink.stored ++ [newEvent P K env p eventType payload] },
          p.recorded (newEvent P K env p eventType payload)⟩) := by
  unfold append
  cases hsink : p.sink with
  | none => exact .inl ⟨rfl, rfl⟩
  | some sink =>
    by_cases hpending : p.state.pendingSink = []
    · have hqueue : (p.recorded (newEvent P K env p eventType payload)).pendingSink = [] := hpending
      cases fault with
      | some error => exact .inr (.inl ⟨sink, rfl, by simp [hqueue, hpending, EvidenceSink.write]⟩)
      | none => exact .inr (.inr ⟨sink, rfl, hpending, by simp [hqueue, EvidenceSink.write]⟩)
    · have hqueue : (p.recorded (newEvent P K env p eventType payload)).pendingSink ≠ [] := hpending
      exact .inr (.inl ⟨sink, rfl, by simp only [if_pos hqueue]; rfl⟩)

end Append

lemma flushPending_state_eq (p : EvidencePlane) (fault : ℕ → Option EvidenceSinkError) :
    ∃ pendingSink, (flushPending p fault).2.state = { p.state with pendingSink } := by
  unfold flushPending
  split <;> exact ⟨_, rfl⟩

/-- The chain does not depend on the sink. -/
lemma Chained.of_pendingSink {p q : EvidencePlane} {pendingSink : List EvidenceEvent}
    (h : Chained P K p) (hq : q.state = { p.state with pendingSink }) : Chained P K q := by
  obtain ⟨_, state⟩ := q
  obtain rfl : state = _ := hq
  exact ⟨h.linked, h.headHash, h.nextSequence, h.wrote⟩

/-- **The step lemma**: recording an event extends the chain. -/
lemma Chained.recorded {p : EvidencePlane} (h : Chained P K p) (env : Supply)
    (eventType : EvidenceEventType) (payload : EvidencePayload) :
    Chained P K ⟨p.sink, p.recorded (newEvent P K env p eventType payload)⟩ where
  linked := linked_concat _ _ |>.mpr ⟨h.linked, h.headHash⟩
  headHash := (head_concat EvidenceEvent.eventHash (p.start P K) p.state.events
    (newEvent P K env p eventType payload)).symm
  nextSequence := by simp [EvidencePlane.recorded, h.nextSequence]
  wrote i event he := by
    have he : (p.state.events ++ [newEvent P K env p eventType payload])[i]? = some event := he
    rcases lt_or_ge i p.state.events.length with hi | hi
    · rw [List.getElem?_append_left hi] at he
      exact h.wrote i event he
    · rw [List.getElem?_append_right hi, List.getElem?_singleton] at he
      split at he
      · obtain rfl : newEvent P K env p eventType payload = event := Option.some.inj he
        have hlen : p.state.events.length = i := by omega
        exact wrote_newEvent env p eventType payload (hlen ▸ h.nextSequence)
      · cases he

/-! ### Runs -/

/-- A call on a plane, with the clock and the identifiers it draws and the faults of the writes
it makes. -/
inductive PlaneOp
  | append (env : Supply) (eventType : EvidenceEventType) (payload : EvidencePayload)
      (fault : Option EvidenceSinkError)
  | flushPending (fault : ℕ → Option EvidenceSinkError)
  | checkpoint (env : Supply)

inductive PlaneAnswer
  | appended (receipt : EvidenceAppendReceipt)
  | flushed (answer : Except EvidenceSinkError ℕ)
  | checkpoint (checkpoint : EvidenceCheckpoint)

def planeStep (P : Platform) (K : KeyRing P) (p : EvidencePlane) :
    PlaneOp → PlaneAnswer × EvidencePlane
  | .append env eventType payload fault =>
    let (receipt, p) := append P K env p eventType payload fault
    (.appended receipt, p)
  | .flushPending fault =>
    let (answer, p) := flushPending p fault
    (.flushed answer, p)
  | .checkpoint env => (.checkpoint (p.checkpoint P K env), p)

def planeSystem (P : Platform) (K : KeyRing P) : System EvidencePlane PlaneOp PlaneAnswer :=
  ⟨planeStep P K⟩

/-! A run on a plane with an empty sink: two events while the sink is down, then a flush that
stops after the first of them. -/

def fixedPayload (outcome : Str) : EvidencePayload :=
  { govTxId := some "GTX-one", sessionId := none, runId := none, principalFingerprint := none,
    authority := none, contextHash := none, decisionId := none, capabilityId := none,
    actionHash := none, outboundHash := none, toolName := none, resourceKind := none,
    resourceLocatorHash := none, toolCallId := none, policyVersion := none, policyHash := none,
    outcome }

def fixedPlane : EvidencePlane :=
  EvidencePlane.new silentPlatform (fixedKeys _) (fixedSupply 0 1) (some ⟨"memory", []⟩)

def outageOps : List PlaneOp :=
  [.append (fixedSupply 0 2) .contextApproved (fixedPayload "APPROVED") (some ⟨"memory", "down"⟩),
    .append (fixedSupply 0 3) .actionAuthorized (fixedPayload "AUTHORIZED") none,
    .flushPending fun k => if k = 0 then none else some ⟨"memory", "down"⟩]

def outage : List (PlaneOp × PlaneAnswer) × EvidencePlane :=
  (planeSystem silentPlatform (fixedKeys _)).exec fixedPlane outageOps

lemma Chained.append {p : EvidencePlane} (h : Chained P K p) (env : Supply)
    (eventType : EvidenceEventType) (payload : EvidencePayload) (fault : Option EvidenceSinkError) :
    Chained P K (append P K env p eventType payload fault).2 := by
  have hrec := h.recorded env eventType payload
  rcases append_cases (P := P) (K := K) env p eventType payload fault with
    ⟨-, heq⟩ | ⟨sink, -, heq⟩ | ⟨sink, -, -, heq⟩
  · rw [heq]; exact hrec.of_pendingSink rfl
  · rw [heq]; exact hrec.of_pendingSink rfl
  · rw [heq]; exact hrec.of_pendingSink rfl

lemma Chained.step {p : EvidencePlane} (h : Chained P K p) (o : PlaneOp) :
    Chained P K (planeStep P K p o).2 := by
  cases o with
  | append env eventType payload fault => exact h.append env eventType payload fault
  | flushPending fault =>
    obtain ⟨_, hstate⟩ := flushPending_state_eq p fault
    exact h.of_pendingSink hstate
  | checkpoint env => exact h

/-- The run lemma. -/
theorem Opened.chained_run {p₀ p : EvidencePlane} {es : List (PlaneOp × PlaneAnswer)}
    (h : Opened P K p₀) (hrun : (planeSystem P K).Run p₀ es p) : Chained P K p :=
  hrun.invariant (I := fun _ p => Chained P K p) h.chained fun _ _ o hI => hI.step o

/-! ### Checkpoints -/

/-- A checkpoint the plane signs verifies. -/
lemma checkpoint_verify (hsign : SignsCorrectly P) (env : Supply) (p : EvidencePlane) :
    (p.checkpoint P K env).verify P K = true := by
  rw [EvidenceCheckpoint.verify_iff]
  exact ⟨rfl, signerFingerprint_verifyingKeyHex, rfl, verifySignatureHex_sign hsign _⟩

lemma head_getLast? {h : Str} {events : List EvidenceEvent} {last : EvidenceEvent}
    (hlast : events.getLast? = some last) :
    head EvidenceEvent.eventHash h events = last.eventHash := by
  obtain ⟨init, rfl⟩ := List.getLast?_eq_some_iff.mp hlast
  exact head_concat _ _ _ _

/-! ### Delivery -/

/-- What a drain delivers is a front part of the queue, all of it when it ends well. -/
lemma drain_spec (fault : ℕ → Option EvidenceSinkError) (pending : List EvidenceEvent)
    (delivered : ℕ) (sink : EvidenceSink) :
    ∃ sent, pending = sent ++ (drain fault delivered sink pending).2.2 ∧
      (drain fault delivered sink pending).2.1 = { sink with stored := sink.stored ++ sent } ∧
      ∀ n, (drain fault delivered sink pending).1 = .ok n →
        sent = pending ∧ n = delivered + pending.length := by
  induction pending generalizing delivered sink with
  | nil => exact ⟨[], rfl, by simp [drain], fun n hn => ⟨rfl, by simpa [drain] using hn.symm⟩⟩
  | cons event rest ih =>
    cases hfault : fault delivered with
    | some error => exact ⟨[], by simp [drain, hfault, EvidenceSink.write]⟩
    | none =>
      obtain ⟨sent, hrest, hsink, hok⟩ :=
        ih (delivered + 1) { sink with stored := sink.stored ++ [event] }
      have hdrain : drain fault delivered sink (event :: rest) =
          drain fault (delivered + 1) { sink with stored := sink.stored ++ [event] } rest := by
        simp [drain, hfault, EvidenceSink.write]
      rw [hdrain]
      refine ⟨event :: sent, by rw [List.cons_append, ← hrest], by simp [hsink], fun n hn => ?_⟩
      obtain ⟨hsent, hn⟩ := hok n hn
      rw [hsent, hn, List.length_cons]
      exact ⟨rfl, by omega⟩

/-- Stored and pending events together are those stored before the plane and all it recorded. -/
def Delivered (stored₀ : List EvidenceEvent) (p : EvidencePlane) : Prop :=
  ∃ sink, p.sink = some sink ∧
    sink.stored ++ p.state.pendingSink = stored₀ ++ p.state.events

lemma Delivered.append {stored₀ : List EvidenceEvent} {p : EvidencePlane}
    (h : Delivered stored₀ p) (env : Supply) (eventType : EvidenceEventType)
    (payload : EvidencePayload) (fault : Option EvidenceSinkError) :
    Delivered stored₀ (append P K env p eventType payload fault).2 := by
  obtain ⟨sink, hsink, hall⟩ := h
  -- wherever the event goes, it goes to the end
  have hlast : ∀ event, sink.stored ++ (p.state.pendingSink ++ [event]) =
      stored₀ ++ (p.state.events ++ [event]) := fun event => by
    rw [← List.append_assoc, hall, List.append_assoc]
  rcases append_cases (P := P) (K := K) env p eventType payload fault with
    ⟨hnone, -⟩ | ⟨_, hsome, heq⟩ | ⟨_, hsome, hpending, heq⟩
  · rw [hnone] at hsink
    cases hsink
  · obtain rfl := Option.some.inj (hsink.symm.trans hsome)
    exact ⟨sink, by rw [heq], by rw [heq]; exact hlast _⟩
  · obtain rfl := Option.some.inj (hsink.symm.trans hsome)
    refine ⟨_, by rw [heq], ?_⟩
    simpa [heq, EvidencePlane.recorded, hpending] using hlast (newEvent P K env p eventType payload)

lemma Delivered.flushPending {stored₀ : List EvidenceEvent} {p : EvidencePlane}
    (h : Delivered stored₀ p) (fault : ℕ → Option EvidenceSinkError) :
    Delivered stored₀ (flushPending p fault).2 := by
  obtain ⟨sink, hsink, hall⟩ := h
  obtain ⟨sent, hsplit, hstored, -⟩ := drain_spec fault p.state.pendingSink 0 sink
  refine ⟨(drain fault 0 sink p.state.pendingSink).2.1,
    by simp [EvidencePlane.flushPending, hsink], ?_⟩
  simp only [EvidencePlane.flushPending, hsink, hstored]
  rw [List.append_assoc, ← hsplit, hall]

lemma Delivered.step {stored₀ : List EvidenceEvent} {p : EvidencePlane} (h : Delivered stored₀ p)
    (o : PlaneOp) : Delivered stored₀ (planeStep P K p o).2 := by
  cases o with
  | append env eventType payload fault => exact h.append env eventType payload fault
  | flushPending fault => exact h.flushPending fault
  | checkpoint env => exact h

lemma Opened.delivered {p : EvidencePlane} (h : Opened P K p) {sink : EvidenceSink}
    (hsink : p.sink = some sink) : Delivered sink.stored p := by
  obtain ⟨env, parent, s, rfl⟩ := h.eq_withParentHash
  exact ⟨sink, hsink, rfl⟩

/-- The events are numbered from one in the order of the list. -/
lemma Chained.map_sequence {p : EvidencePlane} (h : Chained P K p) :
    p.state.events.map (·.sequence) = List.range' 1 p.state.events.length := by
  refine List.ext_getElem (by simp) fun i hi _ => ?_
  have hi : i < p.state.events.length := by simpa using hi
  have hw := h.wrote i _ (List.getElem?_eq_getElem hi)
  rw [List.getElem_map, List.getElem_range', hw.sequence]
  omega

/-- **Delivery.** In every state a plane with a sink reaches, what the sink has stored for it and
the queue are together its events in sequence order, and a flush that ends well has delivered the
queue and counts it. -/
theorem stored_append_pending_of_run {p₀ p : EvidencePlane} {es : List (PlaneOp × PlaneAnswer)}
    {sink₀ : EvidenceSink} (hopen : Opened P K p₀) (hsink : p₀.sink = some sink₀)
    (hrun : (planeSystem P K).Run p₀ es p) :
    ∃ sink, p.sink = some sink ∧
      sink.stored ++ p.state.pendingSink = sink₀.stored ++ p.state.events ∧
      p.state.events.map (·.sequence) = List.range' 1 p.state.events.length ∧
      ∀ fault n, (flushPending p fault).1 = .ok n →
        (flushPending p fault).2.sink =
            some { sink with stored := sink.stored ++ p.state.pendingSink } ∧
          (flushPending p fault).2.state.pendingSink = [] ∧ n = p.state.pendingSink.length := by
  obtain ⟨sink, hs, hall⟩ : Delivered sink₀.stored p :=
    hrun.invariant (I := fun _ p => Delivered sink₀.stored p) (hopen.delivered hsink)
      fun _ _ o hI => hI.step o
  refine ⟨sink, hs, hall, (hopen.chained_run hrun).map_sequence, fun fault n hn => ?_⟩
  obtain ⟨sent, hsplit, hstored, hok⟩ := drain_spec fault p.state.pendingSink 0 sink
  simp only [EvidencePlane.flushPending, hs] at hn ⊢
  obtain ⟨rfl, hcount⟩ := hok n hn
  rw [List.self_eq_append_right] at hsplit
  exact ⟨by rw [hstored], hsplit, by omega⟩

theorem stored_append_pending_of_run_outage :
    ∃ sink, outage.2.sink = some sink ∧
      sink.stored ++ outage.2.state.pendingSink = [] ++ outage.2.state.events ∧
      outage.2.state.events.map (·.sequence) = List.range' 1 outage.2.state.events.length ∧
      ∀ fault n, (flushPending outage.2 fault).1 = .ok n →
        (flushPending outage.2 fault).2.sink =
            some { sink with stored := sink.stored ++ outage.2.state.pendingSink } ∧
          (flushPending outage.2 fault).2.state.pendingSink = [] ∧
          n = outage.2.state.pendingSink.length :=
  stored_append_pending_of_run (.new (fixedSupply 0 1) _) rfl
    (.of_exec fixedPlane outageOps)

end EvidencePlane

end GovSec
