import GovSec.EvidenceRuns

/-!
What a verifying snapshot proves: against a checkpoint it is the checkpointed chain, up to the
text of signatures and the spelling of leap seconds.
-/

namespace GovSec

open GovSec.Lib.Text GovSec.Lib.Chain GovSec.Lib.Runs

variable {P : Platform} {K : KeyRing P}

/-! ### The canonical text can be read back -/

/-- Two events agree in every field the hash is taken of. -/
structure EvidenceEvent.SameHashed (e e' : EvidenceEvent) : Prop where
  schemaVersion : e.schemaVersion = e'.schemaVersion
  epochId : e.epochId = e'.epochId
  epochParentHash : e.epochParentHash = e'.epochParentHash
  sequence : e.sequence = e'.sequence
  eventId : e.eventId = e'.eventId
  timestamp : e.timestamp.timestampNanosOrZero = e'.timestamp.timestampNanosOrZero
  eventType : e.eventType = e'.eventType
  payload : e.payload = e'.payload
  previousEventHash : e.previousEventHash = e'.previousEventHash
  signerFingerprint : e.signerFingerprint = e'.signerFingerprint
  signerPublicKey : e.signerPublicKey = e'.signerPublicKey

lemma sameHashed_of_fields {e e' : EvidenceEvent}
    (h : canonicalEventFields e = canonicalEventFields e') : e.SameHashed e' := by
  simp only [canonicalEventFields, List.cons.injEq, enc_injective.eq_iff, encOpt_injective.eq_iff,
    natText_injective.eq_iff, intText_injective.eq_iff, EvidenceEventType.asStr_injective.eq_iff,
    and_true] at h
  obtain ⟨hschema, hepoch, hparent, hseq, hid, htime, htype, h7, h8, h9, h10, h11, h12, h13, h14,
    h15, h16, h17, h18, h19, h20, h21, h22, h23, hprev, hfp, hkey⟩ := h
  exact ⟨hschema, hepoch, hparent, hseq, hid, htime, htype,
    EvidencePayload.ext h7 h8 h9 h10 h11 h12 h13 h14 h15 h16 h17 h18 h19 h20 h21 h22 h23,
    hprev, hfp, hkey⟩

/-- **The canonical text fixes the hashed fields.** -/
theorem canonicalEventMaterial_eq_iff {e e' : EvidenceEvent} :
    canonicalEventMaterial e = canonicalEventMaterial e' ↔ e.SameHashed e' := by
  constructor
  · intro h
    exact sameHashed_of_fields (joinWith_injOn (bar_notMem_canonicalEventFields e)
      (bar_notMem_canonicalEventFields e') (by simp [canonicalEventFields])
      (by simp [canonicalEventFields]) h)
  · intro h
    simp only [canonicalEventMaterial, canonicalEventFields, h.schemaVersion, h.epochId,
      h.epochParentHash, h.sequence, h.eventId, h.timestamp, h.eventType, h.payload,
      h.previousEventHash, h.signerFingerprint, h.signerPublicKey]

/-! ### Leap seconds -/

namespace UtcInstant

/-- Second 60 of a minute stands for second 0 of the next. -/
def IsLeapOf (t u : UtcInstant) : Prop :=
  t.secs + 1 = u.secs ∧ t.nanos = u.nanos + 1000000000

/-- Outside leap seconds the nanoseconds fix the instant. -/
lemma eq_or_isLeapOf {t u : UtcInstant} (hu : u.nanos < 1000000000)
    (h : t.totalNanos = u.totalNanos) : t = u ∨ t.IsLeapOf u := by
  have ht := t.nanos_lt
  simp only [totalNanos, nanosPerSec] at h
  by_cases hle : t.nanos < 1000000000
  · exact .inl (UtcInstant.ext (by omega) (by omega))
  · exact .inr ⟨by omega, by omega⟩

lemma totalNanos_eq_of_isLeapOf {t u : UtcInstant} (h : t.IsLeapOf u) :
    t.totalNanos = u.totalNanos := by
  obtain ⟨hsecs, hnanos⟩ := h
  simp only [totalNanos, nanosPerSec]
  omega

/-- An instant after 1970 inside the range of nanoseconds that fit in an `i64`. -/
def InRange (t : UtcInstant) : Prop := 0 < t.totalNanos ∧ t.totalNanos < 2 ^ 63

lemma totalNanos_eq_of_inRange {t u : UtcInstant} (hu : u.InRange)
    (h : t.timestampNanosOrZero = u.timestampNanosOrZero) : t.totalNanos = u.totalNanos := by
  obtain ⟨hpos, hlt⟩ := hu
  have hmin : (-(2 ^ 63) : ℤ) ≤ 0 := by norm_num
  have hu' : u.timestampNanosOrZero = u.totalNanos := by
    rw [timestampNanosOrZero, timestampNanos, if_pos ⟨hmin.trans hpos.le, hlt⟩]
  rw [hu', timestampNanosOrZero, timestampNanos] at h
  split at h <;> omega

end UtcInstant

/-! ### Snapshots against a checkpoint -/

/-- The event with another spelling of its signature, and perhaps of a leap second. -/
structure EvidenceEvent.Respells (P : Platform) (K : KeyRing P) (e g : EvidenceEvent) : Prop where
  fields : { e with timestamp := g.timestamp, signature := g.signature } = g
  timestamp : e.timestamp = g.timestamp ∨ e.timestamp.IsLeapOf g.timestamp
  signature : e.verifySignature P K = true

namespace EvidenceEvent

lemma Respells.sameHashed {e g : EvidenceEvent} (h : e.Respells P K g) : e.SameHashed g := by
  have hnanos : e.timestamp.totalNanos = g.timestamp.totalNanos :=
    h.timestamp.elim (congrArg _) UtcInstant.totalNanos_eq_of_isLeapOf
  have hfields := h.fields
  cases e
  cases g
  simp only [EvidenceEvent.mk.injEq] at hfields
  obtain ⟨rfl, rfl, rfl, rfl, rfl, -, rfl, rfl, rfl, rfl, rfl, rfl, -⟩ := hfields
  exact ⟨rfl, rfl, rfl, rfl, rfl, congrArg timestampNanos hnanos, rfl, rfl, rfl, rfl, rfl⟩

lemma Respells.eventHash {e g : EvidenceEvent} (h : e.Respells P K g) :
    e.eventHash = g.eventHash := by
  conv_rhs => rw [← h.fields]

lemma SameHashed.respells {e g : EvidenceEvent} (h : e.SameHashed g)
    (hhash : e.eventHash = g.eventHash) (hg : g.timestamp.InRange)
    (hnanos : g.timestamp.nanos < 1000000000) (hsig : e.verifySignature P K = true) :
    e.Respells P K g where
  fields := by
    cases e
    cases g
    obtain ⟨h1, h2, h3, h4, h5, -, h7, h8, h9, h10, h11⟩ := h
    simp only [EvidenceEvent.mk.injEq]
    exact ⟨h1, h2, h3, h4, h5, trivial, h7, h8, h9, hhash, h10, h11, trivial⟩
  timestamp := UtcInstant.eq_or_isLeapOf hnanos (UtcInstant.totalNanos_eq_of_inRange hg h.timestamp)
  signature := hsig

end EvidenceEvent

lemma forall₂_getElem? {α β : Type*} {R : α → β → Prop} {as : List α} {bs : List β}
    (h : List.Forall₂ R as bs) {i : ℕ} {a : α} (ha : as[i]? = some a) :
    ∃ b, bs[i]? = some b ∧ R a b := by
  obtain ⟨hi, rfl⟩ := List.getElem?_eq_some_iff.mp ha
  have hi' : i < bs.length := h.length_eq ▸ hi
  exact ⟨bs[i], List.getElem?_eq_getElem hi', h.get hi hi'⟩

/-- Links only depend on the two hashes of each event. -/
lemma EventsLinked.of_forall₂ {R : EvidenceEvent → EvidenceEvent → Prop}
    {es gs : List EvidenceEvent} {h : Str}
    (hR : ∀ e g, R e g → e.previousEventHash = g.previousEventHash ∧ e.eventHash = g.eventHash)
    (hall : List.Forall₂ R es gs) (hlinked : EventsLinked h gs) : EventsLinked h es := by
  induction hall generalizing h with
  | nil => trivial
  | cons heg _ ih =>
    obtain ⟨hprev, hhash⟩ := hR _ _ heg
    exact ⟨hprev.trans hlinked.1, hhash ▸ ih hlinked.2⟩

namespace EvidencePlane

/-! ### Respelled snapshots verify -/

lemma Wrote.checked_of_respells {epochId : Str} {parent : Option Str} {index : ℕ}
    {first g₀ e g : EvidenceEvent} {index₀ : ℕ} (hfirst : first.Respells P K g₀)
    (hw₀ : Wrote P K epochId parent index₀ g₀) (heg : e.Respells P K g)
    (hw : Wrote P K epochId parent index g) :
    EvidenceEvent.Checked P K first first.signerFingerprint index e where
  schemaVersion := heg.sameHashed.schemaVersion.trans hw.schemaVersion
  epochId := by
    rw [heg.sameHashed.epochId, hw.epochId, hfirst.sameHashed.epochId, hw₀.epochId]
  epochParentHash := by
    rw [heg.sameHashed.epochParentHash, hw.epochParentHash, hfirst.sameHashed.epochParentHash,
      hw₀.epochParentHash]
  signerPublicKey := by
    rw [heg.sameHashed.signerPublicKey, hw.signerPublicKey, hfirst.sameHashed.signerPublicKey,
      hw₀.signerPublicKey]
  signerFingerprint := by
    rw [heg.sameHashed.signerFingerprint, hw.signerFingerprint,
      hfirst.sameHashed.signerFingerprint, hw₀.signerFingerprint]
  sequence := heg.sameHashed.sequence.trans hw.sequence
  hash := by
    rw [EvidenceEvent.recomputeHash, canonicalEventMaterial_eq_iff.mpr heg.sameHashed,
      heg.eventHash, hw.hash, EvidenceEvent.recomputeHash]
  signature := heg.signature

/-- The converse: whatever respells the event list verifies against the checkpoint. -/
theorem verify_of_respells (hsign : SignsCorrectly P) {p : EvidencePlane} (h : Chained P K p)
    (env : Supply) {events : List EvidenceEvent}
    (hall : List.Forall₂ (EvidenceEvent.Respells P K) events p.state.events) :
    verifySnapshotAgainstCheckpoint P K events (p.checkpoint P K env) = .ok () := by
  have hchecked : ∀ first g₀, first.Respells P K g₀ → p.state.events[0]? = some g₀ →
      ∀ i e, events[i]? = some e →
        EvidenceEvent.Checked P K first first.signerFingerprint i e := by
    intro first g₀ hfirst hg₀ i e he
    obtain ⟨g, hg, heg⟩ := forall₂_getElem? hall he
    exact (h.wrote 0 g₀ hg₀).checked_of_respells hfirst heg (h.wrote i g hg)
  have hlinked : EventsLinked (p.start P K) events :=
    EventsLinked.of_forall₂ (fun e g heg => ⟨heg.sameHashed.previousEventHash, heg.eventHash⟩) hall
      h.linked
  simp only [verifySnapshotAgainstCheckpoint, bind_eq_ok, failIf_eq_ok, not_not]
  refine ⟨(), checkpoint_verify hsign env p, (), ?_, ?_⟩
  · cases hall' : events with
    | nil => rfl
    | cons first rest =>
      obtain ⟨g₀, hg₀, hfirst⟩ := forall₂_getElem? (i := 0) (a := first) hall (by simp [hall'])
      have hw₀ := h.wrote 0 g₀ hg₀
      rw [verifySnapshot_cons_eq_ok]
      refine ⟨?_, ?_, fun i e he => hchecked first g₀ hfirst hg₀ i e (hall' ▸ he)⟩
      · rw [hfirst.sameHashed.signerPublicKey, hfirst.sameHashed.signerFingerprint,
          hw₀.signerPublicKey, hw₀.signerFingerprint, signerFingerprint_verifyingKeyHex]
      · rw [hfirst.sameHashed.epochParentHash, hfirst.sameHashed.epochId,
          hfirst.sameHashed.signerFingerprint, hw₀.epochParentHash, hw₀.epochId,
          hw₀.signerFingerprint, ← hall']
        exact hlinked
  · cases hlast : events.getLast? with
    | none =>
      have hnil : events = [] := List.getLast?_eq_none_iff.mp hlast
      rw [hnil, List.forall₂_nil_left_iff] at hall
      simp [EvidencePlane.checkpoint, h.nextSequence, hall]
    | some last =>
      have hget : events[events.length - 1]? = some last := by
        rw [← List.getLast?_eq_getElem?, hlast]
      obtain ⟨g, hg, heg⟩ := forall₂_getElem? hall hget
      have hw := h.wrote _ g hg
      have hglast : p.state.events.getLast? = some g := by
        rw [List.getLast?_eq_getElem?, ← hall.length_eq, hg]
      have hpos : 0 < events.length := List.length_pos_of_mem (List.mem_of_getLast? hlast)
      simp only [bind_eq_ok, failIf_eq_ok, not_or, not_not]
      refine ⟨(), heg.sameHashed.epochId.trans hw.epochId, (),
        ⟨heg.sameHashed.signerPublicKey.trans hw.signerPublicKey,
          heg.sameHashed.signerFingerprint.trans hw.signerFingerprint⟩, (), ?_, ?_⟩
      · simp only [EvidencePlane.checkpoint, h.nextSequence, heg.sameHashed.sequence, hw.sequence,
          ← hall.length_eq]
        omega
      · rw [heg.eventHash, EvidencePlane.checkpoint, h.headHash, head_getLast? hglast]

/-- A plane's own events respell themselves. -/
lemma Chained.respells_self {p : EvidencePlane} (h : Chained P K p) (hsign : SignsCorrectly P) :
    List.Forall₂ (EvidenceEvent.Respells P K) p.state.events p.state.events := by
  rw [List.forall₂_same]
  intro g hg
  obtain ⟨i, hi⟩ := List.mem_iff_getElem?.mp hg
  have hw := h.wrote i g hi
  refine ⟨rfl, .inl rfl, ?_⟩
  rw [EvidenceEvent.verifySignature, hw.signerPublicKey, hw.signature]
  exact verifySignatureHex_sign hsign _

/-- **The snapshot verifies, alone and against a checkpoint taken at that moment**, in every
state a plane reaches, whatever its sink does. -/
theorem snapshot_verifies_of_run {p₀ p : EvidencePlane} {es : List (PlaneOp × PlaneAnswer)}
    (hsign : SignsCorrectly P) (hopen : Opened P K p₀) (hrun : (planeSystem P K).Run p₀ es p)
    (env : Supply) :
    GovSec.verifySnapshot P K p.state.events = .ok () ∧
      verifySnapshotAgainstCheckpoint P K p.state.events (p.checkpoint P K env) = .ok () := by
  have h := hopen.chained_run hrun
  have hok := verify_of_respells hsign h env (h.respells_self hsign)
  refine ⟨?_, hok⟩
  simp only [verifySnapshotAgainstCheckpoint, bind_eq_ok] at hok
  obtain ⟨_, -, _, hsnapshot, -⟩ := hok
  exact hsnapshot

theorem snapshot_verifies_of_run_outage :
    GovSec.verifySnapshot silentPlatform (fixedKeys _) outage.2.state.events = .ok () ∧
      verifySnapshotAgainstCheckpoint silentPlatform (fixedKeys _) outage.2.state.events
        (outage.2.checkpoint silentPlatform (fixedKeys _) (fixedSupply 0 4)) = .ok () :=
  snapshot_verifies_of_run (fun _ => rfl) (.new (fixedSupply 0 1) _)
    (.of_exec fixedPlane outageOps) _

/-! ### What verifies against a checkpoint -/

/-- The strings that verifying `events` and writing the events of a plane hash. -/
def hashedMaterials (events written : List EvidenceEvent) : Set Str :=
  { t | ∃ e, (e ∈ events ∨ e ∈ written) ∧ t = canonicalEventMaterial e }

/-- **A snapshot that verifies against a checkpoint** is the checkpointed event list, up to the
text of signatures and the spelling of leap seconds. -/
theorem respells_of_verify {p : EvidencePlane} (h : Chained P K p) (env : Supply)
    (hrange : ∀ g ∈ p.state.events, g.timestamp.InRange) {events : List EvidenceEvent}
    (hinj : Set.InjOn (computeHash P) (hashedMaterials events p.state.events))
    (hok : verifySnapshotAgainstCheckpoint P K events (p.checkpoint P K env) = .ok ()) :
    List.Forall₂ (EvidenceEvent.Respells P K) events p.state.events := by
  simp only [verifySnapshotAgainstCheckpoint, bind_eq_ok, failIf_eq_ok, not_not] at hok
  obtain ⟨_, -, _, hsnapshot, hlast⟩ := hok
  cases events with
  | nil =>
    have hnone : (p.checkpoint P K env).lastSequence = 0 := by simpa using hlast
    have hempty : p.state.events = [] := by
      simpa [EvidencePlane.checkpoint, h.nextSequence] using hnone
    rw [hempty]
    exact .nil
  | cons first rest =>
    obtain ⟨-, hlinked, hchecked⟩ := verifySnapshot_cons_eq_ok.mp hsnapshot
    obtain ⟨last, hget⟩ : ∃ last, (first :: rest).getLast? = some last :=
      ⟨_, List.getLast?_eq_some_getLast (by simp)⟩
    rw [hget] at hlast
    simp only [bind_eq_ok, failIf_eq_ok, not_or, not_not] at hlast
    obtain ⟨_, -, _, -, _, hseq, hhead⟩ := hlast
    have hlen : (first :: rest).length = p.state.events.length := by
      have hw := hchecked _ last (by rw [← List.getLast?_eq_getElem?, hget])
      have hnext := h.nextSequence
      simp only [EvidencePlane.checkpoint, hw.sequence, List.length_cons] at hseq
      simp only [List.length_cons]
      omega
    refine Linked.forall₂_of_head (fun e he g hg heg => ?_)
      (fun e g heg => heg.sameHashed.previousEventHash)
      hlen hlinked h.linked ?_
    · obtain ⟨i, hi⟩ := List.mem_iff_getElem?.mp he
      obtain ⟨j, hj⟩ := List.mem_iff_getElem?.mp hg
      have hc := hchecked i e hi
      have hw := h.wrote j g hj
      have hhash : computeHash P (canonicalEventMaterial e) =
          computeHash P (canonicalEventMaterial g) :=
        calc computeHash P (canonicalEventMaterial e)
            = e.eventHash := hc.hash
          _ = g.eventHash := heg
          _ = computeHash P (canonicalEventMaterial g) := hw.hash
      have hmaterial : canonicalEventMaterial e = canonicalEventMaterial g :=
        hinj ⟨e, .inl he, rfl⟩ ⟨g, .inr hg, rfl⟩ hhash
      exact (canonicalEventMaterial_eq_iff.mp hmaterial).respells heg (hrange g hg) hw.timestamp
        hc.signature
    · rw [head_getLast? hget, hhead, ← h.headHash]
      rfl

/-- In every state a plane reaches. -/
theorem respells_of_run {p₀ p : EvidencePlane} {es : List (PlaneOp × PlaneAnswer)}
    (hopen : Opened P K p₀) (hrun : (planeSystem P K).Run p₀ es p) (env : Supply)
    (hrange : ∀ g ∈ p.state.events, g.timestamp.InRange) {events : List EvidenceEvent}
    (hinj : Set.InjOn (computeHash P) (hashedMaterials events p.state.events))
    (hok : verifySnapshotAgainstCheckpoint P K events (p.checkpoint P K env) = .ok ()) :
    List.Forall₂ (EvidenceEvent.Respells P K) events p.state.events :=
  respells_of_verify (hopen.chained_run hrun) env hrange hinj hok

/-! ### A leap second

One event is written in the first second of a minute, and its timestamp is spelled as second 60
of the minute before. -/

/-- Texts of different lengths have different digests. -/
def lengthDigest (t : Str) : Digest :=
  ⟨List.ofFn fun i : Fin 64 => Fin.ofNat 16 (t.length / 16 ^ i.val), by simp⟩

def minutePlatform : Platform := fixedPlatform lengthDigest fun _ _ => false

def minuteOps : List PlaneOp :=
  [.append (fixedSupply (60 * nanosPerSec) 2) .contextApproved (fixedPayload "APPROVED") none]

def minuteStart : EvidencePlane :=
  EvidencePlane.new minutePlatform (fixedKeys _) (fixedSupply 0 1) none

def minutePlane : EvidencePlane :=
  ((planeSystem minutePlatform (fixedKeys _)).exec minuteStart minuteOps).2

def minuteCheckpoint : EvidenceCheckpoint :=
  minutePlane.checkpoint minutePlatform (fixedKeys _) (fixedSupply 0 3)

def leapEvents : List EvidenceEvent :=
  minutePlane.state.events.map fun g =>
    { g with timestamp := ⟨59, 1000000000, by decide, fun _ => by decide⟩ }

lemma minutePlane_chained : Chained minutePlatform (fixedKeys _) minutePlane :=
  Opened.chained_run (.new (fixedSupply 0 1) none) (.of_exec minuteStart minuteOps)

lemma minutePlane_inRange : ∀ g ∈ minutePlane.state.events, g.timestamp.InRange := by
  intro g hg
  obtain rfl := List.mem_singleton.mp hg
  exact ⟨by decide, by decide⟩

lemma leapEvents_respells :
    List.Forall₂ (EvidenceEvent.Respells minutePlatform (fixedKeys _)) leapEvents
      minutePlane.state.events :=
  .cons ⟨rfl, .inr ⟨rfl, rfl⟩, verifySignatureHex_sign (K := fixedKeys minutePlatform)
    (fun _ => rfl) _⟩ .nil

lemma leapEvents_injOn :
    Set.InjOn (computeHash minutePlatform)
      (hashedMaterials leapEvents minutePlane.state.events) := by
  obtain ⟨e, g, hE, hG, heg⟩ : ∃ e g, leapEvents = [e] ∧ minutePlane.state.events = [g] ∧
      e.SameHashed g := by
    cases leapEvents_respells with
    | cons h hnil => exact ⟨_, _, rfl, rfl, h.sameHashed⟩
  rw [hE, hG]
  have hone : ∀ t ∈ hashedMaterials [e] [g], t = canonicalEventMaterial g := by
    rintro t ⟨f, hf | hf, rfl⟩
    · rw [List.mem_singleton.mp hf, canonicalEventMaterial_eq_iff.mpr heg]
    · rw [List.mem_singleton.mp hf]
  -- there is only one text to hash
  exact Set.Subsingleton.injOn (fun t ht u hu => (hone t ht).trans (hone u hu).symm) _

theorem respells_of_run_leapEvents :
    List.Forall₂ (EvidenceEvent.Respells minutePlatform (fixedKeys _)) leapEvents
      minutePlane.state.events :=
  respells_of_run (.new (fixedSupply 0 1) none) (.of_exec minuteStart minuteOps) (fixedSupply 0 3)
    minutePlane_inRange leapEvents_injOn
    (verify_of_respells (fun _ => rfl) minutePlane_chained _ leapEvents_respells)

/-- **A leap second is not detected**: the respelled list verifies against the checkpoint and
differs from the checkpointed one in more than its signature. -/
theorem leapEvents_verify :
    (∀ g ∈ minutePlane.state.events, g.timestamp.InRange) ∧
      Set.InjOn (computeHash minutePlatform)
        (hashedMaterials leapEvents minutePlane.state.events) ∧
      verifySnapshotAgainstCheckpoint minutePlatform (fixedKeys _) leapEvents minuteCheckpoint =
        .ok () ∧
      ¬ List.Forall₂ (fun e g : EvidenceEvent => { e with signature := g.signature } = g) leapEvents
        minutePlane.state.events := by
  refine ⟨minutePlane_inRange, leapEvents_injOn,
    verify_of_respells (fun _ => rfl) minutePlane_chained _ leapEvents_respells, fun h => ?_⟩
  cases h with
  | cons h _ =>
    have hsecs := congrArg (fun e => e.timestamp.secs) h
    exact absurd hsecs (by decide)

end EvidencePlane

end GovSec
