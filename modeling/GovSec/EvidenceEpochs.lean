import GovSec.EvidenceChain
import GovSec.Capability
import GovSec.Haap
import GovSec.Arbiter

/-!
All epochs of one signing key, and everything else the key signs. A snapshot that verifies under
the key is the front of one epoch's event list.
-/

namespace GovSec

open GovSec.Lib.Text GovSec.Lib.Chain GovSec.Lib.Runs EvidencePlane

variable {P : Platform} {K : KeyRing P}

/-! ### What the key signs -/

/-- The texts that other components sign with the key. -/
inductive SignedElsewhere
  | capability (token : CapabilityToken)
  | intent (token : IntentToken)
  | signal (signal : GovernanceSignal)
  | audit (sessionId : Str) (stateBefore stateAfter : SecurityState) (signal : GovernanceSignal)

def SignedElsewhere.text (P : Platform) : SignedElsewhere → Str
  | capability token => token.canonical
  | intent token => token.canonical
  | signal s => s.canonical
  | audit sessionId stateBefore stateAfter s =>
    joinWith '|' [sessionId, stateBefore.text, stateAfter.text, s.source.text,
      P.timeText s.timestamp]

inductive Signed
  | event (event : EvidenceEvent)
  | checkpoint (checkpoint : EvidenceCheckpoint)
  | elsewhere (t : SignedElsewhere)

/-- The byte string that was signed. -/
def Signed.text (P : Platform) : Signed → Str
  | event e => e.eventHash
  | checkpoint c => c.checkpointHash
  | elsewhere t => t.text P

/-- The text signed elsewhere joins its parts, so it has a separator. -/
lemma SignedElsewhere.bar_mem_text (t : SignedElsewhere) : '|' ∈ t.text P := by
  cases t <;> exact sep_mem_joinWith _ _ _ _

lemma bar_notMem_computeHash (data : Str) : '|' ∉ computeHash P data := Hex.bar_notMem_text _

/-- A key's planes, one per epoch, and what the key has signed. -/
structure SigningKey where
  planes : List EvidencePlane
  signed : List Signed

inductive KeyOp (P : Platform) (K : KeyRing P)
  | openEpoch (plane : { p : EvidencePlane // Opened P K p })
  | plane (i : ℕ) (o : PlaneOp)
  | sign (t : SignedElsewhere)

/-- What a call on a plane signs. -/
def signedBy (P : Platform) (K : KeyRing P) (p : EvidencePlane) : PlaneOp → List Signed
  | .append env eventType payload _ => [.event (newEvent P K env p eventType payload)]
  | .flushPending _ => []
  | .checkpoint env => [.checkpoint (p.checkpoint P K env)]

def keyStep (P : Platform) (K : KeyRing P) (k : SigningKey) : KeyOp P K → SigningKey
  | .openEpoch p => { k with planes := k.planes ++ [p.1] }
  | .plane i o =>
    match k.planes[i]? with
    | none => k
    | some p =>
      { planes := k.planes.set i (planeStep P K p o).2
        signed := k.signed ++ signedBy P K p o }
  | .sign t => { k with signed := k.signed ++ [.elsewhere t] }

def keySystem (P : Platform) (K : KeyRing P) : System SigningKey (KeyOp P K) Unit :=
  ⟨fun k o => ((), keyStep P K k o)⟩

def SigningKey.fresh : SigningKey := ⟨[], []⟩

/-! ### What the key keeps -/

/-- Every plane is chained, every signed event is in a plane's list, and every signed checkpoint
hash is the hash of the checkpoint. -/
structure SigningKey.Kept (P : Platform) (K : KeyRing P) (k : SigningKey) : Prop where
  chained : ∀ p ∈ k.planes, Chained P K p
  event : ∀ e, .event e ∈ k.signed → ∃ p ∈ k.planes, e ∈ p.state.events
  checkpoint : ∀ c, .checkpoint c ∈ k.signed → c.checkpointHash = c.recomputeHash P

/-- A call keeps the events and adds the one it signs. -/
lemma mem_planeStep_events {p : EvidencePlane} (o : PlaneOp) {e : EvidenceEvent}
    (he : e ∈ p.state.events ∨ .event e ∈ signedBy P K p o) :
    e ∈ (planeStep P K p o).2.state.events := by
  cases o with
  | append env eventType payload fault =>
    have hmem : e ∈ p.state.events ++ [newEvent P K env p eventType payload] := by
      simpa [signedBy] using he
    rcases append_cases (P := P) (K := K) env p eventType payload fault with
      ⟨-, heq⟩ | ⟨sink, -, heq⟩ | ⟨sink, -, -, heq⟩
    · rw [planeStep, heq]; exact hmem
    · rw [planeStep, heq]; exact hmem
    · rw [planeStep, heq]; exact hmem
  | flushPending fault =>
    obtain ⟨_, hstate⟩ := flushPending_state_eq p fault
    rw [planeStep, hstate]
    simpa [signedBy] using he
  | checkpoint env => simpa [signedBy, planeStep] using he

lemma SigningKey.Kept.step {k : SigningKey} (h : k.Kept P K) (o : KeyOp P K) :
    (keyStep P K k o).Kept P K := by
  cases o with
  | openEpoch p =>
    refine ⟨fun q hq => ?_, fun e he => ?_, h.checkpoint⟩
    · rcases List.mem_append.mp hq with hq | hq
      · exact h.chained q hq
      · rw [List.mem_singleton.mp hq]
        exact p.2.chained
    · obtain ⟨q, hq, heq⟩ := h.event e he
      exact ⟨q, List.mem_append_left _ hq, heq⟩
  | sign t =>
    refine ⟨h.chained, fun e he => h.event e ?_, fun c hc => h.checkpoint c ?_⟩
    · simpa [keyStep] using he
    · simpa [keyStep] using hc
  | plane i o =>
    rw [keyStep]
    cases hp : k.planes[i]? with
    | none => exact h
    | some p =>
      obtain ⟨hi, hget⟩ := List.getElem?_eq_some_iff.mp hp
      have hpmem : p ∈ k.planes := List.mem_of_getElem? hp
      have hnew : (planeStep P K p o).2 ∈ k.planes.set i (planeStep P K p o).2 :=
        List.mem_set hi _
      refine ⟨fun q hq => ?_, fun e he => ?_, fun c hc => ?_⟩
      · rcases List.mem_or_eq_of_mem_set hq with hq | rfl
        · exact h.chained q hq
        · exact (h.chained p hpmem).step o
      · rcases List.mem_append.mp he with he | he
        · obtain ⟨q, hq, heq⟩ := h.event e he
          obtain ⟨j, hj, rfl⟩ := List.mem_iff_getElem.mp hq
          by_cases hij : i = j
          · subst hij
            exact ⟨_, hnew, mem_planeStep_events o (.inl (hget ▸ heq))⟩
          · exact ⟨k.planes[j], by
              rw [List.mem_iff_getElem]
              exact ⟨j, by simpa using hj, List.getElem_set_ne hij _⟩, heq⟩
        · exact ⟨_, hnew, mem_planeStep_events o (.inr he)⟩
      · rcases List.mem_append.mp hc with hc | hc
        · exact h.checkpoint c hc
        · cases o with
          | append env eventType payload fault => simp [signedBy] at hc
          | flushPending fault => simp [signedBy] at hc
          | checkpoint env =>
            obtain rfl : c = p.checkpoint P K env := by simpa [signedBy] using hc
            rfl

theorem SigningKey.kept_of_run {k : SigningKey} {es : List (KeyOp P K × Unit)}
    (hrun : (keySystem P K).Run .fresh es k) : k.Kept P K :=
  hrun.invariant (I := fun _ k => k.Kept P K)
    ⟨by simp [fresh], by simp [fresh], by simp [fresh]⟩ fun _ _ o hI => hI.step o

/-! ### Authenticity -/

/-- The texts hashed for a snapshot and for what the key has signed. -/
def SigningKey.hashedTexts (k : SigningKey) (events : List EvidenceEvent) : Set Str :=
  { t | (∃ e ∈ events, t = canonicalEventMaterial e) ∨
    (∃ e, .event e ∈ k.signed ∧ t = canonicalEventMaterial e) ∨
    ∃ c, .checkpoint c ∈ k.signed ∧ t = c.hashMaterial }

/-- Signatures verify only for what the key has signed. -/
def SigningKey.Unforgeable (P : Platform) (k : SigningKey) : Prop :=
  ∀ data signature, P.verify data signature = true → data ∈ k.signed.map (Signed.text P)

/-- Event texts and checkpoint texts have different numbers of fields. -/
lemma canonicalEventMaterial_ne_hashMaterial (e : EvidenceEvent) (c : EvidenceCheckpoint) :
    canonicalEventMaterial e ≠ c.hashMaterial := by
  intro h
  have hfields := joinWith_injOn (bar_notMem_canonicalEventFields e)
    (by simp [bar_notMem_enc, bar_notMem_natText, bar_notMem_intText])
    (by simp [canonicalEventFields]) (by simp) h
  exact absurd (congrArg List.length hfields) (by simp [canonicalEventFields])

lemma exists_verify_of_verifySignature {e : EvidenceEvent}
    (hkey : readKey P K e.signerPublicKey = some K.verifyingKey)
    (h : e.verifySignature P K = true) : ∃ signature, P.verify e.eventHash signature = true := by
  rw [EvidenceEvent.verifySignature, verifySignatureHex, hkey] at h
  cases hread : Hex.read 128 e.signature with
  | none => simp [hread] at h
  | some signature => exact ⟨signature, by simpa [hread, K.verifyUnder_verifyingKey] using h⟩

/-- **One event**: an event that passes its checks under the key is, in all hashed fields, an
event that one of the key's planes wrote. -/
lemma SigningKey.Kept.exists_sameHashed {k : SigningKey} (h : k.Kept P K)
    (hunforgeable : k.Unforgeable P) {events : List EvidenceEvent}
    (hinj : Set.InjOn (computeHash P) (k.hashedTexts events)) {e : EvidenceEvent} (he : e ∈ events)
    (hkey : readKey P K e.signerPublicKey = some K.verifyingKey)
    (hhash : e.recomputeHash P = e.eventHash) (hsig : e.verifySignature P K = true) :
    ∃ p ∈ k.planes, ∃ g ∈ p.state.events, e.SameHashed g := by
  obtain ⟨signature, hverify⟩ := exists_verify_of_verifySignature hkey hsig
  obtain ⟨signed, hmem, htext⟩ := List.mem_map.mp (hunforgeable _ _ hverify)
  have hin : canonicalEventMaterial e ∈ k.hashedTexts events := .inl ⟨e, he, rfl⟩
  cases signed with
  | event g =>
    obtain ⟨p, hp, hg⟩ := h.event g hmem
    obtain ⟨j, hj⟩ := List.mem_iff_getElem?.mp hg
    have hw := (h.chained p hp).wrote j g hj
    have hgh : computeHash P (canonicalEventMaterial e) =
        computeHash P (canonicalEventMaterial g) :=
      calc computeHash P (canonicalEventMaterial e)
          = e.eventHash := hhash
        _ = g.eventHash := htext.symm
        _ = computeHash P (canonicalEventMaterial g) := hw.hash
    exact ⟨p, hp, g, hg, canonicalEventMaterial_eq_iff.mp
      (hinj hin (.inr (.inl ⟨g, hmem, rfl⟩)) hgh)⟩
  | checkpoint c =>
    have hch : computeHash P (canonicalEventMaterial e) = computeHash P c.hashMaterial :=
      calc computeHash P (canonicalEventMaterial e)
          = e.eventHash := hhash
        _ = c.checkpointHash := htext.symm
        _ = computeHash P c.hashMaterial := h.checkpoint c hmem
    exact absurd (hinj hin (.inr (.inr ⟨c, hmem, rfl⟩)) hch)
      (canonicalEventMaterial_ne_hashMaterial e c)
  | elsewhere t =>
    have hbar : '|' ∈ e.eventHash := htext ▸ t.bar_mem_text
    exact absurd hbar (hhash ▸ bar_notMem_computeHash _)

/-- In all hashed fields the events are the first ones of a list. -/
def PrefixOf (events written : List EvidenceEvent) : Prop :=
  List.Forall₂ EvidenceEvent.SameHashed events (written.take events.length)

/-- Planes with one epoch id are one plane. -/
lemma eq_of_epochId {planes : List EvidencePlane}
    (hfresh : (planes.map (·.state.epochId)).Nodup) {i j : ℕ} {p q : EvidencePlane}
    (hi : planes[i]? = some p) (hj : planes[j]? = some q) (h : p.state.epochId = q.state.epochId) :
    i = j := by
  have hlt : i < (planes.map (·.state.epochId)).length := by
    rw [List.length_map]
    exact (List.getElem?_eq_some_iff.mp hi).1
  rw [← List.getElem?_inj hlt hfresh, List.getElem?_map, List.getElem?_map, hi, hj]
  simp [h]

/-- **Authenticity.** A snapshot that verifies under the key is empty or, in all hashed fields,
the front of the event list of exactly one of the key's epochs. -/
theorem prefix_of_one_epoch {k : SigningKey} {es : List (KeyOp P K × Unit)}
    (hrun : (keySystem P K).Run .fresh es k) (hfresh : (k.planes.map (·.state.epochId)).Nodup)
    (hunforgeable : k.Unforgeable P) {events : List EvidenceEvent}
    (hkey : ∀ first ∈ events.head?, readKey P K first.signerPublicKey = some K.verifyingKey)
    (hinj : Set.InjOn (computeHash P) (k.hashedTexts events))
    (hok : verifySnapshot P K events = .ok ()) :
    events = [] ∨ ∃! i : ℕ, ∃ p, k.planes[i]? = some p ∧ PrefixOf events p.state.events := by
  have hkept := SigningKey.kept_of_run hrun
  cases events with
  | nil => exact .inl rfl
  | cons first rest =>
    obtain ⟨-, -, hchecked⟩ := verifySnapshot_cons_eq_ok.mp hok
    -- every event is one that a plane of the first event's epoch wrote, at its own position
    have hevent : ∀ (i : ℕ) e, (first :: rest)[i]? = some e → ∃ p ∈ k.planes,
        p.state.epochId = first.epochId ∧ ∃ g : EvidenceEvent, p.state.events[i]? = some g ∧
          EvidenceEvent.SameHashed e g := by
      intro i e he
      have hc := hchecked i e he
      obtain ⟨p, hp, g, hg, heg⟩ := hkept.exists_sameHashed hunforgeable hinj
        (List.mem_of_getElem? he) (hc.signerPublicKey ▸ hkey first (by simp)) hc.hash hc.signature
      obtain ⟨j, hj⟩ := List.mem_iff_getElem?.mp hg
      have hw := (hkept.chained p hp).wrote j g hj
      have hij : j = i := by
        have hseq := heg.sequence
        rw [hc.sequence, hw.sequence] at hseq
        omega
      exact ⟨p, hp, by rw [← hw.epochId, ← heg.epochId, hc.epochId], g, hij ▸ hj, heg⟩
    obtain ⟨p, hp, hepoch, -⟩ := hevent 0 first rfl
    obtain ⟨n, hn⟩ := List.mem_iff_getElem?.mp hp
    refine .inr ⟨n, ⟨p, hn, ?_⟩, ?_⟩
    · rw [PrefixOf, List.forall₂_iff_get]
      have hgs : ∀ (i : ℕ) e, (first :: rest)[i]? = some e →
          ∃ g, p.state.events[i]? = some g ∧ EvidenceEvent.SameHashed e g := by
        intro i e he
        obtain ⟨q, hq, hqepoch, hg⟩ := hevent i e he
        obtain ⟨m, hm⟩ := List.mem_iff_getElem?.mp hq
        obtain rfl := eq_of_epochId hfresh hn hm (hepoch.trans hqepoch.symm)
        rw [hn, Option.some.injEq] at hm
        exact hm ▸ hg
      have hlen : (first :: rest).length ≤ p.state.events.length := by
        obtain ⟨g, hg, -⟩ := hgs rest.length _ (List.getElem?_eq_getElem (by simp))
        obtain ⟨hlt, -⟩ := List.getElem?_eq_some_iff.mp hg
        simpa using hlt
      refine ⟨by simp only [List.length_take]; omega, fun i h₁ h₂ => ?_⟩
      obtain ⟨g, hg, heg⟩ := hgs i _ (List.getElem?_eq_getElem h₁)
      obtain ⟨hlt, rfl⟩ := List.getElem?_eq_some_iff.mp hg
      simpa using heg
    · rintro m ⟨q, hm, hprefix⟩
      obtain ⟨g, hg, hsame⟩ := forall₂_getElem? hprefix (i := 0) (a := first) rfl
      have hgq : q.state.events[0]? = some g := by
        rw [List.getElem?_take_of_lt (by simp)] at hg
        exact hg
      have hw := (hkept.chained q (List.mem_of_getElem? hm)).wrote 0 g hgq
      exact eq_of_epochId hfresh hm hn (by rw [hepoch, hsame.epochId, hw.epochId])

/-! ### A key that signed one event -/

/-- The only signature that verifies is that of the event. -/
def onePlatform : Platform :=
  { minutePlatform with
    verify data _ := decide (data = (minutePlane.state.events.map (·.eventHash)).head!) }

def oneStart : { p : EvidencePlane // Opened onePlatform (fixedKeys onePlatform) p } :=
  ⟨EvidencePlane.new onePlatform (fixedKeys _) (fixedSupply 0 1) none, .new _ _⟩

def oneKeyOps : List (KeyOp onePlatform (fixedKeys onePlatform)) :=
  .openEpoch oneStart :: minuteOps.map (.plane 0)

def oneKey : SigningKey :=
  ((keySystem onePlatform (fixedKeys onePlatform)).exec .fresh oneKeyOps).2

def oneSnapshot : List EvidenceEvent := oneKey.planes.flatMap (·.state.events)

lemma oneKey_run : (keySystem onePlatform (fixedKeys onePlatform)).Run .fresh
    ((keySystem onePlatform (fixedKeys onePlatform)).exec .fresh oneKeyOps).1 oneKey :=
  .of_exec _ oneKeyOps

theorem prefix_of_one_epoch_oneKey : oneSnapshot = [] ∨ ∃! i : ℕ, ∃ p,
    oneKey.planes[i]? = some p ∧ PrefixOf oneSnapshot p.state.events := by
  refine prefix_of_one_epoch oneKey_run (List.nodup_singleton _) ?_ ?_ ?_ ?_
  · intro data signature hverify
    rw [of_decide_eq_true hverify]
    exact List.mem_singleton.mpr rfl
  · intro first hfirst
    obtain rfl := Option.some.inj hfirst
    exact readKey_verifyingKeyHex
  · refine Set.Subsingleton.injOn (fun t ht u hu => ?_) _
    have hone : ∀ t ∈ oneKey.hashedTexts oneSnapshot,
        t = canonicalEventMaterial (oneSnapshot.head (by decide)) := by
      rintro t (⟨e, he, rfl⟩ | ⟨e, he, rfl⟩ | ⟨c, hc, rfl⟩)
      · rw [List.mem_singleton.mp he]; rfl
      · rw [Signed.event.inj (List.mem_singleton.mp he)]; rfl
      · cases List.mem_singleton.mp hc
    exact (hone t ht).trans (hone u hu).symm
  · decide +kernel

end GovSec
