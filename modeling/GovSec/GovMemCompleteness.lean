import GovSec.GovMemHistory
import GovSec.Lib.Pairs

/-!
What the history of a session in GovMem holds.

A signal is appended to the session it is recorded for, if GovMem has that session; otherwise it is
dropped. A session begins with the first turn that is recorded for it. A call on a text records its
turn before the signals; a call on a context records the signals of the segments first, and an
outbound call the signal of Corridor.
-/

namespace GovSec.RecordedPipeline

open GovSec.Lib.Text GovSec.Lib.Maps GovSec.Lib.Actions GovSec.Lib.Runs

variable {P : Platform} {env : Supply} {s s' : RecordedPipeline} {id : Str}

/-! ### Histories -/

/-- The signals that the session holds. -/
def history (s : RecordedPipeline) (id : Str) : List LayerEntry :=
  ((s.v2Sessions.lookup id).map fun g => g.layerSignals.map (·.toLayerEntry)).getD []

/-- The signals that were passed for the session. -/
def passedTo (s : RecordedPipeline) (id : Str) : List LayerEntry :=
  (s.passed.filter (·.1 = id)).map (·.2)

/-- Every session holds the signals passed for it, in their order. -/
def Complete (s : RecordedPipeline) : Prop := ∀ id, history s id = passedTo s id

/-- GovMem has a session under the id. -/
def Known (s : RecordedPipeline) (id : Str) : Prop := (s.v2Sessions.lookup id).isSome

/-- A signal of the session was dropped. -/
def Lacks (s : RecordedPipeline) (id : Str) : Prop :=
  (history s id).length < (passedTo s id).length

lemma history_of_not_known (h : ¬ Known s id) : history s id = [] := by
  rw [Known, Option.not_isSome_iff_eq_none] at h
  simp [history, h]

lemma not_complete_of_lacks (h : Lacks s id) : ¬ Complete s := fun hc => by
  rw [Lacks, hc id] at h
  exact lt_irrefl _ h

/-- What a part of a call on session `id` does to the histories. -/
structure Tracks (id : Str) (s s' : RecordedPipeline) : Prop where
  mode : s'.mode = s.mode
  others : ∀ id' ≠ id, history s' id' = history s id' ∧ passedTo s' id' = passedTo s id'
  stays : Known s id → Known s' id
  /-- A known session gets what is passed. -/
  known : s.mode = .v2 → Known s id → ∃ es, history s' id = history s id ++ es ∧
    passedTo s' id = passedTo s id ++ es
  /-- No session gets more than that. -/
  within : (history s' id).length + (passedTo s id).length ≤
    (history s id).length + (passedTo s' id).length

instance (id : Str) : IsPreorder RecordedPipeline (Tracks id) where
  refl s := ⟨rfl, fun _ _ => ⟨rfl, rfl⟩, fun h => h, fun _ _ => ⟨[], by simp, by simp⟩, le_rfl⟩
  trans a b c hab hbc := by
    refine ⟨hbc.mode.trans hab.mode, fun id' hid => ?_, fun h => hbc.stays (hab.stays h),
      fun hmode hk => ?_, ?_⟩
    · exact ⟨(hbc.others id' hid).1.trans (hab.others id' hid).1,
        (hbc.others id' hid).2.trans (hab.others id' hid).2⟩
    · obtain ⟨es, hh, hp⟩ := hab.known hmode hk
      obtain ⟨fs, hh', hp'⟩ := hbc.known (hab.mode.trans hmode) (hab.stays hk)
      exact ⟨es ++ fs, by rw [hh', hh, List.append_assoc], by rw [hp', hp, List.append_assoc]⟩
    · have h := hab.within
      have h' := hbc.within
      omega

/-- A complete history stays complete once the session is known. -/
lemma Tracks.complete (h : Tracks id s s') (hmode : s.mode = .v2) (hk : Known s id)
    (hc : Complete s) : Complete s' := fun id' => by
  by_cases hid : id' = id
  · subst hid
    obtain ⟨es, hh, hp⟩ := h.known hmode hk
    rw [hh, hp, hc id']
  · rw [(h.others id' hid).1, (h.others id' hid).2, hc id']

/-- What was dropped stays missing. -/
lemma Tracks.lacks (h : Tracks id s s') (hl : Lacks s id) : Lacks s' id := by
  have hw := h.within
  rw [Lacks] at hl ⊢
  omega

/-! ### The parts of a call -/

/-- A part that leaves GovMem alone. -/
lemma Tracks.of_eq (hmode : s'.mode = s.mode) (hsessions : s'.v2Sessions = s.v2Sessions)
    (hpassed : s'.passed = s.passed) : Tracks id s s' := by
  have hh : ∀ id', history s' id' = history s id' := fun id' => by rw [history, history, hsessions]
  have hp : ∀ id', passedTo s' id' = passedTo s id' := fun id' => by
    rw [passedTo, passedTo, hpassed]
  refine ⟨hmode, fun id' _ => ⟨hh id', hp id'⟩, fun h => ?_, fun _ _ => ⟨[], ?_, ?_⟩, ?_⟩
  · rwa [Known, hsessions]
  · rw [hh, List.append_nil]
  · rw [hp, List.append_nil]
  · rw [hh, hp]

lemma inner_tracks {α : Type} (m : StateM Pipeline α) : Along (Tracks id) (inner m) :=
  fun _ => .of_eq rfl rfl rfl

def withSessions (s : RecordedPipeline) (sessions : HashMap Str GovMemSession) :
    RecordedPipeline := { s with v2Sessions := sessions }

lemma history_recordTurnV2 (message : Str) (direction : MessageDirection) (blocked : Bool)
    (identity : Identity) (id' : Str) :
    history (s.withSessions (recordTurnV2 env id message direction blocked identity s.v2Sessions))
      id' = history s id' := by
  simp only [history, withSessions, recordTurnV2, lookup_insert_eq_ite]
  split
  · next h =>
    rw [h]
    cases s.v2Sessions.lookup id <;> rfl
  · rfl

variable (env id) in
/-- A recorded turn makes the session known and adds no signal. -/
lemma recordTurn_snd (message : Str) (direction : MessageDirection) (blocked : Bool)
    (identity : Identity) (s : RecordedPipeline) :
    ∃ s', (result (recordTurn env id message direction blocked identity) s).2 = s' ∧
      s'.mode = s.mode ∧ (∀ id', history s' id' = history s id') ∧ s'.passed = s.passed ∧
      (Known s id → Known s' id) ∧ (s.mode = .v2 → Known s' id) := by
  refine ⟨_, rfl, ?_⟩
  rw [recordTurn, result_modifyGet]
  cases hmode : s.mode with
  | v1 => exact ⟨hmode, fun _ => rfl, rfl, fun h => h, fun h => by cases h⟩
  | v2 =>
    have hknown : Known (s.withSessions (recordTurnV2 env id message direction blocked identity
        s.v2Sessions)) id := by
      simp only [Known, withSessions, recordTurnV2, Finmap.lookup_insert, Option.isSome_some]
    exact ⟨rfl, history_recordTurnV2 _ _ _ _, rfl, fun _ => hknown, fun _ => hknown⟩

lemma recordTurn_tracks (message : Str) (direction : MessageDirection) (blocked : Bool)
    (identity : Identity) :
    Along (Tracks id) (recordTurn env id message direction blocked identity) := fun s => by
  obtain ⟨s', heq, hmode, hh, hpassed, hstays, -⟩ :=
    recordTurn_snd env id message direction blocked identity s
  rw [heq]
  have hp : ∀ id', passedTo s' id' = passedTo s id' := fun id' => by
    rw [passedTo, passedTo, hpassed]
  exact ⟨hmode, fun id' _ => ⟨hh id', hp id'⟩, hstays,
    fun _ _ => ⟨[], by rw [hh, List.append_nil], by rw [hp, List.append_nil]⟩, by rw [hh, hp]⟩

/-- The state after a signal was passed: it is appended to a known session. -/
structure Passes (id : Str) (entry : LayerEntry) (s s' : RecordedPipeline) : Prop where
  mode : s'.mode = s.mode
  known : ∀ id', Known s' id' ↔ Known s id'
  passed : s'.passed = s.passed ++ [(id, entry)]
  others : ∀ id' ≠ id, history s' id' = history s id'
  appended : s.mode = .v2 → Known s id → history s' id = history s id ++ [entry]
  dropped : ¬ (s.mode = .v2 ∧ Known s id) → history s' id = history s id

variable (env id) in
lemma recordLayerSignal_passes (layer : Str) (signal : GovernanceSignal) (s : RecordedPipeline) :
    Passes id ⟨layer, signal.severity, signal.violationClass, signal.confidence⟩ s
      (result (recordLayerSignal env id layer signal) s).2 := by
  obtain ⟨p, mode, sessions, passed⟩ := s
  cases mode with
  | v1 =>
    exact ⟨rfl, fun _ => Iff.rfl, rfl, fun _ _ => rfl, (fun h => by cases h), fun _ => rfl⟩
  | v2 =>
    rw [recordLayerSignal, result_modifyGet]
    simp only [if_true]
    refine ⟨rfl, fun id' => ?_, rfl, fun id' hid => ?_, fun _ hk => ?_, fun hk => ?_⟩
    · simp only [Known, lookup_modifyAt]
      split
      · next h => rw [h, Option.isSome_map]
      · rfl
    · simp only [history, lookup_modifyAt, if_neg hid]
    · obtain ⟨g, hg⟩ := Option.isSome_iff_exists.mp hk
      simp only at hg
      simp [history, lookup_modifyAt, hg]
    · have hnone : sessions.lookup id = none :=
        Option.not_isSome_iff_eq_none.mp fun h => hk ⟨rfl, h⟩
      simp [history, lookup_modifyAt, hnone]

variable {entry : LayerEntry}

lemma Passes.passedTo_self (h : Passes id entry s s') :
    passedTo s' id = passedTo s id ++ [entry] := by
  simp [passedTo, h.passed]

lemma Passes.passedTo_other (h : Passes id entry s s') {id' : Str} (hid : id' ≠ id) :
    passedTo s' id' = passedTo s id' := by
  simp [passedTo, h.passed, Ne.symm hid]

lemma Passes.tracks (h : Passes id entry s s') : Tracks id s s' where
  mode := h.mode
  others id' hid := ⟨h.others id' hid, h.passedTo_other hid⟩
  stays := (h.known id).mpr
  known hmode hk := ⟨[entry], h.appended hmode hk, h.passedTo_self⟩
  within := by
    rw [h.passedTo_self, List.length_append, List.length_singleton]
    by_cases hk : s.mode = .v2 ∧ Known s id
    · rw [h.appended hk.1 hk.2, List.length_append, List.length_singleton]
      omega
    · rw [h.dropped hk]
      omega

/-- A signal of an unknown session is dropped. -/
lemma Passes.lacks (h : Passes id entry s s') (hk : ¬ Known s id) : Lacks s' id := by
  rw [Lacks, h.dropped fun h => hk h.2, history_of_not_known hk, h.passedTo_self,
    List.length_append, List.length_singleton]
  exact Nat.succ_pos _

lemma recordLayerSignal_tracks (layer : Str) (signal : GovernanceSignal) :
    Along (Tracks id) (recordLayerSignal env id layer signal) :=
  fun s => (recordLayerSignal_passes env id layer signal s).tracks

lemma arbitrate_tracks {α : Type} {signal : GovernanceSignal} {modifier : ℚ}
    {stop : EnforcementResult → α} {next : StateM RecordedPipeline α}
    (h : Along (Tracks id) next) :
    Along (Tracks id) (arbitrate P env signal modifier stop next) := by
  refine (inner_tracks _).bind fun state => ?_
  cases Pipeline.checkHardBlock state with
  | none => exact h
  | some result => exact .pure _

variable (names : LayerNames) (identity : Identity) (t : Pipeline.Turn)
  (highest : Option GovernanceSignal)

lemma overwatchLayer_tracks :
    Along (Tracks t.sessionId) (overwatchLayer P env names identity t highest) := by
  refine (inner_tracks _).bind fun signal => (recordLayerSignal_tracks _ _).bind fun _ => ?_
  refine Along.get.bind fun s => ?_
  split
  · exact .pure _
  · exact arbitrate_tracks (inner_tracks _)

lemma corridorLayer_tracks :
    Along (Tracks t.sessionId) (corridorLayer P env names identity t highest) :=
  (inner_tracks _).bind fun _ => (recordLayerSignal_tracks _ _).bind fun _ =>
    arbitrate_tracks (overwatchLayer_tracks names identity t _)

lemma govern_tracks : Along (Tracks t.sessionId) (govern P env names identity t highest) := by
  have hlayers : Along (Tracks t.sessionId) (layers P (env.part 0) names identity t highest) := by
    cases highest with
    | none => exact corridorLayer_tracks names identity t none
    | some signal => exact arbitrate_tracks (corridorLayer_tracks names identity t _)
  exact hlayers.bind fun _ => (inner_tracks _).bind fun _ => .pure _

lemma inspectSegments_tracks (times : Supply) (sessionId : Str) (segments : List ContextSegment)
    (k : ℕ) :
    Along (Tracks sessionId) (inspectSegments P env times sessionId segments k highest) := by
  induction segments generalizing k highest with
  | nil => exact .pure _
  | cons segment rest ih =>
    exact (inner_tracks _).bind fun _ => (recordLayerSignal_tracks _ _).bind fun _ => ih _ _

/-- An approval, or none. -/
lemma approval_tracks {α β : Type} (approved : Bool) (m : StateM Pipeline α) (b : β) :
    Along (Tracks id) (if approved then do
        let _ ← inner m
        pure b
      else pure b) := by
  cases approved with
  | true => exact (inner_tracks _).bind fun _ => .pure _
  | false => exact .pure _

variable (P env id) in
lemma inboundTurn_keeps (userInput : Str) :
    Keeps (Tracks id) (fun ts => ts.1.sessionId = id)
      (inner (Pipeline.inboundTurn P env userInput id)) := fun s => ⟨inner_tracks _ s, rfl⟩

lemma inboundWithIdentity_tracks (userInput govTxId : Str) :
    Along (Tracks id) (inboundWithIdentity P env userInput id govTxId identity) :=
  (inboundTurn_keeps P _ id userInput).bindAlong fun ts hts =>
    (recordTurn_tracks _ _ _ _).bind fun _ => (recordLayerSignal_tracks _ _).bind fun _ =>
      (hts ▸ govern_tracks _ identity ts.1 _).bind fun r => approval_tracks _ _ r.1

variable (P env) in
lemma contextTurn_keeps (envelope : ModelContextEnvelope) :
    Keeps (Tracks envelope.sessionId) (fun th => th.1.sessionId = envelope.sessionId)
      (contextTurn P env envelope identity) := fun s =>
  ⟨((inner_tracks _).bind fun _ => (inspectSegments_tracks _ _ _ _ _).bind fun _ =>
    (recordTurn_tracks _ _ _ _).bind fun _ => .pure _) s, rfl⟩

/-- What follows the turn of a context. -/
lemma contextRest_tracks (envelope : ModelContextEnvelope) (govTxId : Str)
    (ht : t.sessionId = id) :
    Along (Tracks id) (do
      let (result, highest) ← govern P (env.part 1) contextLayers identity t highest
      if result.isApproved then
        let signal := highest.getD
          (Pipeline.contextSignal (env.part 2) envelope.sessionId envelope.contextHash)
        let _ ← inner (Pipeline.recordApproval (env.part 3) govTxId signal
          (some envelope.contextHash) (some envelope.runId))
        pure (.ok result : Except EnvelopeError EnforcementResult)
      else pure (.ok result)) :=
  (ht ▸ govern_tracks contextLayers identity t highest).bind fun _ => approval_tracks _ _ _

lemma inboundContextWithIdentity_tracks (envelope : ModelContextEnvelope) (govTxId : Str) :
    Along (Tracks envelope.sessionId)
      (inboundContextWithIdentity P env envelope govTxId identity) := by
  unfold inboundContextWithIdentity
  cases envelope.verify P with
  | error e => exact .pure _
  | ok => exact (contextTurn_keeps P _ identity envelope).bindAlong fun th hth =>
      contextRest_tracks identity th.1 th.2 envelope govTxId hth

/-- What follows Corridor's signal in an outbound call. -/
lemma outboundRest_tracks (modelOutput : Str) (signal : GovernanceSignal) (modifier : ℚ) :
    Along (Tracks id) (arbitrate P (env.part 1) signal modifier (fun r : EnforcementResult => r)
      (outboundOverwatch P (env.part 2) modelOutput id modifier)) := by
  refine arbitrate_tracks ((inner_tracks _).bind fun signal => arbitrate_tracks ?_)
  refine (inner_tracks _).bind fun signal => arbitrate_tracks ?_
  exact (inner_tracks _).bind fun _ => (recordTurn_tracks _ _ _ _).bind fun _ => .pure _

lemma outbound_tracks (modelOutput : Str) :
    Along (Tracks id) (outbound P env modelOutput id) :=
  Along.get.bind fun _ => (inner_tracks _).bind fun _ => (recordLayerSignal_tracks _ _).bind
    fun _ => outboundRest_tracks _ _ _

/-! ### Calls that begin with their turn -/

/-- After a call on a text, which begins with its turn, the histories are still complete. -/
lemma inboundWithIdentity_complete (userInput govTxId : Str) (hmode : s.mode = .v2)
    (hc : Complete s) :
    Complete (result (inboundWithIdentity P env userInput id govTxId identity) s).2 := by
  -- the memory and Sentinel, then the turn
  have hturn := inboundTurn_keeps P (env.part 0) id userInput s
  have hc₁ : Complete (result (inner (Pipeline.inboundTurn P (env.part 0) userInput id)) s).2 := hc
  rw [inboundWithIdentity, result_bind]
  generalize result (inner (Pipeline.inboundTurn P (env.part 0) userInput id)) s = turn at *
  obtain ⟨⟨t, signal⟩, s₁⟩ := turn
  obtain ⟨htracks, ht⟩ := hturn
  simp only at ht htracks hc₁ ⊢
  obtain ⟨s₂, heq, hmode₂, hh, hpassed, -, hknown⟩ := recordTurn_snd (env.part 3) id
    userInput .userToSystem (.high ≤ signal.severity) identity s₁
  rw [result_bind, heq]
  have hmode₁ : s₁.mode = .v2 := htracks.mode.trans hmode
  have hc₂ : Complete s₂ := fun id' => by rw [hh, passedTo, hpassed, hc₁ id', passedTo]
  have hsignal : Along (Tracks id) (recordLayerSignal (env.part 4) id textLayers.sentinel signal) :=
    recordLayerSignal_tracks _ _
  have hgovern : Along (Tracks id) (govern P (env.part 1) textLayers identity t
      (Pipeline.trackHighest signal none)) := ht ▸ govern_tracks _ _ _ _
  have hrest := (hsignal.bind fun _ => hgovern.bind fun r => approval_tracks r.1.isApproved
    (Pipeline.recordApproval (env.part 2) govTxId signal none none) r.1) s₂
  exact hrest.complete (hmode₂.trans hmode₁) (hknown hmode₁) hc₂

/-! ### Calls that begin with a signal -/

variable (P env) in
/-- The signal of the first segment is dropped when the session is unknown. -/
lemma inspectSegments_lacks (times : Supply) {segments : List ContextSegment} (h : segments ≠ [])
    (k : ℕ) (hk : ¬ Known s id) :
    Lacks (result (inspectSegments P env times id segments k highest) s).2 id := by
  cases segments with
  | nil => exact absurd rfl h
  | cons segment rest =>
    rw [inspectSegments, result_bind, result_bind]
    have hpasses := recordLayerSignal_passes (times.part k) id
      contextLayers.sentinel
      (result (inner (Pipeline.inspect P (env.part k) segment.content .inbound id)) s).1
      (result (inner (Pipeline.inspect P (env.part k) segment.content .inbound id)) s).2
    exact (inspectSegments_tracks _ _ _ _ _ _).lacks (hpasses.lacks hk)

variable (P env) in
lemma contextTurn_lacks {envelope : ModelContextEnvelope} (h : envelope.segments ≠ [])
    (hk : ¬ Known s envelope.sessionId) :
    Lacks (result (contextTurn P env envelope identity) s).2 envelope.sessionId := by
  rw [contextTurn, result_bind, result_bind]
  have hsegments : envelope.segmentsRequiringInspection ≠ [] := by
    rwa [ModelContextEnvelope.segmentsRequiringInspection_eq]
  have hlacks := inspectSegments_lacks P (env.part 1) none (env.part 2) hsegments 0 (s :=
    (result (inner (Pipeline.initSessionMemory (env.part 0) envelope.sessionId)) s).2) hk
  exact (((recordTurn_tracks _ _ _ _).bind fun _ => .pure _) _).lacks hlacks

/-- A verified context keeps the histories complete exactly when its session is known. -/
lemma inboundContextWithIdentity_complete {envelope : ModelContextEnvelope} (govTxId : Str)
    (hverify : envelope.verify P = .ok ()) (hmode : s.mode = .v2) (hc : Complete s) :
    Complete (result (inboundContextWithIdentity P env envelope govTxId identity) s).2 ↔
      Known s envelope.sessionId := by
  constructor
  · intro hcomplete
    by_contra hk
    have hturn := contextTurn_keeps P (env.part 0) identity envelope s
    have hlacks := contextTurn_lacks P (env.part 0) identity
      (ModelContextEnvelope.segments_of_verify hverify).1 hk
    simp only [inboundContextWithIdentity, hverify] at hcomplete
    exact not_complete_of_lacks
      ((contextRest_tracks identity _ _ envelope govTxId hturn.2 _).lacks hlacks) hcomplete
  · exact fun hk =>
      (inboundContextWithIdentity_tracks identity envelope govTxId s).complete hmode hk hc

/-- An outbound call keeps the histories complete exactly when its session is known. -/
lemma outbound_complete (modelOutput : Str) (hmode : s.mode = .v2) (hc : Complete s) :
    Complete (result (outbound P env modelOutput id) s).2 ↔ Known s id := by
  constructor
  · intro hcomplete
    by_contra hk
    have hpasses := recordLayerSignal_passes (env.part 3) id "corridor_out"
      (result (inner (Pipeline.corridorEvaluate P (env.part 0) modelOutput .outbound id)) s).1
      (result (inner (Pipeline.corridorEvaluate P (env.part 0) modelOutput .outbound id)) s).2
    exact not_complete_of_lacks ((outboundRest_tracks _ _ _ _).lacks (hpasses.lacks hk)) hcomplete
  · exact fun hk => (outbound_tracks modelOutput s).complete hmode hk hc

/-! ### Runs -/

/-- The call does not begin with a signal of a session that GovMem does not know. -/
def Remembered (P : Platform) (s : RecordedPipeline) (c : Pipeline.Op × Identity) : Prop :=
  match c.1 with
  | .inboundContext _ envelope _ => envelope.verify P = .ok () → Known s envelope.sessionId
  | .outbound _ _ sessionId => Known s sessionId
  | _ => True

/-- **One step.** -/
theorem step_complete_iff (hmode : s.mode = .v2) (hc : Complete s)
    (c : Pipeline.Op × Identity) : Complete (step P s c).2 ↔ Remembered P s c := by
  obtain ⟨op, identity⟩ := c
  cases hr : records op with
  | false =>
    rw [step_of_not_records hr]
    have hkept : Complete { s with pipeline := (Pipeline.step P s.pipeline op).2 } := hc
    cases op <;> first | exact iff_of_true hkept trivial | cases hr
  | true =>
    cases op with
    | inbound env userInput sessionId govTxId =>
      exact iff_of_true (inboundWithIdentity_complete identity userInput govTxId hmode hc) trivial
    | inboundContext env envelope govTxId =>
      cases hverify : envelope.verify P with
      | error e =>
        have hstep : (step P s (.inboundContext env envelope govTxId, identity)).2 = s := by
          simp only [step, inboundContextWithIdentity, hverify]
          rfl
        rw [hstep]
        exact iff_of_true hc fun h => by simp [hverify] at h
      | ok u =>
        exact (inboundContextWithIdentity_complete identity govTxId hverify hmode hc).trans
          ⟨fun hk _ => hk, fun h => h hverify⟩
    | outbound env modelOutput sessionId => exact outbound_complete modelOutput hmode hc
    | _ => cases hr

lemma step_mode (s : RecordedPipeline) (c : Pipeline.Op × Identity) :
    (step P s c).2.mode = s.mode := by
  obtain ⟨op, identity⟩ := c
  cases hr : records op with
  | false => rw [step_of_not_records hr]
  | true =>
    cases op with
    | inbound => exact (inboundWithIdentity_tracks identity _ _ s).mode
    | inboundContext => exact (inboundContextWithIdentity_tracks identity _ _ s).mode
    | outbound => exact (outbound_tracks _ s).mode
    | _ => cases hr

/-- **When the histories are complete.** In a run of GovMem's second mode every state has complete
histories exactly when no call begins with a signal of a session that GovMem does not know yet. -/
theorem history_complete_iff (P : Platform) (p : Pipeline) (cs : List (Pipeline.Op × Identity)) :
    (system P).Always (fun s c => Complete (step P s c).2) (new p .v2) cs ↔
      (system P).Always (Remembered P) (new p .v2) cs :=
  System.always_iff_of_invariant (I := fun s => s.mode = .v2 ∧ Complete s) ⟨rfl, fun _ => rfl⟩
    (fun _ c ⟨hmode, hc⟩ => step_complete_iff hmode hc c)
    fun s c ⟨hmode, _⟩ hc => ⟨(step_mode s c).trans hmode, hc⟩

/-- The state after a first call of a session, on the context "hi". -/
def afterFirstContext : RecordedPipeline :=
  (step silentPlatform (new (Pipeline.fixedPipeline .default) .v2)
    (.inboundContext (fixedSupply 0 0) (Pipeline.fixedContext "hi") "tx", ⟨none, none⟩)).2

theorem afterFirstContext_incomplete :
    (passedTo afterFirstContext "s").map (·.layer) =
      [contextLayers.sentinel, contextLayers.corridor, contextLayers.overwatch] ∧
    (history afterFirstContext "s").map (·.layer) =
      [contextLayers.corridor, contextLayers.overwatch] ∧
    ¬ Complete afterFirstContext := by
  have hpassed : (passedTo afterFirstContext "s").map (·.layer) =
      [contextLayers.sentinel, contextLayers.corridor, contextLayers.overwatch] := by
    decide +kernel
  have hhistory : (history afterFirstContext "s").map (·.layer) =
      [contextLayers.corridor, contextLayers.overwatch] := by decide +kernel
  refine ⟨hpassed, hhistory, fun hc => ?_⟩
  have hlength := congrArg List.length (hpassed.symm.trans (hc "s" ▸ hhistory))
  simp at hlength

end GovSec.RecordedPipeline
