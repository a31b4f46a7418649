import GovSec.Pipeline

/-!
What a call of the pipeline leaves alone, and how its layers end.

The layers of a call touch the monitors, the chain and the arbiter, whose states only rise.
One specification describes the way from any layer to the end of the call; it is inherited
backwards from layer to layer.
-/

namespace GovSec.Pipeline

open GovSec.Lib.Text GovSec.Lib.Maps GovSec.Lib.Actions

variable {P : Platform} {env : Supply} {p p' : Pipeline}

/-- `p'` has the configuration, the capabilities and the actors of `p`, and no session is in a
lower state. -/
structure Kept (p p' : Pipeline) : Prop where
  capabilityStore : p'.capabilityStore = p.capabilityStore
  strategicMemory : p'.strategicMemory = p.strategicMemory
  memoryConfig : p'.memoryConfig = p.memoryConfig
  config : p'.arbiter.config = p.arbiter.config
  le : ∀ sid, p.currentState sid ≤ p'.currentState sid

lemma Kept.refl (p : Pipeline) : Kept p p := ⟨rfl, rfl, rfl, rfl, fun _ => le_rfl⟩

lemma Kept.trans {q : Pipeline} (h : Kept p p') (h' : Kept p' q) : Kept p q where
  capabilityStore := h'.capabilityStore.trans h.capabilityStore
  strategicMemory := h'.strategicMemory.trans h.strategicMemory
  memoryConfig := h'.memoryConfig.trans h.memoryConfig
  config := h'.config.trans h.config
  le sid := (h.le sid).trans (h'.le sid)

/-- `p'` moreover has the approvals and the memories of `p`. -/
structure Framed (p p' : Pipeline) : Prop extends Kept p p' where
  verdictLedger : p'.verdictLedger = p.verdictLedger
  sessionMemories : p'.sessionMemories = p.sessionMemories

lemma Framed.refl (p : Pipeline) : Framed p p := ⟨.refl p, rfl, rfl⟩

lemma Framed.trans {q : Pipeline} (h : Framed p p') (h' : Framed p' q) : Framed p q where
  toKept := h.toKept.trans h'.toKept
  verdictLedger := h'.verdictLedger.trans h.verdictLedger
  sessionMemories := h'.sessionMemories.trans h.sessionMemories

instance : IsPreorder Pipeline Framed where
  refl := Framed.refl
  trans _ _ _ := Framed.trans

/-- A change of the monitors and the chain only. -/
lemma Framed.of_monitors (overwatch : OverWatch) (oim : OIM) (haap : HaapGate)
    (crypto : CryptoEngine) : Framed p { p with overwatch, oim, haap, crypto } :=
  ⟨⟨rfl, rfl, rfl, rfl, fun _ => le_rfl⟩, rfl, rfl⟩

/-! ### One layer -/

section Layer

variable {payload sessionId actionClass : Str} {direction : Direction} {signal : GovernanceSignal}
  {modifier : ℚ} {agency : AgencyLevel} {token : Option Str}

/-- The builder's clamp leaves the confidence of a memory signal as it is. -/
lemma memoryConfidence_clamped (state : MemoryState) :
    max 0 (min 1 (memoryConfidence state)) = memoryConfidence state := by
  cases state <;> norm_num [memoryConfidence]

/-- A layer reports about the session and the direction it was given. -/
def Reports (sessionId : Str) (direction : Direction) (signal : GovernanceSignal) : Prop :=
  signal.sessionId = sessionId ∧ signal.direction = direction

lemma reports_layerSignal {crypto : CryptoEngine} {source : SignalSource} {hash : Str}
    {f : Option Finding} : Reports sessionId direction
      (attachCrypto P env crypto (layerSignal source direction sessionId hash f)).1 := by
  cases f <;> exact ⟨rfl, rfl⟩

lemma inspect_meets : Meets (inspect P env payload direction sessionId) fun p signal p' =>
    Framed p p' ∧ Reports sessionId direction signal :=
  fun _ => ⟨.of_monitors _ _ _ _, reports_layerSignal⟩

lemma corridorEvaluate_meets : Meets (corridorEvaluate P env payload direction sessionId)
    fun p signal p' => Framed p p' ∧ Reports sessionId direction signal :=
  fun _ => ⟨.of_monitors _ _ _ _, reports_layerSignal⟩

lemma overwatchEvaluate_meets : Meets (overwatchEvaluate P env payload direction sessionId)
    fun p signal p' => Framed p p' ∧ Reports sessionId direction signal :=
  fun _ => ⟨.of_monitors _ _ _ _, reports_layerSignal⟩

/-- OIM reports about the session and the direction of the signal it watches. -/
lemma oimObserve_meets : Meets (oimObserve P env signal) fun p s p' =>
    Framed p p' ∧ Reports signal.sessionId signal.direction s :=
  fun _ => ⟨.of_monitors _ _ _ _, reports_layerSignal⟩

lemma buildMemorySignal_meets {verdict : MemoryVerdict} :
    Meets (buildMemorySignal P env sessionId verdict direction) fun p signal p' =>
      Framed p p' ∧ p'.arbiter = p.arbiter ∧ signal.sessionId = sessionId ∧
        signal.severity = memorySeverity verdict.state ∧
        signal.confidence = memoryConfidence verdict.state :=
  fun _ => ⟨.of_monitors _ _ _ _, rfl, rfl, rfl, memoryConfidence_clamped _⟩

lemma haapEvaluate_along :
    Along Framed (haapEvaluate P env sessionId agency actionClass token) :=
  fun _ => .of_monitors _ _ _ _

/-- The arbiter answers at least the state it had, and stores its answer under a modifier that
does not block. -/
lemma processWithModifier_meets : Meets (processWithModifier P env signal modifier)
    fun p state p' => Framed p p' ∧ state = p.arbiter.decidedWith modifier signal ∧
      (0 < modifier → p'.currentState signal.sessionId = state) := by
  intro p
  refine ⟨⟨⟨rfl, rfl, rfl, Arbiter.processWithModifier_config, fun _ =>
    Arbiter.processWithModifier_le⟩, rfl, rfl⟩, Arbiter.processWithModifier_fst, fun hm => ?_⟩
  exact (Arbiter.processWithModifier_currentState.trans (if_pos ⟨rfl, .inl hm⟩)).trans
    Arbiter.processWithModifier_fst.symm

lemma process_meets : Meets (process P env signal) fun p _ p' =>
    Framed p p' ∧ p'.currentState signal.sessionId =
      p.arbiter.decided p.arbiter.config.thresholds signal := by
  intro p
  refine ⟨⟨⟨rfl, rfl, rfl, Arbiter.processUnder_config, fun _ => Arbiter.process_le⟩, rfl, rfl⟩, ?_⟩
  exact (Arbiter.processUnder_currentState ..).trans (if_pos rfl)

end Layer

/-! ### The way through the layers -/

section Layers

variable {t : Turn} {signal : GovernanceSignal} {highest : Option GovernanceSignal}

/-- The tracked signal, when there is one, reports about the session. -/
def Tracks (sessionId : Str) (highest : Option GovernanceSignal) : Prop :=
  ∀ s, highest = some s → Reports sessionId .inbound s

variable (signal highest) in
lemma trackHighest_eq : trackHighest signal highest = some signal ∨
    ∃ h, highest = some h ∧ trackHighest signal highest = some h := by
  unfold trackHighest
  split
  · exact .inl rfl
  · next h =>
    split
    · exact .inl rfl
    · exact .inr ⟨h, rfl, rfl⟩

/-- What holds of both signals holds of the higher one. -/
lemma forall_trackHighest {R : GovernanceSignal → Prop} (h : ∀ s, highest = some s → R s)
    (hs : R signal) : ∀ s, trackHighest signal highest = some s → R s := by
  intro s hs'
  rcases trackHighest_eq signal highest with heq | ⟨h', hh', heq⟩
  · rw [heq] at hs'
    exact Option.some.inj hs' ▸ hs
  · rw [heq] at hs'
    exact h s (hh'.trans hs')

lemma Tracks.trackHighest {sessionId : Str} (h : Tracks sessionId highest)
    (hs : Reports sessionId .inbound signal) : Tracks sessionId (trackHighest signal highest) :=
  forall_trackHighest h hs

lemma isSome_trackHighest : (trackHighest signal highest).isSome = true := by
  rcases trackHighest_eq signal highest with h | ⟨_, -, h⟩ <;> simp [h]

/-- How the layers end from `p` on: framed, with a tracked signal; and a state they pass in is
at least the one before and, under a modifier that does not block, the stored one. -/
structure Ends (t : Turn) (p : Pipeline) (r : LayerOutcome × Option GovernanceSignal)
    (p' : Pipeline) : Prop where
  framed : Framed p p'
  blocked : ∀ result, r.1 = .blocked result → result.isApproved = false
  isSome : r.2.isSome = true
  tracks : Tracks t.sessionId r.2
  passed : ∀ state, r.1 = .passed state → p.currentState t.sessionId ≤ state ∧
    (0 < t.thresholdModifier → p'.currentState t.sessionId = state)

lemma Ends.of_framed {q : Pipeline} {r : LayerOutcome × Option GovernanceSignal}
    (h : Framed p q) (he : Ends t q r p') : Ends t p r p' where
  framed := h.trans he.framed
  blocked := he.blocked
  isSome := he.isSome
  tracks := he.tracks
  passed state hs := ⟨(h.le _).trans (he.passed state hs).1, (he.passed state hs).2⟩

/-- An early answer ends the layers. -/
lemma Ends.early {result : EnforcementResult} (hr : result.isApproved = false)
    (hs : highest.isSome = true) (ht : Tracks t.sessionId highest) (p : Pipeline) :
    Ends t p (.blocked result, highest) p where
  framed := .refl p
  blocked _ h := by cases h; exact hr
  isSome := hs
  tracks := ht
  passed _ h := by cases h

variable (hs : highest.isSome = true) (ht : Tracks t.sessionId highest)
  (hr : Reports t.sessionId .inbound signal)

include ht hr in
lemma oimLayer_ends : Meets (oimLayer P env t signal highest) (Ends t) := by
  refine oimObserve_meets.then fun p s p₁ ⟨hf, hrep⟩ => .of_framed hf ?_
  obtain ⟨hf', hd, hst⟩ := (processWithModifier_meets :
    Meets (processWithModifier P (env.part 1) s t.thresholdModifier) _) p₁
  rw [hr.1, hr.2] at hrep
  rw [hrep.1] at hst
  refine ⟨hf', by rintro _ ⟨⟩, isSome_trackHighest, ht.trackHighest hrep, ?_⟩
  rintro _ ⟨⟩
  have hle : p₁.arbiter.currentState s.sessionId ≤ p₁.arbiter.decidedWith t.thresholdModifier s :=
    Arbiter.le_decidedWith
  rw [hrep.1] at hle
  exact ⟨hle.trans_eq hd.symm, hst⟩

include hs ht hr in
lemma haapLayer_ends : Meets (haapLayer P env t signal highest) (Ends t) := by
  refine haapEvaluate_along.bindMeets (fun verdict => ?_) fun _ _ _ _ => Ends.of_framed
  cases verdict with
  | constitutionalBlock => exact Meets.pure (Ends.early rfl hs ht)
  | gateRequired => exact Meets.pure (Ends.early rfl hs ht)
  | tokenRejected => exact Meets.pure (Ends.early rfl hs ht)
  | authorized => exact oimLayer_ends ht hr
  | tokenVerified => exact oimLayer_ends ht hr

lemma not_approved_of_checkHardBlock {state : SecurityState} {result : EnforcementResult}
    (h : checkHardBlock state = some result) : result.isApproved = false := by
  cases state <;> simp [checkHardBlock] at h <;> subst h <;> rfl

/-- The arbiter's check ends the layers or leaves them to the next one. -/
lemma arbitrate_ends {next : Layers} {s : GovernanceSignal} {modifier : ℚ}
    (hs : highest.isSome = true) (ht : Tracks t.sessionId highest) (hn : Meets next (Ends t)) :
    Meets (arbitrate P env s modifier (fun result => (.blocked result, highest)) next)
      (Ends t) := by
  refine processWithModifier_meets.then fun p state p₁ ⟨hf, _, _⟩ => .of_framed hf ?_
  cases hcheck : checkHardBlock state with
  | some result => exact .early (not_approved_of_checkHardBlock hcheck) hs ht p₁
  | none => exact hn p₁

lemma overwatchLayer_ends (hs : highest.isSome = true) (ht : Tracks t.sessionId highest) :
    Meets (overwatchLayer P env t highest) (Ends t) := by
  refine overwatchEvaluate_meets.then fun p s p₁ ⟨hf, hrep⟩ => .of_framed hf ?_
  rw [result_bind, result_get]
  dsimp only
  split
  · exact .early rfl hs ht p₁
  · exact arbitrate_ends isSome_trackHighest (ht.trackHighest hrep)
      (haapLayer_ends isSome_trackHighest (ht.trackHighest hrep) hrep) p₁

lemma corridorLayer_ends (ht : Tracks t.sessionId highest) :
    Meets (corridorLayer P env t highest) (Ends t) :=
  corridorEvaluate_meets.then fun _ _ p₁ ⟨hf, hrep⟩ => .of_framed hf <|
    arbitrate_ends isSome_trackHighest (ht.trackHighest hrep)
      (overwatchLayer_ends isSome_trackHighest (ht.trackHighest hrep)) p₁

/-- **The way through the layers.** -/
theorem layers_ends (ht : Tracks t.sessionId highest) :
    Meets (layers P env t highest) (Ends t) := by
  cases highest with
  | none => exact corridorLayer_ends ht
  | some signal => exact arbitrate_ends rfl ht (corridorLayer_ends ht)

variable (P env) in
/-- The layers do not pass below the arbiter's answer to the first signal. -/
lemma layers_passed_of_signal (ht : Tracks t.sessionId (some signal)) :
    Meets (layers P env t (some signal)) fun p r _ => ∀ state, r.1 = .passed state →
      p.arbiter.decidedWith t.thresholdModifier signal ≤ state := by
  refine processWithModifier_meets.then fun p state p₁ ⟨hf, hd, hst⟩ => ?_
  cases hcheck : checkHardBlock state with
  | some result => rintro _ ⟨⟩
  | none =>
    intro state' hpassed
    have hle := ((corridorLayer_ends ht p₁).passed state' hpassed).1
    rw [← hd]
    by_cases hm : 0 < t.thresholdModifier
    · rw [← hst hm, (ht signal rfl).1]
      exact hle
    · -- a modifier that blocks leaves only a clean signal here
      rw [Arbiter.decidedWith_of_nonpos (not_lt.mp hm)] at hd
      by_cases hclean : signal.isClean = true
      · rw [hd, if_pos hclean, (ht signal rfl).1]
        exact (hf.le _).trans hle
      · simp [hd, hclean, checkHardBlock] at hcheck

end Layers

/-! ### The way out -/

section Settle

variable {t : Turn} {signal : GovernanceSignal} {mem : SessionMemory}

/-- The state that the memory signal raises `current` to. -/
def raised (thresholds : Thresholds) (current : SecurityState) (state : MemoryState) :
    SecurityState :=
  targetState thresholds current (memorySeverity state) (memoryConfidence state)

/-- What the way out leaves when the memory becomes `mem`. -/
structure Settled (t : Turn) (outcome : LayerOutcome) (mem : SessionMemory) (p : Pipeline)
    (result : EnforcementResult) (p' : Pipeline) : Prop where
  kept : Kept p p'
  verdictLedger : p'.verdictLedger = p.verdictLedger
  sessionMemories : p'.sessionMemories = p.sessionMemories.insert t.sessionId mem
  blocked : ∀ r, outcome = .blocked r →
    result = r ∧ p'.currentState t.sessionId = p.currentState t.sessionId
  passed : ∀ state, outcome = .passed state →
    result = enforcementResult (Arbiter.applyMemoryFloor mem.memoryState state) t.content ∧
    p'.currentState t.sessionId =
      if state < Arbiter.applyMemoryFloor mem.memoryState state then
        raised p.arbiter.config.thresholds (p.currentState t.sessionId) mem.memoryState
      else p.currentState t.sessionId

lemma ingestToMemory_of_lookup {sessionId : Str} {classification : RequestClassification}
    (hmem : p.sessionMemories.lookup sessionId = some mem) :
    result (ingestToMemory env sessionId (some signal) classification) p =
      (some (mem.ingestSignal env.now signal classification p.memoryConfig).1,
        { p with sessionMemories := p.sessionMemories.insert sessionId
                  (mem.ingestSignal env.now signal classification p.memoryConfig).2 }) := by
  simp only [ingestToMemory, result_modifyGet, hmem]

lemma applyFloor_meets {state : SecurityState} {verdict : MemoryVerdict} :
    Meets (applyFloor P env t state verdict) fun p r p' => Framed p p' ∧
      r = enforcementResult (Arbiter.applyMemoryFloor verdict.state state) t.content ∧
      p'.currentState t.sessionId =
        if state < Arbiter.applyMemoryFloor verdict.state state then
          raised p.arbiter.config.thresholds (p.currentState t.sessionId) verdict.state
        else p.currentState t.sessionId := by
  unfold applyFloor
  dsimp only
  split
  · refine buildMemorySignal_meets.then fun p signal p₁ ⟨hf, harb, hsid, hsev, hconf⟩ => ?_
    obtain ⟨hf', hst⟩ := (process_meets : Meets (process P (env.part 1) signal) _) p₁
    refine ⟨hf.trans hf', rfl, ?_⟩
    rw [hsid, harb, Arbiter.decided, hsid, hsev, hconf] at hst
    exact hst
  · exact Meets.pure fun p => ⟨.refl p, rfl, rfl⟩

variable (P env t signal) in
/-- The way out of a call whose layers gave a signal. -/
theorem settle_settled (outcome : LayerOutcome)
    (hmem : p.sessionMemories.lookup t.sessionId = some mem) :
    Settled t outcome
      (mem.ingestSignal (env.part 0).now signal t.classification p.memoryConfig).2 p
      (result (settle P env t outcome (some signal)) p).1
      (result (settle P env t outcome (some signal)) p).2 := by
  unfold settle
  rw [result_bind, ingestToMemory_of_lookup hmem]
  set mem' := (mem.ingestSignal (env.part 0).now signal t.classification p.memoryConfig).2
  have hkept : Kept p { p with sessionMemories := p.sessionMemories.insert t.sessionId mem' } :=
    ⟨rfl, rfl, rfl, rfl, fun _ => le_rfl⟩
  cases outcome with
  | blocked r => exact ⟨hkept, rfl, rfl, by rintro _ ⟨⟩; exact ⟨rfl, rfl⟩, by rintro _ ⟨⟩⟩
  | passed state =>
    obtain ⟨hf, hr, hst⟩ := (applyFloor_meets : Meets (applyFloor P (env.part 1) t state
      (mem.ingestSignal (env.part 0).now signal t.classification p.memoryConfig).1) _)
      { p with sessionMemories := p.sessionMemories.insert t.sessionId mem' }
    exact ⟨hkept.trans hf.toKept, hf.verdictLedger, hf.sessionMemories, by rintro _ ⟨⟩,
      by rintro _ ⟨⟩; exact ⟨hr, hst⟩⟩

end Settle

/-! ### Whole calls -/

section Calls

variable {t : Turn} {modelOutput userInput sessionId : Str} {modifier : ℚ}
  {highest : Option GovernanceSignal} {mem : SessionMemory} {envelope : ModelContextEnvelope}
  {govTxId : Str}

/-- A call on a session has begun: the session has a memory, the other memories stay, and the
modifier blocks only a session that was locked before. -/
structure Begun (sessionId : Str) (p : Pipeline) (modifier : ℚ) (p' : Pipeline) : Prop where
  kept : Kept p p'
  verdictLedger : p'.verdictLedger = p.verdictLedger
  others : ∀ sid, sid ≠ sessionId → p'.sessionMemories.lookup sid = p.sessionMemories.lookup sid
  memory : ∃ mem, p'.sessionMemories.lookup sessionId = some mem
  modifier_le : modifier ≤ 1
  locked : modifier ≤ 0 →
    ∃ mem, p.sessionMemories.lookup sessionId = some mem ∧ mem.memoryState = .locked

lemma Begun.framed {q : Pipeline} (h : Begun sessionId p modifier p') (hf : Framed p' q) :
    Begun sessionId p modifier q where
  kept := h.kept.trans hf.toKept
  verdictLedger := hf.verdictLedger.trans h.verdictLedger
  others sid hsid := by rw [hf.sessionMemories, h.others sid hsid]
  memory := by rw [hf.sessionMemories]; exact h.memory
  modifier_le := h.modifier_le
  locked := h.locked

lemma initSessionMemory_begun :
    Meets (initSessionMemory env sessionId) (Begun sessionId) := by
  refine Meets.modifyGet fun p => ?_
  cases hmem : p.sessionMemories.lookup sessionId with
  | some mem =>
    exact
      { kept := .refl p
        verdictLedger := rfl
        others := fun _ _ => rfl
        memory := ⟨mem, hmem⟩
        modifier_le := SessionMemory.thresholdModifier_le_one
        locked := fun h => ⟨mem, hmem, SessionMemory.thresholdModifier_nonpos.mp h⟩ }
  | none =>
    have hadvice := StrategicMemory.adviseSessionStart_modifier sessionId p.strategicMemory
    exact
      { kept := ⟨rfl, rfl, rfl, rfl, fun _ => le_rfl⟩
        verdictLedger := rfl
        others := fun _ hsid => Finmap.lookup_insert_of_ne _ hsid
        memory := ⟨_, Finmap.lookup_insert _⟩
        modifier_le := hadvice.2
        locked := fun h => absurd hadvice.1 (not_lt.mpr h) }

lemma inspectSegments_meets {segments : List ContextSegment} {k : ℕ}
    (ht : Tracks sessionId highest) :
    Meets (inspectSegments P env sessionId segments k highest) fun p h p' =>
      Framed p p' ∧ Tracks sessionId h := by
  induction segments generalizing k highest with
  | nil => exact Meets.pure fun p => ⟨.refl p, ht⟩
  | cons segment rest ih =>
    refine inspect_meets.then fun p s p₁ ⟨hf, hrep⟩ => ?_
    obtain ⟨hf', ht'⟩ := ih (k := k + 1) (ht.trackHighest hrep) p₁
    exact ⟨hf.trans hf', ht'⟩

lemma tracks_some {s : GovernanceSignal} (h : Reports sessionId .inbound s) :
    Tracks sessionId (some s) := by
  rintro _ ⟨⟩
  exact h

lemma inboundTurn_begun : Meets (inboundTurn P env userInput sessionId) fun p r p' =>
    Begun sessionId p r.1.thresholdModifier p' ∧ r.1.sessionId = sessionId ∧
      Tracks sessionId (some r.2) := by
  refine initSessionMemory_begun.then fun p m p₁ hb => ?_
  obtain ⟨hf, hrep⟩ := (inspect_meets :
    Meets (inspect P (env.part 1) userInput .inbound sessionId) _) p₁
  exact ⟨hb.framed hf, rfl, tracks_some hrep⟩

lemma contextTurn_begun : Meets (contextTurn P env envelope) fun p r p' =>
    Begun envelope.sessionId p r.1.thresholdModifier p' ∧ r.1.sessionId = envelope.sessionId ∧
      Tracks envelope.sessionId r.2 := by
  refine initSessionMemory_begun.then fun p m p₁ hb => ?_
  obtain ⟨hf, ht⟩ := (inspectSegments_meets fun s (h : none = some s) => nomatch h :
    Meets (inspectSegments P (env.part 1) envelope.sessionId
      envelope.segmentsRequiringInspection 0 none) _) p₁
  exact ⟨hb.framed hf, rfl, ht⟩

variable (P env) in
/-- **The middle of an inbound call**: the layers, then the way out with the signal they
tracked. -/
theorem govern_settled (ht : Tracks t.sessionId highest)
    (hmem : p.sessionMemories.lookup t.sessionId = some mem) :
    let r := result (layers P (env.part 0) t highest) p
    Ends t p r.1 r.2 ∧ (result (govern P env t highest) p).1.2 = r.1.2 ∧
      ∃ signal, r.1.2 = some signal ∧
        Settled t r.1.1 (mem.ingestSignal ((env.part 1).part 0).now signal t.classification
            p.memoryConfig).2 r.2
          (result (govern P env t highest) p).1.1 (result (govern P env t highest) p).2 := by
  intro r
  have hends : Ends t p r.1 r.2 := layers_ends ht p
  obtain ⟨signal, hsignal⟩ := Option.isSome_iff_exists.mp hends.isSome
  have hmem' : r.2.sessionMemories.lookup t.sessionId = some mem := by
    rw [hends.framed.sessionMemories, hmem]
  have hset := settle_settled P (env.part 1) t signal r.1.1 hmem'
  rw [hends.framed.memoryConfig, ← hsignal] at hset
  exact ⟨hends, rfl, signal, hsignal, hset⟩

variable (P env) in
lemma govern_kept (ht : Tracks t.sessionId highest)
    (hmem : ∃ mem, p.sessionMemories.lookup t.sessionId = some mem) :
    Kept p (result (govern P env t highest) p).2 ∧
      (result (govern P env t highest) p).2.verdictLedger = p.verdictLedger ∧
      Tracks t.sessionId (result (govern P env t highest) p).1.2 ∧
      ∃ signal, (result (govern P env t highest) p).1.2 = some signal := by
  obtain ⟨mem, hmem⟩ := hmem
  obtain ⟨hends, hhigh, signal, hsignal, hset⟩ := govern_settled P env ht hmem
  exact ⟨hends.framed.toKept.trans hset.kept,
    hset.verdictLedger.trans hends.framed.verdictLedger, hhigh ▸ hends.tracks,
    signal, hhigh.trans hsignal⟩

/-- A call that keeps everything but the approvals, and only adds those that `added` allows. -/
structure Called (added : VerdictRecord → Prop) (p p' : Pipeline) : Prop extends Kept p p' where
  recorded : ∀ id r, p'.verdictLedger.verdicts.lookup id = some r →
    p.verdictLedger.verdicts.lookup id = some r ∨ added r

lemma Called.of_kept {added : VerdictRecord → Prop} (h : Kept p p')
    (hl : p'.verdictLedger = p.verdictLedger) : Called added p p' where
  toKept := h
  recorded _ _ hr := .inl (hl ▸ hr)

lemma recordApproval_called (env : Supply) (govTxId : Str) (signal : GovernanceSignal)
    (contextHash runId : Option Str) {q : Pipeline} (h : Kept p q)
    (hl : q.verdictLedger = p.verdictLedger) :
    Called (fun r => r.contextHash = contextHash ∧ r.runId = runId ∧
      r.sessionId = signal.sessionId) p
      (result (recordApproval env govTxId signal contextHash runId) q).2 where
  toKept := h.trans ⟨rfl, rfl, rfl, rfl, fun _ => le_rfl⟩
  recorded id r hr := by
    rcases VerdictLedger.lookup_recordFinalApprovedInner hr with rfl | hold
    · exact .inr ⟨rfl, rfl, rfl⟩
    · exact .inl (hl ▸ hold)

variable (P env userInput sessionId govTxId) in
/-- A plain text is approved without a context. -/
theorem inbound_called : Meets (inbound P env userInput sessionId govTxId) fun p _ p' =>
    Called (fun r => r.contextHash = none) p p' := by
  refine inboundTurn_begun.then fun p ⟨t, signal⟩ p₁ ⟨hb, hsid, ht⟩ => ?_
  dsimp only at hb hsid ht ⊢
  subst hsid
  obtain ⟨hk, hl, -, -⟩ := govern_kept P (env.part 1) ht hb.memory
  rw [result_bind]
  split
  · have hcall := recordApproval_called (env.part 2) govTxId signal none none (hb.kept.trans hk)
      (hl.trans hb.verdictLedger)
    exact ⟨hcall.toKept, fun id r hr => (hcall.recorded id r hr).imp_right And.left⟩
  · exact .of_kept (hb.kept.trans hk) (hl.trans hb.verdictLedger)

lemma exists_approved {r : EnforcementResult} (h : r.isApproved = true) :
    ∃ content, r = .approved content := by
  cases r <;> simp [EnforcementResult.isApproved] at h ⊢

variable (P env envelope govTxId) in
/-- A context is approved under its hash, for its session and run, and only by the answer
`Approved`. -/
theorem inboundContext_called : Meets (inboundContext P env envelope govTxId) fun p answer p' =>
    Called (fun r => (∃ content, answer = .ok (.approved content)) ∧
      r.contextHash = some envelope.contextHash ∧ r.runId = some envelope.runId ∧
      r.sessionId = envelope.sessionId) p p' := by
  unfold inboundContext
  split
  · exact Meets.pure fun p => .of_kept (.refl p) rfl
  · refine contextTurn_begun.then fun p ⟨t, highest⟩ p₁ ⟨hb, hsid, ht⟩ => ?_
    dsimp only at hb hsid ht ⊢
    rw [← hsid] at hb ht
    obtain ⟨hk, hl, htracks, signal, hsignal⟩ := govern_kept P (env.part 1) ht hb.memory
    rw [result_bind]
    split
    · next happ =>
      obtain ⟨content, hcontent⟩ := exists_approved happ
      have hcall := recordApproval_called (env.part 3) govTxId
        ((result (govern P (env.part 1) t highest) p₁).1.2.getD
          (contextSignal (env.part 2) envelope.sessionId envelope.contextHash))
        (some envelope.contextHash) (some envelope.runId)
        (hb.kept.trans hk) (hl.trans hb.verdictLedger)
      refine ⟨hcall.toKept, fun id r hr => (hcall.recorded id r hr).imp_right fun h => ?_⟩
      refine ⟨⟨content, congrArg Except.ok hcontent⟩, h.1, h.2.1, h.2.2.trans ?_⟩
      rw [hsignal, Option.getD_some, (htracks signal hsignal).1, hsid]
    · exact .of_kept (hb.kept.trans hk) (hl.trans hb.verdictLedger)

/-! ### Outbound calls -/

lemma processWithModifier_along {signal : GovernanceSignal} :
    Along Framed (processWithModifier P env signal modifier) :=
  processWithModifier_meets.imp fun _ _ _ h => h.1

lemma arbitrate_along {signal : GovernanceSignal} {next : StateM Pipeline EnforcementResult}
    (hn : Along Framed next) : Along Framed (arbitrate P env signal modifier id next) := by
  refine Meets.then processWithModifier_along fun p state p₁ hf => ?_
  cases checkHardBlock state with
  | some r => exact hf
  | none => exact hf.trans (hn p₁)

lemma Along.of_meets {α : Type} {m : StateM Pipeline α} {Q : α → Prop}
    (h : Meets m fun p a p' => Framed p p' ∧ Q a) : Along Framed m := h.imp fun _ _ _ => And.left

variable (P env modelOutput sessionId) in
/-- **An outbound call** leaves memories and approvals alone and lowers no state. -/
theorem outbound_along : Along Framed (outbound P env modelOutput sessionId) :=
  Along.get.bind fun _ => (Along.of_meets corridorEvaluate_meets).bind fun _ =>
    arbitrate_along <| (Along.of_meets overwatchEvaluate_meets).bind fun _ =>
      arbitrate_along <| (Along.of_meets oimObserve_meets).bind fun _ =>
        arbitrate_along <| (Along.of_meets inspect_meets).bind fun _ =>
          processWithModifier_along.bind fun _ => Along.pure _

end Calls

end GovSec.Pipeline
