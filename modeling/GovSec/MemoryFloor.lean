import GovSec.LockedSessions

/-!
The floor that a session's memory sets for the arbiter. Every way out of an inbound call takes
a signal into the memory, and only the last one then raises the arbiter to the floor. A bound on
the threat says when the others may do without.
-/

namespace GovSec

open GovSec.Lib.Text GovSec.Lib.Maps GovSec.Lib.Actions GovSec.Lib.Runs

/-! ### The threat of one more signal -/

/-- The thresholds in their order. -/
structure MemoryConfig.Ordered (c : MemoryConfig) : Prop where
  elevated_le_escalated : c.elevatedThreshold ≤ c.escalatedThreshold
  escalated_le_locked : c.escalatedThreshold ≤ c.lockedThreshold

lemma MemoryConfig.default_ordered : MemoryConfig.default.Ordered := by
  constructor <;> norm_num [MemoryConfig.default]

namespace SessionMemory

variable {now : DateTime} {signal : GovernanceSignal} {classification : RequestClassification}
  {config : MemoryConfig} {m : SessionMemory} {threat : ℚ}

/-- The threat that the memory accumulates with one more signal. -/
def threatWith (signal : GovernanceSignal) (classification : RequestClassification)
    (config : MemoryConfig) (m : SessionMemory) : ℚ :=
  m.cumulativeThreat * config.decayFactor +
    signalWeight signal classification config (countPattern classification m) +
    threatAmplifier signal.violationClass

/-- A clear memory that becomes `Elevated` by its velocity, whatever the threat. -/
def Jumps (config : MemoryConfig) (threat : ℚ) (m : SessionMemory) : Prop :=
  m.memoryState = .clear ∧ 2 ≤ m.turnCount ∧
    config.velocityTrigger < threat / ((m.turnCount + 1 : ℕ) : ℚ)

instance : Decidable (m.Jumps config threat) := inferInstanceAs (Decidable (_ ∧ _ ∧ _))

@[simp] lemma countPattern_memoryState :
    (countPattern classification m).memoryState = m.memoryState := by cases classification <;> rfl
@[simp] lemma countPattern_turnCount :
    (countPattern classification m).turnCount = m.turnCount := by cases classification <;> rfl
@[simp] lemma countPattern_cumulativeThreat :
    (countPattern classification m).cumulativeThreat = m.cumulativeThreat := by
  cases classification <;> rfl

/-- The weight of a signal does not depend on the turns. -/
lemma signalWeight_recordTurn :
    signalWeight signal classification config
        (countPattern classification (recordTurn now signal classification m)) =
      signalWeight signal classification config (countPattern classification m) := by
  cases classification <;> rfl

/-- The memory state after one more signal, by the threat it brings. -/
lemma ingestSignal_memoryState :
    (ingestSignal now signal classification config m).2.memoryState =
      if m.Jumps config (m.threatWith signal classification config) then .elevated
      else if config.lockedThreshold ≤ m.threatWith signal classification config then .locked
      else if config.escalatedThreshold ≤ m.threatWith signal classification config then .escalated
      else if config.elevatedThreshold ≤ m.threatWith signal classification config then .elevated
      else if config.watchingThreshold ≤ m.threatWith signal classification config then .watching
      else .clear := by
  simp only [ingestSignal, recordEscalation_memoryState, computeState, accumulate,
    signalWeight_recordTurn, countPattern_memoryState, countPattern_turnCount,
    countPattern_cumulativeThreat]
  refine if_congr ?_ rfl rfl
  have hturn : (recordTurn now signal classification m).turnCount = m.turnCount + 1 := rfl
  rw [hturn]
  constructor
  · rintro ⟨hv, hthree, hclear⟩
    rw [if_pos (by omega)] at hv
    exact ⟨hclear, by omega, hv⟩
  · rintro ⟨hclear, htwo, hv⟩
    rw [if_pos (by omega)]
    exact ⟨hv, by omega, hclear⟩

/-! ### The bound on the threat -/

/-- The threat `threat` leaves the memory without a floor above `state`. -/
def StaysBelow (config : MemoryConfig) (threat : ℚ) (m : SessionMemory) : SecurityState → Prop
  | .S1 => ¬ m.Jumps config threat ∧ threat < config.elevatedThreshold
  | .S2 => m.Jumps config threat ∨ threat < config.escalatedThreshold
  | .S3 => m.Jumps config threat ∨ threat < config.lockedThreshold
  | .S4 => True

/-- The threat `threat` makes the memory `Elevated`. -/
def Elevates (config : MemoryConfig) (threat : ℚ) (m : SessionMemory) : Prop :=
  m.Jumps config threat ∨
    config.elevatedThreshold ≤ threat ∧ threat < config.escalatedThreshold

/-- **The floor after a signal** is at most `state` exactly when the threat stays below the
bound of `state`. -/
theorem floor_le_iff (hc : config.Ordered) (state : SecurityState) :
    (∀ floor ∈ Arbiter.memoryFloor
        (ingestSignal now signal classification config m).2.memoryState, floor ≤ state) ↔
      m.StaysBelow config (m.threatWith signal classification config) state := by
  obtain ⟨h₁, h₂⟩ := hc
  rw [ingestSignal_memoryState]
  generalize m.threatWith signal classification config = threat
  -- in every branch the floor is known, and what is left compares the threat with a threshold
  split_ifs with hj hl he hel hw <;> cases state <;> simp +decide [StaysBelow, hj] <;> linarith

lemma ingestSignal_elevated_iff (hc : config.Ordered) :
    (ingestSignal now signal classification config m).2.memoryState = .elevated ↔
      m.Elevates config (m.threatWith signal classification config) := by
  obtain ⟨h₁, h₂⟩ := hc
  rw [ingestSignal_memoryState]
  generalize m.threatWith signal classification config = threat
  unfold Elevates
  split_ifs with hj hl he he' hw <;> simp [*] <;> intros <;> linarith

end SessionMemory

/-! ### The last way out -/

/-- The profiles that ship. -/
def ArbiterConfig.profiles : List ArbiterConfig := [.default, .medical, .defense]

namespace Pipeline

variable {P : Platform} {env : Supply} {p p' : Pipeline} {t : Turn} {mem : SessionMemory}

/-- The signal of a floor raises the arbiter to it, but for the medical profile in `S1`: its
thresholds are above the confidence of an elevated memory. -/
lemma floor_le_raised {config : ArbiterConfig} (hc : config ∈ ArbiterConfig.profiles)
    (state : SecurityState) (memoryState : MemoryState) :
    (∀ floor ∈ Arbiter.memoryFloor memoryState, floor ≤
      if state < Arbiter.applyMemoryFloor memoryState state then
        raised config.thresholds state memoryState
      else state) ↔ ¬ (config = .medical ∧ state = .S1 ∧ memoryState = .elevated) := by
  revert config
  cases state <;> cases memoryState <;> decide +kernel

/-! ### One call -/

/-- The arbiter has the session at least at the floor of its memory. -/
def FloorMet (p : Pipeline) (sessionId : Str) : Prop :=
  ∀ mem ∈ p.sessionMemories.lookup sessionId, ∀ floor ∈ Arbiter.memoryFloor mem.memoryState,
    floor ≤ p.currentState sessionId

instance (sessionId : Str) : Decidable (p.FloorMet sessionId) :=
  inferInstanceAs (Decidable (∀ mem ∈ _, ∀ floor ∈ _, _))

lemma FloorMet.of_le {sessionId : Str} (h : p.FloorMet sessionId)
    (hmem : p'.sessionMemories.lookup sessionId = p.sessionMemories.lookup sessionId)
    (hle : p.currentState sessionId ≤ p'.currentState sessionId) : p'.FloorMet sessionId := by
  intro mem hm floor hfloor
  rw [hmem] at hm
  exact (h mem hm floor hfloor).trans hle

/-- When the layers of a call end early, the highest signal leaves the threat below the bound
of the arbiter's state. When they pass in `S1` under the medical profile, it does not make the
memory `Elevated`. -/
def KeepsFloor (P : Platform) (env : Supply) (t : Turn) (highest : Option GovernanceSignal)
    (p : Pipeline) : Prop :=
  let r := result (layers P (env.part 0) t highest) p
  ∀ mem ∈ p.sessionMemories.lookup t.sessionId, ∀ signal ∈ r.1.2,
    let threat := mem.threatWith signal t.classification p.memoryConfig
    match r.1.1 with
    | .blocked _ => mem.StaysBelow p.memoryConfig threat (r.2.currentState t.sessionId)
    | .passed state =>
      ¬ (p.arbiter.config = .medical ∧ state = .S1 ∧ mem.Elevates p.memoryConfig threat)

/-- Under a modifier that does not block, the floor is met after the way out exactly when the
layers kept it. -/
lemma govern_floorMet_iff {highest : Option GovernanceSignal} (ht : Tracks t.sessionId highest)
    (hmem : p.sessionMemories.lookup t.sessionId = some mem)
    (hlocked : t.thresholdModifier ≤ 0 → p.MemoryLocked t.sessionId)
    (hconfig : p.arbiter.config ∈ ArbiterConfig.profiles) (hordered : p.memoryConfig.Ordered) :
    (result (govern P env t highest) p).2.FloorMet t.sessionId ↔ KeepsFloor P env t highest p := by
  obtain ⟨hends, -, signal, hsignal, hset⟩ := govern_settled P env ht hmem
  unfold KeepsFloor FloorMet
  dsimp only
  rw [hset.sessionMemories, Finmap.lookup_insert, hmem, hsignal]
  simp only [Option.mem_def, Option.some.injEq, forall_eq']
  cases hout : (result (layers P (env.part 0) t highest) p).1.1 with
  | blocked r =>
    rw [(hset.blocked r hout).2]
    exact SessionMemory.floor_le_iff hordered _
  | passed state =>
    have hpos : 0 < t.thresholdModifier := modifier_pos_of_passed hlocked hout
    rw [(hset.passed state hout).2, (hends.passed state hout).2 hpos,
      hends.framed.config, ← SessionMemory.ingestSignal_elevated_iff hordered]
    exact floor_le_raised hconfig state _

section Calls

variable {userInput sessionId govTxId sid : Str} {envelope : ModelContextEnvelope}
  {highest : Option GovernanceSignal}

lemma FloorMet.congr (hmem : p'.sessionMemories = p.sessionMemories)
    (hstates : p'.arbiter.sessionStates = p.arbiter.sessionStates) :
    p'.FloorMet sid ↔ p.FloorMet sid := by
  unfold FloorMet currentState Arbiter.currentState
  rw [hmem, hstates]

/-- The middle of a call leaves the memories of the other sessions. -/
lemma govern_others (ht : Tracks t.sessionId highest)
    (hmem : ∃ mem, p.sessionMemories.lookup t.sessionId = some mem) (hsid : sid ≠ t.sessionId) :
    (result (govern P env t highest) p).2.sessionMemories.lookup sid =
      p.sessionMemories.lookup sid := by
  obtain ⟨mem, hmem⟩ := hmem
  obtain ⟨hends, -, signal, -, hset⟩ := govern_settled P env ht hmem
  rw [hset.sessionMemories, Finmap.lookup_insert_of_ne _ hsid, hends.framed.sessionMemories]

/-- A call that has begun on a locked session began on it. -/
lemma Begun.memoryLocked {modifier : ℚ} (hb : Begun sessionId p modifier p')
    (hm : modifier ≤ 0) : p.MemoryLocked sessionId :=
  Option.map_eq_some_iff.mpr (hb.locked hm)

/-- What a call that leaves the state of the layers leaves: every floor of another session, and
the one of its own session exactly when the layers kept it. -/
lemma FloorMet.of_govern {q : Pipeline} {modifier : ℚ} (hb : Begun t.sessionId p modifier p')
    (hmodifier : t.thresholdModifier = modifier) (ht : Tracks t.sessionId highest)
    (hlocked : p.MemoryLocked t.sessionId → p'.MemoryLocked t.sessionId)
    (hmem : q.sessionMemories = (result (govern P env t highest) p').2.sessionMemories)
    (harb : q.arbiter = (result (govern P env t highest) p').2.arbiter)
    (hconfig : p.arbiter.config ∈ ArbiterConfig.profiles) (hordered : p.memoryConfig.Ordered) :
    (q.FloorMet t.sessionId ↔ KeepsFloor P env t highest p') ∧
      ∀ sid, sid ≠ t.sessionId → p.FloorMet sid → q.FloorMet sid := by
  obtain ⟨mem, hstored⟩ := hb.memory
  constructor
  · rw [FloorMet.congr hmem (congrArg (·.sessionStates) harb)]
    refine govern_floorMet_iff ht hstored (fun hm => hlocked ?_) ?_ ?_
    · exact hb.memoryLocked (hmodifier ▸ hm)
    · rwa [hb.kept.config]
    · rwa [hb.kept.memoryConfig]
  · intro sid hsid hmet
    rw [FloorMet.congr hmem (congrArg (·.sessionStates) harb)]
    refine hmet.of_le ?_ ?_
    · rw [govern_others ht hb.memory hsid, hb.others sid hsid]
    · exact (hb.kept.le sid).trans ((govern_kept P env ht hb.memory).1.le sid)

end Calls

/-! ### Runs -/

/-- After an inbound call the floor of its session is met. -/
def FloorAfter (P : Platform) (p : Pipeline) (op : Op) : Prop :=
  match op with
  | .inbound _ _ sessionId _ => (step P p op).2.FloorMet sessionId
  | .inboundContext _ envelope _ => (step P p op).2.FloorMet envelope.sessionId
  | _ => True

/-- The layers of an inbound call keep the floor; a malformed context reaches none. -/
def FloorKept (P : Platform) (p : Pipeline) (op : Op) : Prop :=
  match op with
  | .inbound env userInput sessionId _ =>
    let r := result (inboundTurn P (env.part 0) userInput sessionId) p
    KeepsFloor P (env.part 1) r.1.1 (trackHighest r.1.2 none) r.2
  | .inboundContext env envelope _ =>
    let r := result (contextTurn P (env.part 0) envelope) p
    envelope.verify P = .ok () → KeepsFloor P (env.part 1) r.1.1 r.1.2 r.2
  | _ => True

/-- Every floor is met, under a profile and thresholds in their order. -/
structure FloorInv (p : Pipeline) : Prop where
  met : ∀ sid, p.FloorMet sid
  config : p.arbiter.config ∈ ArbiterConfig.profiles
  memoryConfig : p.memoryConfig.Ordered

section Step

variable {userInput sessionId govTxId sid : Str} {envelope : ModelContextEnvelope}

/-- A plain call meets the floor of its session exactly when its layers keep it, and leaves the
other sessions at theirs. -/
lemma inbound_floorMet (h : FloorInv p) :
    ((result (inbound P env userInput sessionId govTxId) p).2.FloorMet sessionId ↔
        FloorKept P p (.inbound env userInput sessionId govTxId)) ∧
      ∀ sid, sid ≠ sessionId →
        (result (inbound P env userInput sessionId govTxId) p).2.FloorMet sid := by
  obtain ⟨hb, -, ht⟩ : _ ∧ _ ∧ _ :=
    (inboundTurn_begun : Meets (inboundTurn P (env.part 0) userInput sessionId) _) p
  obtain ⟨hiff, hothers⟩ := FloorMet.of_govern
    (t := (result (inboundTurn P (env.part 0) userInput sessionId) p).1.1) hb rfl ht
    inboundTurn_locked inbound_after.2.1 inbound_after.2.2 h.config h.memoryConfig
  exact ⟨hiff, fun sid hsid => hothers sid hsid (h.met sid)⟩

/-- So does a call on a context, and a malformed one changes nothing. -/
lemma inboundContext_floorMet (h : FloorInv p) :
    ((result (inboundContext P env envelope govTxId) p).2.FloorMet envelope.sessionId ↔
        FloorKept P p (.inboundContext env envelope govTxId)) ∧
      ∀ sid, sid ≠ envelope.sessionId →
        (result (inboundContext P env envelope govTxId) p).2.FloorMet sid := by
  cases hv : envelope.verify P with
  | error e =>
    have hsame : (result (inboundContext P env envelope govTxId) p).2 = p := by
      unfold inboundContext
      rw [hv]
      rfl
    rw [hsame]
    refine ⟨iff_of_true (h.met _) fun hok => ?_, fun sid _ => h.met sid⟩
    rw [hv] at hok
    cases hok
  | ok _ =>
    obtain ⟨hb, -, ht⟩ : _ ∧ _ ∧ _ :=
      (contextTurn_begun : Meets (contextTurn P (env.part 0) envelope) _) p
    obtain ⟨hiff, hothers⟩ := FloorMet.of_govern
      (t := (result (contextTurn P (env.part 0) envelope) p).1.1) hb rfl ht
      contextTurn_locked (inboundContext_after hv).2.1 (inboundContext_after hv).2.2 h.config
      h.memoryConfig
    refine ⟨hiff.trans ⟨fun hk _ => hk, fun hk => hk hv⟩, fun sid hsid => ?_⟩
    exact hothers sid hsid (h.met sid)

lemma floorAfter_iff (op : Op) (h : FloorInv p) : FloorAfter P p op ↔ FloorKept P p op := by
  cases op with
  | inbound env userInput sessionId govTxId => exact (inbound_floorMet h).1
  | inboundContext env envelope govTxId => exact (inboundContext_floorMet h).1
  | _ => exact Iff.rfl

/-- A session without a memory has no floor. -/
lemma floorMet_of_lookup (h : p.sessionMemories.lookup sid = none) : p.FloorMet sid := by
  intro mem hmem
  rw [h] at hmem
  cases hmem

/-- An operation on one session leaves the floors of the others. -/
lemma FloorMet.of_others (h : p.FloorMet sid)
    (hmem : p'.sessionMemories.lookup sid = p.sessionMemories.lookup sid)
    (hstates : p'.arbiter.sessionStates.lookup sid = p.arbiter.sessionStates.lookup sid) :
    p'.FloorMet sid := by
  refine h.of_le hmem (le_of_eq ?_)
  unfold currentState Arbiter.currentState
  rw [hstates]

lemma endSession_floorMet (h : FloorInv p) (diskWrites : Bool) (actorId : Str) :
    (result (endSession env diskWrites sessionId actorId) p).2.FloorMet sid := by
  by_cases hsid : sid = sessionId
  · subst hsid
    exact floorMet_of_lookup (Finmap.lookup_erase _ _)
  · exact (h.met sid).of_others (Finmap.lookup_erase_ne hsid) (Finmap.lookup_erase_ne hsid)

/-- A reset lowers the session whose memory it erases, and a denied one none. -/
lemma operatorReset_floorMet (h : FloorInv p) (operatorToken : Str) :
    (result (operatorReset P env sessionId operatorToken) p).2.FloorMet sid := by
  unfold operatorReset Arbiter.operatorResetSession
  rw [result_modifyGet]
  cases p.arbiter.resetAuthority with
  | none => exact h.met sid
  | some authority =>
    dsimp only
    cases authority.verify operatorToken with
    | false => exact h.met sid
    | true =>
      by_cases hsid : sid = sessionId
      · subst hsid
        exact floorMet_of_lookup (Finmap.lookup_erase _ _)
      · refine (h.met sid).of_others (Finmap.lookup_erase_ne hsid) ?_
        show (modifyAt p.arbiter.sessionStates sessionId _).lookup sid = _
        rw [lookup_modifyAt, if_neg hsid]

/-- **The invariant.** A call that meets the floor of its session keeps every floor met. -/
theorem FloorInv.step {op : Op} (h : FloorInv p) (ha : FloorAfter P p op) :
    FloorInv (step P p op).2 := by
  have hs := step_stepped (P := P) (p := p) op
  refine ⟨fun sid => ?_, hs.config ▸ h.config, hs.memoryConfig ▸ h.memoryConfig⟩
  cases op with
  | inbound env userInput sessionId govTxId =>
    by_cases hsid : sid = sessionId
    · exact hsid ▸ ha
    · exact (inbound_floorMet h).2 sid hsid
  | inboundContext env envelope govTxId =>
    by_cases hsid : sid = envelope.sessionId
    · exact hsid ▸ ha
    · exact (inboundContext_floorMet h).2 sid hsid
  | outbound env modelOutput sessionId =>
    have hf := outbound_along P env modelOutput sessionId p
    exact (h.met sid).of_le (by rw [← hf.sessionMemories]; rfl) (hf.le sid)
  | authorizeProviderExecution env req =>
    rcases authorizeProviderExecution_mints (P := P) (p := p) env req with ⟨e, heq⟩ | ⟨id, hm⟩
    · rw [heq]; exact h.met sid
    · rw [hm.step_eq]; exact h.met sid
  | authorizeActionExecution env req =>
    rcases authorizeActionExecution_mints (P := P) (p := p) env req with ⟨e, heq⟩ | ⟨_, _, _, hm⟩
    · rw [heq]; exact h.met sid
    · rw [hm.step_eq]; exact h.met sid
  | endSession env diskWrites sessionId actorId => exact endSession_floorMet h diskWrites actorId
  | operatorReset env sessionId operatorToken => exact operatorReset_floorMet h operatorToken
  | configureOperatorResetAuthority authority =>
    obtain ⟨_, heq⟩ := configureOperatorResetAuthority_snd (p := p) authority
    have heq' : (Pipeline.step P p (.configureOperatorResetAuthority authority)).2 = _ := heq
    rw [heq']
    exact h.met sid
  | preauthorize now sessionId actionClass durationSecs =>
    obtain ⟨_, heq⟩ := withPreauthorized_snd (p := p)
      (p.haap.preauthorize now sessionId actionClass durationSecs)
    have heq' : (Pipeline.step P p (.preauthorize now sessionId actionClass durationSecs)).2 = _ :=
      heq
    rw [heq']
    exact h.met sid
  | consumeProviderCapability | haapEvaluate | registerToken | revokeSession => exact h.met sid

end Step

/-- A new pipeline has no memory. -/
lemma floorInv_new {config : ArbiterConfig} (hconfig : config ∈ ArbiterConfig.profiles)
    (evaluator : Option ConstitutionalEvaluator) (crypto : CryptoEngine)
    (strategicMemory : StrategicMemory) (govmem : GovMem) :
    FloorInv (new config evaluator crypto strategicMemory govmem) where
  met _ := floorMet_of_lookup (Finmap.lookup_empty _)
  config := hconfig
  memoryConfig := MemoryConfig.default_ordered

/-- After two plain turns a poisoned one raises the memory to `Elevated` by its velocity. -/
def risingOps : List Op :=
  [.inbound (fixedSupply 0 1) "hi" "s" "t1", .inbound (fixedSupply 0 2) "hi" "s" "t2",
    .inbound (fixedSupply 0 3) "[system]" "s" "t3"]

end Pipeline

end GovSec
