import GovSec.MemoryLevels
import GovSec.AuditLog

/-!
What a call answers and what the arbiter holds afterwards.

The arbiter answers with the state it stores, unless it blocks a session that it has no entry
for. A call of the pipeline answers with the memory's floor, and the arbiter stores what its
thresholds make of the signal that stands for that floor.
-/

namespace GovSec

open GovSec.Lib.Text GovSec.Lib.Maps GovSec.Lib.Actions GovSec.Lib.Runs

/-! ### One signal -/

lemma SecurityState.text_injective : Function.Injective SecurityState.text := by
  intro a b h
  cases a <;> cases b <;> first | rfl | exact absurd h (by decide)

namespace Arbiter

variable {P : Platform} {env : Supply} {crypto : CryptoEngine} {a b : Arbiter} {sessionId : Str}
  {signal : GovernanceSignal} {modifier : ℚ} {t : Thresholds} {s target : SecurityState}

/-- What `b` has logged beyond `a` is the transition of the session from `s` to `target`, when it
escalates. -/
def Logs (sessionId : Str) (s target : SecurityState) (a b : Arbiter) : Prop :=
  ∃ es, b.auditLog = a.auditLog ++ es ∧
    es.map (fun e => (e.sessionId, e.stateBefore, e.stateAfter)) =
      if s < target then [(sessionId, s.text, target.text)] else []

lemma Logs.of_eq (h : b.auditLog = a.auditLog) (hs : ¬ s < target) :
    Logs sessionId s target a b :=
  ⟨[], by rw [h, List.append_nil], by rw [if_neg hs]; rfl⟩

/-- What an entry of the log says. -/
lemma mem_of_logs {es : List AuditEntry} {e : AuditEntry} (he : e ∈ es)
    (hes : es.map (fun e => (e.sessionId, e.stateBefore, e.stateAfter)) =
      if s < target then [(sessionId, s.text, target.text)] else []) :
    s < target ∧ e.sessionId = sessionId ∧ e.stateAfter = target.text := by
  have hmem := List.mem_map_of_mem (f := fun e : AuditEntry =>
    (e.sessionId, e.stateBefore, e.stateAfter)) he
  rw [hes] at hmem
  split at hmem
  · next hlt =>
    obtain ⟨hsid, -, hafter⟩ : _ ∧ _ ∧ _ := by simpa using hmem
    exact ⟨hlt, hsid, hafter⟩
  · cases hmem

lemma transition_logs (h : s < target) :
    Logs sessionId s target a (transition P env crypto a sessionId s target signal).1 := by
  unfold transition
  rw [if_neg (not_le.mpr h)]
  exact ⟨[_], rfl, by rw [if_pos h]; rfl⟩

lemma processUnder_logs :
    Logs signal.sessionId (a.currentState signal.sessionId) (a.decided t signal) a
      (processUnder P env crypto a t signal).2.1 := by
  have hdec : targetState t (a.currentState signal.sessionId) signal.severity signal.confidence =
      a.decided t signal := rfl
  simp only [processUnder, openSession_currentState, hdec]
  split
  · next hclean => exact .of_eq rfl (by rw [decided_of_clean hclean]; exact lt_irrefl _)
  · split
    · next hlt => exact transition_logs hlt
    · next hge => exact .of_eq rfl hge

/-- **What a call logs**: its escalation, if it has one. -/
theorem processWithModifier_logs :
    Logs signal.sessionId (a.currentState signal.sessionId) (a.decidedWith modifier signal) a
      (processWithModifier P env crypto a signal modifier).2.1 := by
  by_cases hm : modifier ≤ 0
  · rw [decidedWith_of_nonpos hm]
    simp only [processWithModifier, if_pos hm]
    split
    · exact .of_eq rfl (lt_irrefl _)
    · split
      · next hlt => exact transition_logs hlt
      · next hge => exact .of_eq rfl hge
  · by_cases hone : |modifier - 1| < 0.001
    · simp only [processWithModifier, decidedWith, effectiveThresholds, if_neg hm, if_pos hone]
      exact processUnder_logs
    · simp only [processWithModifier, decidedWith, effectiveThresholds, if_neg hm, if_neg hone]
      exact processUnder_logs

/-- The stored state of a session, as the log spells it. -/
def storedText (a : Arbiter) (sessionId : Str) : Option Str :=
  (a.sessionStates.lookup sessionId).map (·.current.text)

lemma storedText_of_known (h : a.Known sessionId) :
    a.storedText sessionId = some (a.currentState sessionId).text := by
  unfold Known at h
  unfold storedText currentState
  cases hl : a.sessionStates.lookup sessionId <;> simp_all

/-- Every entry that `b` has logged beyond `a` names the state that `b` stores for the session. -/
def LogsStored (a b : Arbiter) : Prop :=
  ∃ es, b.auditLog = a.auditLog ++ es ∧ ∀ e ∈ es, b.storedText e.sessionId = some e.stateAfter

/-- The modifier leaves the thresholds on, or the signal is clean, or the arbiter has an entry for
the session. -/
def CanStore (a : Arbiter) (signal : GovernanceSignal) (modifier : ℚ) : Prop :=
  0 < modifier ∨ signal.isClean = true ∨ a.Known signal.sessionId

lemma not_canStore : ¬ CanStore a signal modifier ↔
    modifier ≤ 0 ∧ signal.isClean = false ∧ ¬ a.Known signal.sessionId := by
  simp [CanStore]

/-- The answer is the stored state, as long as the call can store one. -/
lemma processWithModifier_stored (h : CanStore a signal modifier) :
    (processWithModifier P env crypto a signal modifier).2.1.currentState signal.sessionId =
      a.decidedWith modifier signal := by
  rw [processWithModifier_currentState]
  rcases h with h | h | h
  · rw [if_pos ⟨rfl, .inl h⟩]
  · split
    · rfl
    · next hm =>
      have hneg : modifier ≤ 0 := not_lt.mp fun hpos => hm ⟨rfl, .inl hpos⟩
      rw [decidedWith_of_nonpos hneg, if_pos h]
  · rw [if_pos ⟨rfl, .inr h⟩]

/-- The entry of such a call names the stored state. -/
lemma processWithModifier_logsStored (h : CanStore a signal modifier) :
    LogsStored a (processWithModifier P env crypto a signal modifier).2.1 := by
  obtain ⟨es, hes, hmap⟩ : Logs _ _ _ a (processWithModifier P env crypto a signal modifier).2.1 :=
    processWithModifier_logs
  refine ⟨es, hes, fun e he => ?_⟩
  obtain ⟨hlt, hsid, hafter⟩ := mem_of_logs he hmap
  have hknown : 0 < modifier ∨ a.Known signal.sessionId := by
    rcases h with h | h | h
    · exact .inl h
    · -- a clean signal that escalates is not under a blocking modifier
      refine .inl (not_le.mp fun hm => ?_)
      rw [decidedWith_of_nonpos hm, if_pos h] at hlt
      exact lt_irrefl _ hlt
    · exact .inr h
  rw [hsid, hafter, storedText_of_known, processWithModifier_stored h]
  exact processWithModifier_known.mpr (hknown.imp (fun hpos => ⟨rfl, hpos⟩) id)

/-- A blocking modifier logs a lock of a session without an entry, and stores nothing. -/
lemma processWithModifier_not_logsStored (hm : modifier ≤ 0) (hclean : signal.isClean = false)
    (hunknown : ¬ a.Known signal.sessionId) :
    ¬ LogsStored a (processWithModifier P env crypto a signal modifier).2.1 := by
  rintro ⟨es', hes', hstored⟩
  obtain ⟨es, hes, hmap⟩ : Logs _ _ _ a (processWithModifier P env crypto a signal modifier).2.1 :=
    processWithModifier_logs
  obtain rfl : es' = es := List.append_cancel_left (hes'.symm.trans hes)
  rw [decidedWith_of_nonpos hm, hclean, currentState_of_not_known hunknown, if_pos (by decide)]
    at hmap
  obtain ⟨e, rfl, hsid, -⟩ : ∃ e, es' = [e] ∧ e.sessionId = signal.sessionId ∧ _ := by
    simpa [List.map_eq_cons_iff] using hmap
  have hnamed := hstored e (List.mem_singleton.mpr rfl)
  have hunknown' : ¬ (processWithModifier P env crypto a signal modifier).2.1.Known
      signal.sessionId := by
    rw [processWithModifier_known]
    simp [hunknown, not_lt.mpr hm]
  rw [hsid, storedText, Option.map_eq_some_iff] at hnamed
  obtain ⟨stored, hlookup, -⟩ := hnamed
  exact hunknown' (by rw [Known, hlookup]; rfl)

/-- **When the answer and the log are true.** The returned state is the stored one exactly when the
call can store one, and exactly then the entry it logs names the stored state. -/
theorem processWithModifier_stored_iff :
    ((processWithModifier P env crypto a signal modifier).1 =
        (processWithModifier P env crypto a signal modifier).2.1.currentState signal.sessionId ↔
      CanStore a signal modifier) ∧
    (LogsStored a (processWithModifier P env crypto a signal modifier).2.1 ↔
      CanStore a signal modifier) := by
  rw [processWithModifier_fst]
  by_cases h : CanStore a signal modifier
  · exact ⟨iff_of_true (processWithModifier_stored h).symm h,
      iff_of_true (processWithModifier_logsStored h) h⟩
  · obtain ⟨hm, hclean, hunknown⟩ := not_canStore.mp h
    have hdec : a.decidedWith modifier signal = .S4 := by
      rw [decidedWith_of_nonpos hm, hclean]
      rfl
    have hS1 : a.currentState signal.sessionId = .S1 := currentState_of_not_known hunknown
    refine ⟨iff_of_false (fun heq => ?_) h, iff_of_false (fun hlogs => ?_) h⟩
    · rw [hdec, processWithModifier_currentState, if_neg (by simp [hm, hunknown]), hS1] at heq
      cases heq
    · exact processWithModifier_not_logsStored hm hclean hunknown hlogs

/-- **A lock that is answered and logged, and not stored**: a blocking modifier on a session that a
new arbiter does not know. -/
theorem processWithModifier_not_stored :
    let r := processWithModifier silentPlatform (fixedSupply 0 0) ⟨[]⟩ (.new .default)
      (bareSignal .high 0.9) 0
    r.1 ≠ r.2.1.currentState "s" ∧ ¬ LogsStored (.new .default) r.2.1 :=
  ⟨by decide +kernel, processWithModifier_not_logsStored le_rfl (by decide) (by decide)⟩

end Arbiter

/-! ### The signal of a floor -/

/-- Under the thresholds the signal that stands for the memory state raises the arbiter to the
floor of that state, and not above it. -/
def Thresholds.Lands (t : Thresholds) : MemoryState → Prop
  | .elevated => t.medium ≤ 0.82 ∧ 0.82 < t.high
  | .escalated => t.high ≤ 0.90
  | .locked => t.critical ≤ 0.98
  | _ => True

instance (t : Thresholds) (m : MemoryState) : Decidable (t.Lands m) := by
  cases m <;> unfold Thresholds.Lands <;> infer_instance

/-- **The shipped profiles** land on every floor but that of an `Elevated` memory: one falls short
of it and the others go beyond it. -/
theorem lands_iff_of_profile {config : ArbiterConfig} (hc : config ∈ ArbiterConfig.profiles)
    (m : MemoryState) : config.thresholds.Lands m ↔ m ≠ .elevated := by
  revert config
  cases m <;> decide +kernel

namespace Pipeline

variable {P : Platform} {env : Supply} {p : Pipeline} {t : Turn} {mem : SessionMemory}
  {highest : Option GovernanceSignal}

lemma enforcementResult_injective (content : Str) :
    Function.Injective fun state => enforcementResult state content := by
  intro s s' h
  cases s <;> cases s' <;> first | rfl | cases h

lemma raised_eq_floor_iff {t : Thresholds} {state floor : SecurityState} {m : MemoryState}
    (hfloor : Arbiter.memoryFloor m = some floor) (hlt : state < floor) :
    floor = raised t state m ↔ t.Lands m := by
  cases m with
  | clear => cases hfloor
  | watching => cases hfloor
  | elevated | escalated | locked =>
    obtain rfl := Option.some.inj hfloor
    -- the states below the floor, each with the rungs of its severity
    cases state <;> first | exact absurd hlt (by decide) | skip
    all_goals
      simp only [raised, targetState, memorySeverity, memoryConfidence, Thresholds.Lands, raiseToS2,
        raiseToS3]
      grind

/-- The floored state is the one that the arbiter ends up in exactly when its thresholds land on
the floors above the state. -/
lemma applyMemoryFloor_eq_iff {t : Thresholds} {state : SecurityState} {m : MemoryState} :
    (Arbiter.applyMemoryFloor m state =
        if state < Arbiter.applyMemoryFloor m state then raised t state m else state) ↔
      ∀ floor ∈ Arbiter.memoryFloor m, state < floor → t.Lands m := by
  unfold Arbiter.applyMemoryFloor
  cases hfloor : Arbiter.memoryFloor m with
  | none => simp
  | some floor =>
    by_cases hlt : state < floor
    · simp [hlt, raised_eq_floor_iff hfloor hlt]
    · simp [hlt]

/-! ### The answer of a call -/

def LayerOutcome.isPassed : LayerOutcome → Bool
  | passed _ => true
  | blocked _ => false

/-- The layers of a call let it pass, so it runs to its final decision. -/
def Passes (P : Platform) (env : Supply) (t : Turn) (highest : Option GovernanceSignal)
    (p : Pipeline) : Prop :=
  (result (layers P (env.part 0) t highest) p).1.1.isPassed = true

instance : Decidable (Passes P env t highest p) := inferInstanceAs (Decidable (_ = true))

/-- When the layers of a call pass below the floor of the memory state that their signal leads to,
the arbiter's thresholds land on that floor. -/
def LandsOnFloor (P : Platform) (env : Supply) (t : Turn) (highest : Option GovernanceSignal)
    (p : Pipeline) : Prop :=
  let r := result (layers P (env.part 0) t highest) p
  ∀ state, r.1.1 = .passed state →
    ∀ mem ∈ p.sessionMemories.lookup t.sessionId, ∀ signal ∈ r.1.2,
      let next := mem.stateWith signal t.classification p.memoryConfig
      ∀ floor ∈ Arbiter.memoryFloor next, state < floor → p.arbiter.config.thresholds.Lands next

/-- A call that passes answers by the state that the arbiter holds exactly when it lands on the
floor. -/
lemma govern_stored_iff (ht : Tracks t.sessionId highest)
    (hmem : ∃ mem, p.sessionMemories.lookup t.sessionId = some mem)
    (hlocked : t.thresholdModifier ≤ 0 → p.MemoryLocked t.sessionId) :
    (Passes P env t highest p →
      (result (govern P env t highest) p).1.1 = enforcementResult
        ((result (govern P env t highest) p).2.currentState t.sessionId) t.content) ↔
      LandsOnFloor P env t highest p := by
  obtain ⟨mem, hmem⟩ := hmem
  obtain ⟨hends, -, signal, hsignal, hset⟩ := govern_settled P env ht hmem
  unfold Passes LandsOnFloor
  dsimp only
  rw [hmem, hsignal]
  cases hout : (result (layers P (env.part 0) t highest) p).1.1 with
  | blocked r => simp [LayerOutcome.isPassed]
  | passed state =>
    have hpos : 0 < t.thresholdModifier := modifier_pos_of_passed hlocked hout
    obtain ⟨hresult, hstate⟩ := hset.passed state hout
    rw [hresult, hstate, (hends.passed state hout).2 hpos, hends.framed.config,
      (enforcementResult_injective t.content).eq_iff, applyMemoryFloor_eq_iff,
      SessionMemory.ingestSignal_stateWith]
    simp [LayerOutcome.isPassed]

/-- A call that runs to its final decision answers by the state that the arbiter then reports. -/
def ReturnsStored (P : Platform) (p : Pipeline) : Op → Prop
  | .inbound env userInput sessionId govTxId =>
    let r := result (inboundTurn P (env.part 0) userInput sessionId) p
    let next := step P p (.inbound env userInput sessionId govTxId)
    Passes P (env.part 1) r.1.1 (trackHighest r.1.2 none) r.2 →
      next.1 = .enforced (enforcementResult (next.2.currentState sessionId) userInput)
  | .inboundContext env envelope govTxId =>
    let r := result (contextTurn P (env.part 0) envelope) p
    let next := step P p (.inboundContext env envelope govTxId)
    envelope.verify P = .ok () → Passes P (env.part 1) r.1.1 r.1.2 r.2 →
      next.1 = .context
        (.ok (enforcementResult (next.2.currentState envelope.sessionId) r.1.1.content))
  | _ => True

/-- The thresholds land on the floor of an inbound call. -/
def ReachesFloor (P : Platform) (p : Pipeline) : Op → Prop
  | .inbound env userInput sessionId _ =>
    let r := result (inboundTurn P (env.part 0) userInput sessionId) p
    LandsOnFloor P (env.part 1) r.1.1 (trackHighest r.1.2 none) r.2
  | .inboundContext env envelope _ =>
    let r := result (contextTurn P (env.part 0) envelope) p
    envelope.verify P = .ok () → LandsOnFloor P (env.part 1) r.1.1 r.1.2 r.2
  | _ => True

/-- What a call leaves behind the middle of it is neither its answer nor its state. -/
lemma currentState_congr {p' : Pipeline} {sessionId : Str} (h : p'.arbiter = p.arbiter) :
    p'.currentState sessionId = p.currentState sessionId := congrArg (·.currentState sessionId) h

lemma inbound_returnsStored_iff {userInput sessionId govTxId : Str} :
    ReturnsStored P p (.inbound env userInput sessionId govTxId) ↔
      ReachesFloor P p (.inbound env userInput sessionId govTxId) := by
  obtain ⟨hb, -, ht⟩ : _ ∧ _ ∧ _ :=
    (inboundTurn_begun : Meets (inboundTurn P (env.part 0) userInput sessionId) _) p
  refine Iff.trans (imp_congr_right fun _ => ?_) (govern_stored_iff
    (t := (result (inboundTurn P (env.part 0) userInput sessionId) p).1.1) ht hb.memory
    fun hm => inboundTurn_locked (hb.memoryLocked hm))
  have hstep : step P p (.inbound env userInput sessionId govTxId) =
      (result (inbound P env userInput sessionId govTxId) p).map .enforced id := rfl
  rw [hstep]
  simp only [Prod.map_fst, Prod.map_snd, id, Answer.enforced.injEq]
  rw [inbound_after.1, currentState_congr inbound_after.2.2]
  rfl

lemma inboundContext_returnsStored_iff {envelope : ModelContextEnvelope} {govTxId : Str} :
    ReturnsStored P p (.inboundContext env envelope govTxId) ↔
      ReachesFloor P p (.inboundContext env envelope govTxId) := by
  refine imp_congr_right fun hv => ?_
  obtain ⟨hb, -, ht⟩ : _ ∧ _ ∧ _ :=
    (contextTurn_begun : Meets (contextTurn P (env.part 0) envelope) _) p
  refine Iff.trans (imp_congr_right fun _ => ?_) (govern_stored_iff
    (t := (result (contextTurn P (env.part 0) envelope) p).1.1) ht hb.memory
    fun hm => contextTurn_locked (hb.memoryLocked hm))
  have hstep : step P p (.inboundContext env envelope govTxId) =
      (result (inboundContext P env envelope govTxId) p).map .context id := rfl
  rw [hstep]
  simp only [Prod.map_fst, Prod.map_snd, id, Answer.context.injEq]
  rw [(inboundContext_after hv).1, currentState_congr (inboundContext_after hv).2.2,
    Except.ok.injEq]
  rfl

lemma returnsStored_iff (op : Op) : ReturnsStored P p op ↔ ReachesFloor P p op := by
  cases op with
  | inbound env userInput sessionId govTxId => exact inbound_returnsStored_iff
  | inboundContext env envelope govTxId => exact inboundContext_returnsStored_iff
  | _ => exact Iff.rfl

/-- **When a call answers by the state the arbiter holds.** In a run every call that runs to its
final decision does exactly when the thresholds land on the floor of every call. -/
theorem returnsStored_run_iff {os : List Op} :
    (system P).Always (ReturnsStored P) p os ↔ (system P).Always (ReachesFloor P) p os :=
  System.always_congr fun _ => returnsStored_iff

/-- Three turns that ask about thresholds, of which the third raises the memory to `Elevated` by
its velocity. -/
def probingOps : List Op :=
  [.inbound (fixedSupply 0 1) "threshold" "s" "t1", .inbound (fixedSupply 0 2) "threshold" "s" "t2",
    .inbound (fixedSupply 0 3) "threshold" "s" "t3"]

/-- **The third call answers by `S2` and leaves the session in `S3`**, under the default
profile. -/
theorem probingOps_not_stored :
    ¬ (system silentPlatform).Always (ReturnsStored silentPlatform) (fixedPipeline .default)
      probingOps := by
  rintro ⟨-, -, h, -⟩
  obtain ⟨hpassed, hanswer, hstate⟩ :
      let p := ((system silentPlatform).exec (fixedPipeline .default) (probingOps.take 2)).2
      let env := fixedSupply 0 3
      let r := result (inboundTurn silentPlatform (env.part 0) "threshold" "s") p
      let next := result (inbound silentPlatform env "threshold" "s" "t3") p
      Passes silentPlatform (env.part 1) r.1.1 (trackHighest r.1.2 none) r.2 ∧
        next.1.passes = true ∧ next.2.currentState "s" = .S3 := by
    decide +kernel
  have hresult := Answer.enforced.inj (h hpassed)
  have hpasses := hanswer.symm.trans (congrArg EnforcementResult.passes hresult)
  exact absurd (passes_enforcementResult.mp hpasses.symm) (not_lt.mpr (ge_of_eq hstate))

end Pipeline

end GovSec
