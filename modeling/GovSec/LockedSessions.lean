import GovSec.OutboundStates
import GovSec.PipelineRuns

/-!
Sessions with a locked memory. An inbound call on one is always stopped. An outbound call on
one is stopped by the arbiter's state or by what a layer reports of the text, and by nothing
else.
-/

namespace GovSec

open GovSec.Lib.Text GovSec.Lib.Maps GovSec.Lib.Actions GovSec.Lib.Runs GovSec.Lib.Joins

/-- Approved or restricted: the text goes through. -/
def EnforcementResult.passes : EnforcementResult → Bool
  | approved _ => true
  | restricted _ _ => true
  | _ => false

lemma EnforcementResult.passes_eq_ok (r : EnforcementResult) : r.passes = r.ok := by
  cases r <;> rfl

namespace Pipeline

/-- The memory of the session is locked. -/
def MemoryLocked (p : Pipeline) (sessionId : Str) : Prop :=
  (p.sessionMemories.lookup sessionId).map (·.memoryState) = some .locked

variable {P : Platform} {env : Supply} {p p' : Pipeline}

instance (sessionId : Str) : Decidable (p.MemoryLocked sessionId) :=
  inferInstanceAs (Decidable (_ = _))

lemma MemoryLocked.exists {sessionId : Str} (h : p.MemoryLocked sessionId) :
    ∃ mem, p.sessionMemories.lookup sessionId = some mem ∧ mem.memoryState = .locked :=
  Option.map_eq_some_iff.mp h

lemma MemoryLocked.framed {sessionId : Str} (h : p.MemoryLocked sessionId) (hf : Framed p p') :
    p'.MemoryLocked sessionId := by
  unfold MemoryLocked
  rw [hf.sessionMemories]
  exact h

lemma MemoryLocked.modifier {sessionId : Str} (h : p.MemoryLocked sessionId) :
    p.getThresholdModifier sessionId = 0 := by
  obtain ⟨mem, hmem, hlocked⟩ := h.exists
  simp [getThresholdModifier, hmem, SessionMemory.thresholdModifier, hlocked]

/-- Its score of one exceeds every blocking threshold. -/
lemma MemoryLocked.shouldBlock {sessionId : Str} (h : p.MemoryLocked sessionId) :
    p.shouldBlock sessionId = true := by
  obtain ⟨mem, hmem, hlocked⟩ := h.exists
  simp [Pipeline.shouldBlock, hmem, SessionMemory.thresholdModifier, hlocked, p.govmem.lt_one]

lemma passes_enforcementResult {state : SecurityState} {content : Str} :
    (enforcementResult state content).passes = true ↔ state < .S3 := by
  cases state <;> simp [enforcementResult, EnforcementResult.passes] <;> decide

lemma passes_of_checkHardBlock {state : SecurityState} {r : EnforcementResult}
    (h : checkHardBlock state = some r) : r.passes = false := by
  cases state <;> simp [checkHardBlock] at h <;> subst h <;> rfl

/-! ### Inbound calls -/

section Inbound

variable {t : Turn} {highest : Option GovernanceSignal} {userInput sessionId govTxId : Str}
  {envelope : ModelContextEnvelope}

/-- Of a locked session the layers let nothing through. -/
def Stops (t : Turn) (p : Pipeline) (r : LayerOutcome × Option GovernanceSignal)
    (_ : Pipeline) : Prop :=
  p.MemoryLocked t.sessionId → ∃ result, r.1 = .blocked result ∧ result.passes = false

lemma Stops.of_framed {q : Pipeline} {r : LayerOutcome × Option GovernanceSignal}
    (hf : Framed p q) (h : Stops t q r p') : Stops t p r p' := fun hl => h (hl.framed hf)

lemma arbitrate_stops {next : Layers} {s : GovernanceSignal} {modifier : ℚ}
    (hn : Meets next (Stops t)) :
    Meets (arbitrate P env s modifier (fun result => (.blocked result, highest)) next)
      (Stops t) := by
  refine processWithModifier_meets.then fun p state p₁ ⟨hf, _, _⟩ => .of_framed hf ?_
  cases hcheck : checkHardBlock state with
  | some r => exact fun _ => ⟨r, rfl, passes_of_checkHardBlock hcheck⟩
  | none => exact hn p₁

/-- GovMem blocks what the first two layers left. -/
lemma overwatchLayer_stops : Meets (overwatchLayer P env t highest) (Stops t) := by
  refine overwatchEvaluate_meets.then fun p s p₁ ⟨hf, _⟩ => .of_framed hf fun hl => ?_
  rw [result_bind, result_get]
  dsimp only
  rw [if_pos hl.shouldBlock]
  exact ⟨_, rfl, rfl⟩

lemma layers_stops : Meets (layers P env t highest) (Stops t) := by
  have hcorridor (env : Supply) (h : Option GovernanceSignal) :
      Meets (corridorLayer P env t h) (Stops t) :=
    corridorEvaluate_meets.then fun _ _ p₁ ⟨hf, _⟩ =>
      .of_framed hf (arbitrate_stops overwatchLayer_stops p₁)
  cases highest with
  | none => exact hcorridor _ none
  | some signal => exact arbitrate_stops (hcorridor _ (some signal))

lemma settle_blocked {r : EnforcementResult} :
    (result (settle P env t (.blocked r) highest) p).1 = r := by
  unfold settle
  rw [result_bind]
  rfl

/-- What the layers pass is not on a locked session, and so under a modifier that leaves the
thresholds on. -/
lemma modifier_pos_of_passed {state : SecurityState}
    (hlocked : t.thresholdModifier ≤ 0 → p.MemoryLocked t.sessionId)
    (hout : (result (layers P env t highest) p).1.1 = .passed state) :
    0 < t.thresholdModifier := by
  by_contra hm
  obtain ⟨r, hr, -⟩ := layers_stops p (hlocked (not_lt.mp hm))
  rw [hout] at hr
  cases hr

lemma govern_stops (hl : p.MemoryLocked t.sessionId) :
    (result (govern P env t highest) p).1.1.passes = false := by
  have hstops : Stops t p (result (layers P (env.part 0) t highest) p).1
      (result (layers P (env.part 0) t highest) p).2 := layers_stops p
  obtain ⟨r, hr, hpasses⟩ := hstops hl
  have hgovern : (result (govern P env t highest) p).1.1 = (result (settle P (env.part 1) t
      (result (layers P (env.part 0) t highest) p).1.1
      (result (layers P (env.part 0) t highest) p).1.2)
      (result (layers P (env.part 0) t highest) p).2).1 := rfl
  rw [hgovern, hr, settle_blocked]
  exact hpasses

/-- A locked session keeps its memory at the start of a call. -/
lemma initSessionMemory_of_locked (hl : p.MemoryLocked sessionId) :
    (result (initSessionMemory env sessionId) p).2 = p := by
  obtain ⟨mem, hmem, -⟩ := hl.exists
  simp only [initSessionMemory, result_modifyGet, hmem]

lemma inboundTurn_locked (hl : p.MemoryLocked sessionId) :
    (result (inboundTurn P env userInput sessionId) p).2.MemoryLocked sessionId := by
  unfold inboundTurn
  rw [result_bind, initSessionMemory_of_locked hl]
  exact hl.framed (inspect_meets p).1

lemma contextTurn_locked (hl : p.MemoryLocked envelope.sessionId) :
    (result (contextTurn P env envelope) p).2.MemoryLocked envelope.sessionId := by
  unfold contextTurn
  dsimp only
  rw [result_bind, initSessionMemory_of_locked hl]
  exact hl.framed (inspectSegments_meets (fun s (h : none = some s) => nomatch h) p).1

/-- The answer of a call is that of its middle; then it touches the approvals only. -/
lemma inbound_after :
    let r := result (inboundTurn P (env.part 0) userInput sessionId) p
    let g := result (govern P (env.part 1) r.1.1 (trackHighest r.1.2 none)) r.2
    (result (inbound P env userInput sessionId govTxId) p).1 = g.1.1 ∧
      (result (inbound P env userInput sessionId govTxId) p).2.sessionMemories =
        g.2.sessionMemories ∧
      (result (inbound P env userInput sessionId govTxId) p).2.arbiter = g.2.arbiter := by
  unfold inbound
  rw [result_bind]
  dsimp only
  rw [result_bind]
  split <;> exact ⟨rfl, rfl, rfl⟩

lemma inboundContext_after (hv : envelope.verify P = .ok ()) :
    let r := result (contextTurn P (env.part 0) envelope) p
    let g := result (govern P (env.part 1) r.1.1 r.1.2) r.2
    (result (inboundContext P env envelope govTxId) p).1 = .ok g.1.1 ∧
      (result (inboundContext P env envelope govTxId) p).2.sessionMemories =
        g.2.sessionMemories ∧
      (result (inboundContext P env envelope govTxId) p).2.arbiter = g.2.arbiter := by
  unfold inboundContext
  rw [hv]
  dsimp only
  rw [result_bind, result_bind]
  split <;> exact ⟨rfl, rfl, rfl⟩

/-- **Every inbound call on a locked session is stopped.** -/
theorem inbound_locked (hl : p.MemoryLocked sessionId) :
    (result (inbound P env userInput sessionId govTxId) p).1.passes = false := by
  rw [inbound_after.1]
  exact govern_stops (inboundTurn_locked hl)

theorem inboundContext_locked (hl : p.MemoryLocked envelope.sessionId) {r : EnforcementResult}
    (hr : (result (inboundContext P env envelope govTxId) p).1 = .ok r) : r.passes = false := by
  cases hv : envelope.verify P with
  | error e =>
    unfold inboundContext at hr
    rw [hv] at hr
    cases hr
  | ok _ =>
    obtain rfl := Except.ok.inj ((inboundContext_after hv).1.symm.trans hr)
    exact govern_stops (contextTurn_locked hl)

end Inbound

/-! ### Outbound calls -/

section Outbound

variable {config : ArbiterConfig} {modifier : ℚ} {f : Option Finding}
  {modelOutput sessionId : Str}

/-- An outbound layer reports the text: Corridor, OverWatch, OIM behind a silent OverWatch, or
Sentinel. -/
def OutboundReports (P : Platform) (env : Supply) (p : Pipeline) (modelOutput sessionId : Str) :
    Prop :=
  Corridor.finding P p.constitutionalEvaluator .outbound modelOutput ≠ none ∨
  p.overwatch.reports P modelOutput .outbound sessionId ≠ [] ∨
  p.oim.reports (((env.part 2).part 2).part 0)
    ((cleanSignal .overWatch .outbound sessionId []).build (env.part 2)) ≠ none ∨
  Sentinel.finding P modelOutput ≠ none

/-- A modifier that blocks makes every finding demand `S4`. -/
lemma demand_lt_iff (hm : modifier ≤ 0) :
    Arbiter.demand config modifier f < .S3 ↔ f = none := by
  have hoff : Arbiter.effectiveThresholds config modifier = none := if_pos hm
  unfold Arbiter.demand
  rw [hoff]
  cases f with
  | none => simp only [iff_true]; decide
  | some g => simp only [reduceCtorEq, iff_false]; decide

/-- A silent OverWatch shows OIM a signal that reports nothing. -/
lemma oimBehindOverwatch_of_silent
    (h : p.overwatch.reports P modelOutput .outbound sessionId = []) :
    oimBehindOverwatch P env p modelOutput sessionId = p.oim.reports ((env.part 2).part 0)
      ((cleanSignal .overWatch .outbound sessionId []).build env) := by
  unfold oimBehindOverwatch
  rw [OverWatch.finding_eq_none.mpr h]
  rfl

lemma outboundState_lt_iff (hm : p.getThresholdModifier sessionId ≤ 0) :
    outboundState P env p modelOutput sessionId < .S3 ↔
      p.currentState sessionId < .S3 ∧ ¬ OutboundReports P env p modelOutput sessionId := by
  simp only [outboundState, outboundFindings, List.map_cons, List.map_nil, joined_cons,
    joined_nil, sup_bot_eq, sup_lt_iff, demand_lt_iff hm, OverWatch.finding_eq_none,
    OutboundReports, not_or, not_not]
  refine and_congr_right fun _ => and_congr_right fun _ => and_congr_right fun hsilent => ?_
  rw [oimBehindOverwatch_of_silent hsilent]

/-- **An outbound call on a locked session** goes through exactly when the arbiter has the
session below `S3` and no layer reports the text. -/
theorem outbound_locked_iff (hl : p.MemoryLocked sessionId) :
    (result (outbound P env modelOutput sessionId) p).1.passes = true ↔
      p.currentState sessionId < .S3 ∧ ¬ OutboundReports P env p modelOutput sessionId := by
  rw [EnforcementResult.passes_eq_ok, outbound_answers.ok_iff, outboundState_lt_iff hl.modifier.le]

end Outbound

/-! ### Runs -/

/-- A call on a locked session gives no text through. -/
def StopsLocked (P : Platform) (p : Pipeline) (op : Op) : Prop :=
  match op with
  | .inbound _ _ sessionId _ => p.MemoryLocked sessionId →
    ∀ r, (step P p op).1 = .enforced r → r.passes = false
  | .inboundContext _ envelope _ => p.MemoryLocked envelope.sessionId →
    ∀ r, (step P p op).1 = .context (.ok r) → r.passes = false
  | .outbound _ _ sessionId => p.MemoryLocked sessionId →
    ∀ r, (step P p op).1 = .enforced r → r.passes = false
  | _ => True

/-- Of a locked session an outbound text is reported, or the arbiter has the session in `S3` or
`S4`. -/
def CaughtOutbound (P : Platform) (p : Pipeline) (op : Op) : Prop :=
  match op with
  | .outbound env modelOutput sessionId => p.MemoryLocked sessionId →
    .S3 ≤ p.currentState sessionId ∨ OutboundReports P env p modelOutput sessionId
  | _ => True

lemma stopsLocked_iff (op : Op) : StopsLocked P p op ↔ CaughtOutbound P p op := by
  cases op with
  | inbound env userInput sessionId govTxId =>
    refine iff_true_intro fun hl r hr => ?_
    obtain rfl : (result (inbound P env userInput sessionId govTxId) p).1 = r :=
      Answer.enforced.inj hr
    exact inbound_locked hl
  | inboundContext env envelope govTxId =>
    refine iff_true_intro fun hl r hr => ?_
    have hr' : (result (inboundContext P env envelope govTxId) p).1 = .ok r :=
      Answer.context.inj hr
    exact inboundContext_locked hl hr'
  | outbound env modelOutput sessionId =>
    refine imp_congr_right fun hl => ?_
    have hiff : (result (outbound P env modelOutput sessionId) p).1.passes = true ↔ _ :=
      outbound_locked_iff hl
    rw [← not_lt, ← not_iff_not, not_or, not_not, ← hiff, ← not_iff_not, not_not,
      Bool.not_eq_true]
    constructor
    · exact fun h => h _ rfl
    · rintro h r hr
      obtain rfl : (result (outbound P env modelOutput sessionId) p).1 = r :=
        Answer.enforced.inj hr
      exact h
  | _ => exact Iff.rfl

/-- After two plain turns a poisoned one raises the memory to `Elevated` and the arbiter to
`S2`. The gate stops the fourth turn, whose claim of authority locks the memory only. -/
def lockingOps : List Op :=
  [.inbound (fixedSupply 0 1) "hi" "s" "t1", .inbound (fixedSupply 0 2) "hi" "s" "t2",
    .inbound (fixedSupply 0 3) "[system]" "s" "t3", .inbound (fixedSupply 0 4) "[agent:" "s" "t4"]

end Pipeline

end GovSec
