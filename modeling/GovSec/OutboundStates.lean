import GovSec.ArbiterJoins
import GovSec.PipelineFrame
import GovSec.VerdictJson

/-!
What an outbound call answers, from the state before it.

Each of the four layers demands a state for what it finds in the text. The call answers by the join
of the session's state with these demands, or ends early once the join has reached `S3`.
-/

namespace GovSec

open GovSec.Lib.Text GovSec.Lib.Actions GovSec.Lib.Joins GovSec.Lib.JsonText

/-! ### What the monitors would report -/

/-- The violations that OverWatch finds in a payload. -/
def OverWatch.reports (P : Platform) (ow : OverWatch) (payload : Str) (direction : Direction)
    (sessionId : Str) : List OverWatch.Violation :=
  OverWatch.violations P ow.config
    (((ow.sessions.lookup sessionId).getD .new).observe (P.toLowercase payload)) payload direction

namespace OIM

variable {o : OIM} {env : Supply} {s s' : GovernanceSignal}

/-- What OIM reports once it has watched a signal. -/
def reports (o : OIM) (env : Supply) (owSignal : GovernanceSignal) : Option Finding :=
  finding
    { o with
      sig := (o.sig.recordSignal (env.part 0).now owSignal).maybeEstablishBaseline
        (env.part 1).now }
    (env.part 2).now

lemma reports_congr (hc : s.confidence = s'.confidence) (hs : s.severity = s'.severity)
    (hr : s.policyRuleId = s'.policyRuleId) : o.reports env s = o.reports env s' := by
  simp only [reports, OverWatchSignature.recordSignal, hc, hs, hr]

end OIM

/-! ### Demands -/

/-- The signal is what a layer builds from a finding in a session. -/
def Carries (signal : GovernanceSignal) (sessionId : Str) (f : Option Finding) : Prop :=
  ∃ P env crypto source direction payloadHash,
    signal = (attachCrypto P env crypto (layerSignal source direction sessionId payloadHash f)).1

lemma Carries.isClean_iff {signal : GovernanceSignal} {sessionId : Str} {f : Option Finding}
    (h : Carries signal sessionId f) (hf : ∀ g, f = some g → g.severity ≠ .none) :
    signal.isClean = true ↔ f = none := by
  obtain ⟨P, env, crypto, source, direction, payloadHash, rfl⟩ := h
  exact isClean_layerSignal _ hf

namespace Arbiter

/-- The state that a layer's finding demands under a modifier. -/
def demand (config : ArbiterConfig) (modifier : ℚ) : Option Finding → SecurityState
  | none => .S1
  | some f =>
    match effectiveThresholds config modifier with
    | some t => grant t f.severity (max 0 (min 1 f.confidence))
    | none => .S4

variable {a : Arbiter} {modifier : ℚ} {signal : GovernanceSignal} {sessionId : Str}
  {f : Option Finding}

lemma decidedWith_of_clean (h : signal.isClean = true) :
    a.decidedWith modifier signal = a.currentState signal.sessionId := by
  unfold decidedWith
  split
  · exact decided_of_clean h
  · exact if_pos h

/-- A layer's signal joins what its finding demands into the state. -/
lemma decidedWith_of_carries (h : Carries signal sessionId f)
    (hf : ∀ g, f = some g → g.severity ≠ .none) :
    a.decidedWith modifier signal = a.currentState sessionId ⊔ demand a.config modifier f := by
  have hclean := h.isClean_iff hf
  obtain ⟨P, env, crypto, source, direction, payloadHash, rfl⟩ := h
  cases f with
  | none =>
    rw [decidedWith_of_clean (hclean.mpr rfl)]
    exact (max_S1 _).symm
  | some g =>
    unfold decidedWith demand
    cases effectiveThresholds a.config modifier with
    | some t =>
      dsimp only
      rw [decided_eq_join]
      rfl
    | none =>
      have hfound := mt hclean.mp (Option.some_ne_none g)
      dsimp only
      rw [if_neg hfound]
      exact (max_S4 _).symm

end Arbiter

lemma Carries.sessionId_eq {signal : GovernanceSignal} {sessionId : Str} {f : Option Finding}
    (h : Carries signal sessionId f) : signal.sessionId = sessionId := by
  obtain ⟨P, env, crypto, source, direction, payloadHash, rfl⟩ := h
  cases f <;> rfl

/-- OIM reads no more of a signal than its finding. -/
lemma Carries.reports_eq {o : OIM} {env env' : Supply} {signal : GovernanceSignal}
    {sessionId : Str} {f : Option Finding} (h : Carries signal sessionId f) :
    o.reports env signal =
      o.reports env ((layerSignal .overWatch .outbound sessionId [] f).build env') := by
  obtain ⟨P, env, crypto, source, direction, payloadHash, rfl⟩ := h
  cases f <;> exact OIM.reports_congr rfl rfl rfl

namespace Pipeline

/-! ### Answers -/

lemma checkHardBlock_eq_none {state : SecurityState} :
    checkHardBlock state = none ↔ state < .S3 := by
  cases state <;> simp [checkHardBlock] <;> decide

/-- The answer to a text in a state, or that of an early end in a state below. -/
def Answers (content : Str) (state : SecurityState) (r : EnforcementResult) : Prop :=
  r = enforcementResult state content ∨ ∃ s ≤ state, checkHardBlock s = some r

namespace Answers

variable {content : Str} {state state' : SecurityState} {r : EnforcementResult}

lemma isApproved_iff (h : Answers content state r) : r.isApproved = true ↔ state = .S1 := by
  rcases h with rfl | ⟨s, hs, hr⟩
  · cases state <;> simp [enforcementResult, EnforcementResult.isApproved]
  · have hne : state ≠ .S1 := by
      rintro rfl
      obtain rfl := le_antisymm hs s.S1_le
      cases hr
    cases s <;> cases hr <;> simp [EnforcementResult.isApproved, hne]

lemma ok_iff (h : Answers content state r) : r.ok = true ↔ state < .S3 := by
  rcases h with rfl | ⟨s, hs, hr⟩
  · cases state <;> simp [enforcementResult, EnforcementResult.ok] <;> decide
  · have hge : ¬ state < .S3 := by
      intro hlt
      rw [checkHardBlock_eq_none.mpr (hs.trans_lt hlt)] at hr
      cases hr
    cases s <;> cases hr <;> simp [EnforcementResult.ok, hge]

/-- The messages of the outbound path are fixed texts without special characters. -/
lemma isBody_message (h : Answers content state r) :
    IsBody (singleQuoted r.message) r.message := by
  have hplain : IsPlain r.message ∧ singleQuoted r.message = r.message := by
    rcases h with rfl | ⟨s, -, hr⟩
    · cases state <;> simp only [enforcementResult, EnforcementResult.message] <;> decide +kernel
    · cases s <;> cases hr <;> decide +kernel
  rw [hplain.2]
  exact isBody_of_isPlain hplain.1

end Answers

variable {P : Platform} {env : Supply} {p : Pipeline} {modifier : ℚ} {signal : GovernanceSignal}
  {modelOutput content sessionId : Str} {rest demanded : SecurityState}

/-- The state that the arbiter decides is joined by the rest, unless the call ends there. -/
lemma arbitrate_answers {next : StateM Pipeline EnforcementResult}
    (hsid : signal.sessionId = sessionId)
    (hdecided : p.arbiter.decidedWith modifier signal = p.currentState sessionId ⊔ demanded)
    (hnext : ∀ arbiter crypto, arbiter.config = p.arbiter.config →
      Answers content (arbiter.currentState sessionId ⊔ rest)
        (result next { p with arbiter, crypto }).1) :
    Answers content (p.currentState sessionId ⊔ (demanded ⊔ rest))
      (result (arbitrate P env signal modifier id next) p).1 := by
  subst hsid
  have hstate : (result (processWithModifier P env signal modifier) p).1 =
      p.currentState signal.sessionId ⊔ demanded :=
    Arbiter.processWithModifier_fst.trans hdecided
  unfold arbitrate
  rw [result_bind, ← sup_assoc, ← hdecided]
  rw [← hdecided] at hstate
  rw [hstate]
  cases hcheck : checkHardBlock (p.arbiter.decidedWith modifier signal) with
  | some r => exact .inr ⟨_, le_sup_left, hcheck⟩
  | none =>
    have hlt := checkHardBlock_eq_none.mp hcheck
    have hstored : (Arbiter.processWithModifier P env p.crypto p.arbiter signal
        modifier).2.1.currentState signal.sessionId = p.arbiter.decidedWith modifier signal := by
      rw [Arbiter.processWithModifier_currentState]
      split
      · rfl
      · next hblocked =>
        -- a blocking modifier stores nothing new, and decides nothing new below `S4`
        have hm : modifier ≤ 0 := not_lt.mp fun hm => hblocked ⟨rfl, .inl hm⟩
        rw [Arbiter.decidedWith_of_nonpos hm] at hlt ⊢
        split at hlt
        · next hclean => rw [if_pos hclean]
        · exact absurd hlt (by decide)
    rw [← hstored]
    exact hnext _ _ Arbiter.processWithModifier_config

/-! ### The four layers -/

section Layers

variable (P env p modelOutput sessionId)

/-- What OIM reports behind OverWatch, which shows it a signal of its own finding. -/
def oimBehindOverwatch : Option Finding :=
  p.oim.reports ((env.part 2).part 0)
    ((layerSignal .overWatch .outbound sessionId []
      (OverWatch.finding (p.overwatch.reports P modelOutput .outbound sessionId))).build env)

/-- What the layers find in a text, in their order. -/
def outboundFindings : List (Option Finding) :=
  [Corridor.finding P p.constitutionalEvaluator .outbound modelOutput,
    OverWatch.finding (p.overwatch.reports P modelOutput .outbound sessionId),
    oimBehindOverwatch P (env.part 2) p modelOutput sessionId, Sentinel.finding P modelOutput]

/-- The state of the session before the call, joined with what the findings demand. -/
def outboundState : SecurityState :=
  p.currentState sessionId ⊔ joined ((outboundFindings P env p modelOutput sessionId).map
    (Arbiter.demand p.arbiter.config (p.getThresholdModifier sessionId)))

end Layers

lemma outboundSentinel_answers :
    Answers modelOutput (p.currentState sessionId ⊔
        Arbiter.demand p.arbiter.config modifier (Sentinel.finding P modelOutput))
      (result (outboundSentinel P env modelOutput sessionId modifier) p).1 := by
  have hcarries : Carries (result (inspect P (env.part 0) modelOutput .outbound sessionId) p).1
      sessionId (Sentinel.finding P modelOutput) := ⟨_, _, _, _, _, _, rfl⟩
  have hdecided : p.arbiter.decidedWith modifier
      (result (inspect P (env.part 0) modelOutput .outbound sessionId) p).1 =
        p.currentState sessionId ⊔
          Arbiter.demand p.arbiter.config modifier (Sentinel.finding P modelOutput) :=
    Arbiter.decidedWith_of_carries hcarries Sentinel.finding_severity_ne_none
  left
  rw [← hdecided]
  unfold outboundSentinel
  rw [result_bind, result_bind, result_pure]
  exact congrArg (enforcementResult · modelOutput) Arbiter.processWithModifier_fst

lemma outboundOim_answers (hsid : signal.sessionId = sessionId) :
    Answers modelOutput (p.currentState sessionId ⊔
        (Arbiter.demand p.arbiter.config modifier (p.oim.reports (env.part 0) signal) ⊔
          Arbiter.demand p.arbiter.config modifier (Sentinel.finding P modelOutput)))
      (result (outboundOim P env modelOutput sessionId modifier signal) p).1 := by
  have hcarries : Carries (result (oimObserve P (env.part 0) signal) p).1 sessionId
      (p.oim.reports (env.part 0) signal) := hsid ▸ ⟨_, _, _, _, _, _, rfl⟩
  have harbiter : (result (oimObserve P (env.part 0) signal) p).2.arbiter = p.arbiter := rfl
  unfold outboundOim
  rw [result_bind, Pipeline.currentState, ← harbiter]
  refine arbitrate_answers hcarries.sessionId_eq
    (Arbiter.decidedWith_of_carries hcarries OIM.finding_severity_ne_none)
    fun a crypto hconfig => ?_
  rw [← hconfig]
  exact outboundSentinel_answers

lemma outboundOverwatch_answers :
    Answers modelOutput (p.currentState sessionId ⊔
        (Arbiter.demand p.arbiter.config modifier
            (OverWatch.finding (p.overwatch.reports P modelOutput .outbound sessionId)) ⊔
          (Arbiter.demand p.arbiter.config modifier
              (oimBehindOverwatch P env p modelOutput sessionId) ⊔
            Arbiter.demand p.arbiter.config modifier (Sentinel.finding P modelOutput))))
      (result (outboundOverwatch P env modelOutput sessionId modifier) p).1 := by
  have hcarries : Carries (result (overwatchEvaluate P (env.part 0) modelOutput .outbound
      sessionId) p).1 sessionId
      (OverWatch.finding (p.overwatch.reports P modelOutput .outbound sessionId)) :=
    ⟨_, _, _, _, _, _, rfl⟩
  have harbiter : (result (overwatchEvaluate P (env.part 0) modelOutput .outbound
    sessionId) p).2.arbiter = p.arbiter := rfl
  have hoim : (result (overwatchEvaluate P (env.part 0) modelOutput .outbound
    sessionId) p).2.oim = p.oim := rfl
  unfold outboundOverwatch
  rw [result_bind, oimBehindOverwatch, ← hcarries.reports_eq, Pipeline.currentState, ← harbiter,
    ← hoim]
  refine arbitrate_answers hcarries.sessionId_eq
    (Arbiter.decidedWith_of_carries hcarries OverWatch.finding_severity_ne_none)
    fun a crypto hconfig => ?_
  rw [← hconfig]
  exact outboundOim_answers hcarries.sessionId_eq

/-- **What an outbound call answers**: what the state allows that the session is in once its own
state is joined with what the layers demand, or that of an early end. -/
theorem outbound_answers : Answers modelOutput (outboundState P env p modelOutput sessionId)
    (result (outbound P env modelOutput sessionId) p).1 := by
  have hcarries : Carries (result (corridorEvaluate P (env.part 0) modelOutput .outbound
      sessionId) p).1 sessionId
      (Corridor.finding P p.constitutionalEvaluator .outbound modelOutput) :=
    ⟨_, _, _, _, _, _, rfl⟩
  have harbiter : (result (corridorEvaluate P (env.part 0) modelOutput .outbound
    sessionId) p).2.arbiter = p.arbiter := rfl
  have hbehind : oimBehindOverwatch P (env.part 2) (result (corridorEvaluate P (env.part 0)
      modelOutput .outbound sessionId) p).2 modelOutput sessionId =
    oimBehindOverwatch P (env.part 2) p modelOutput sessionId := rfl
  have hoverwatch : (result (corridorEvaluate P (env.part 0) modelOutput .outbound
    sessionId) p).2.overwatch = p.overwatch := rfl
  simp only [outboundState, outboundFindings, List.map_cons, List.map_nil, joined_cons, joined_nil,
    sup_bot_eq]
  unfold outbound
  rw [result_bind, result_get]
  dsimp only
  rw [result_bind, Pipeline.currentState, ← harbiter, ← hbehind, ← hoverwatch]
  refine arbitrate_answers hcarries.sessionId_eq
    (Arbiter.decidedWith_of_carries hcarries Corridor.finding_severity_ne_none)
    fun a crypto hconfig => ?_
  rw [← hconfig]
  exact outboundOverwatch_answers

end Pipeline

end GovSec
