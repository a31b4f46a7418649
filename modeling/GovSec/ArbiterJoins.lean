import GovSec.ArbiterOrder
import GovSec.Lib.Joins

/-!
The arbiter's state as a join.

Under a modifier that does not block, a signal joins what it is granted alone into the state of
its session. A grant depends on the signal and on the thresholds in force, and it grows as the
modifier shrinks.
-/

namespace GovSec

open GovSec.Lib.Text GovSec.Lib.Runs GovSec.Lib.Joins

instance : OrderBot SecurityState where
  bot := .S1
  bot_le := SecurityState.S1_le

/-! ### Lower thresholds -/

namespace Thresholds

variable {t t' : Thresholds} {m m' : ℚ}

structure Nonneg (t : Thresholds) : Prop where
  medium : 0 ≤ t.medium
  high : 0 ≤ t.high
  critical : 0 ≤ t.critical

/-- Every threshold of `t` is at most the one of `t'`. -/
structure Below (t t' : Thresholds) : Prop where
  medium : t.medium ≤ t'.medium
  high : t.high ≤ t'.high
  critical : t.critical ≤ t'.critical

lemma Nonneg.scale_below (h : t.Nonneg) (hm : m ≤ m') : (t.scale m).Below (t.scale m') where
  medium := mul_le_mul_of_nonneg_left hm h.medium
  high := mul_le_mul_of_nonneg_left hm h.high
  critical := mul_le_mul_of_nonneg_left hm h.critical

lemma scale_one (t : Thresholds) : t.scale 1 = t := by simp [scale]

end Thresholds

/-- Lower thresholds grant at least as much. -/
lemma grant_anti {t t' : Thresholds} (h : t.Below t') (severity : Severity) (confidence : ℚ) :
    grant t' severity confidence ≤ grant t severity confidence := by
  obtain ⟨hmedium, hhigh, hcritical⟩ := h
  cases severity with
  | none | low => exact le_rfl
  | medium | high | critical =>
    simp only [grant, targetState, raiseToS2, raiseToS3]
    split_ifs <;> first | decide | (exfalso; linarith)

lemma targetState_anti {t t' : Thresholds} (h : t.Below t') (current : SecurityState)
    (severity : Severity) (confidence : ℚ) :
    targetState t' current severity confidence ≤ targetState t current severity confidence := by
  rw [targetState_eq_max, targetState_eq_max]
  exact max_le_max le_rfl (grant_anti h severity confidence)

/-! ### The modifier in force -/

/-- A modifier within 0.001 of one counts as one. -/
def snap (modifier : ℚ) : ℚ := if |modifier - 1| < 0.001 then 1 else modifier

/-- The band around one does not disturb the order of the modifiers. -/
lemma snap_mono : Monotone snap := by
  intro m m' h
  unfold snap
  split_ifs with h₁ h₂ h₂
  · exact le_rfl
  · -- a larger modifier that left the band is above it
    rw [abs_lt] at h₁ h₂
    by_contra hlt
    exact h₂ ⟨by linarith, by linarith⟩
  · rw [abs_lt] at h₁ h₂
    by_contra hlt
    exact h₁ ⟨by linarith, by linarith⟩
  · exact h

namespace Arbiter

variable {P : Platform} {env env' : Supply} {crypto crypto' : CryptoEngine} {a : Arbiter}
  {signal : GovernanceSignal} {config : ArbiterConfig} {m m₁ m₂ : ℚ} {sessionId : Str}

lemma effectiveThresholds_of_pos (hm : 0 < m) :
    effectiveThresholds config m = some (config.thresholds.scale (snap m)) := by
  unfold effectiveThresholds snap
  rw [if_neg (not_le.mpr hm)]
  split
  · rw [Thresholds.scale_one]
  · rfl

lemma decidedWith_of_pos (hm : 0 < m) :
    a.decidedWith m signal = a.decided (a.config.thresholds.scale (snap m)) signal := by
  rw [decidedWith, effectiveThresholds_of_pos hm]

/-- A tighter modifier decides at least as much. -/
lemma decidedWith_anti (ht : a.config.thresholds.Nonneg) (hm : m₁ ≤ m₂) :
    a.decidedWith m₂ signal ≤ a.decidedWith m₁ signal := by
  rcases le_or_gt m₁ 0 with h₁ | h₁
  · rw [decidedWith_of_nonpos h₁]
    split
    · next hclean =>
      -- a clean signal decides nothing under any modifier
      rcases le_or_gt m₂ 0 with h₂ | h₂
      · rw [decidedWith_of_nonpos h₂, if_pos hclean]
      · rw [decidedWith_of_pos h₂, decided_of_clean hclean]
    · exact SecurityState.le_S4 _
  · rw [decidedWith_of_pos h₁, decidedWith_of_pos (h₁.trans_le hm)]
    exact targetState_anti (ht.scale_below (snap_mono hm)) _ _ _

/-- **A tighter modifier never relaxes**: under thresholds that are not negative, of two calls on
the same state and signal the one with the smaller modifier answers with at least the state of the
other. -/
theorem processWithModifier_anti (ht : a.config.thresholds.Nonneg) (hm : m₁ ≤ m₂) :
    (processWithModifier P env' crypto' a signal m₂).1 ≤
      (processWithModifier P env crypto a signal m₁).1 := by
  rw [processWithModifier_fst, processWithModifier_fst]
  exact decidedWith_anti ht hm

theorem processWithModifier_anti_default :
    (processWithModifier silentPlatform (fixedSupply 0 0) ⟨[]⟩ (.new .default)
        (bareSignal .high 0.75) 1).1 ≤
      (processWithModifier silentPlatform (fixedSupply 0 0) ⟨[]⟩ (.new .default)
        (bareSignal .high 0.75) 0.65).1 :=
  processWithModifier_anti ⟨by decide +kernel, by decide +kernel, by decide +kernel⟩
    (by decide +kernel)

/-! ### Calls on one session -/

lemma decided_eq_join {t : Thresholds} :
    a.decided t signal =
      a.currentState signal.sessionId ⊔ grant t signal.severity signal.confidence :=
  targetState_eq_max ..

/-- A call on the session: `process`, or `process_with_modifier` under a positive modifier. -/
structure SessionCall (sessionId : Str) where
  env : Supply
  signal : GovernanceSignal
  modifier : Option ℚ
  onSession : signal.sessionId = sessionId
  positive : ∀ m ∈ modifier, 0 < m

namespace SessionCall

variable (c : SessionCall sessionId)

/-- What a call is about, without its clock and identifiers. -/
def input : GovernanceSignal × Option ℚ := (c.signal, c.modifier)

end SessionCall

/-- The level of a signal under a modifier, or without one. -/
def level (config : ArbiterConfig) (x : GovernanceSignal × Option ℚ) : SecurityState :=
  grant (config.thresholds.scale ((x.2.map snap).getD 1)) x.1.severity x.1.confidence

variable (P) in
/-- An arbiter that takes calls on one session. -/
def onSession (sessionId : Str) :
    System (Arbiter × CryptoEngine) (SessionCall sessionId) SecurityState :=
  ⟨fun s c => match c.modifier with
    | none => process P c.env s.2 s.1 c.signal
    | some m => processWithModifier P c.env s.2 s.1 c.signal m⟩

/-- A call joins its level into the state of the session. -/
lemma onSession_joins : JoinsOn (onSession P sessionId) (fun s => s.1.config = config)
    (fun s => s.1.currentState sessionId) (level config ∘ SessionCall.input) where
  stays s c hs := by
    rw [← hs]
    cases hm : c.modifier with
    | none => simpa only [onSession, hm, process] using processUnder_config
    | some m => simpa only [onSession, hm] using processWithModifier_config
  joins s c hs := by
    have hsid := c.onSession
    cases hm : c.modifier with
    | none =>
      simp only [onSession, hm, Function.comp, SessionCall.input, process]
      rw [processUnder_currentState, if_pos hsid.symm, decided_eq_join, hsid, hs, level]
      simp [Thresholds.scale_one]
    | some m =>
      have hpos : 0 < m := c.positive m (by simp [hm])
      simp only [onSession, hm, Function.comp, SessionCall.input]
      rw [processWithModifier_currentState, if_pos ⟨hsid.symm, .inl hpos⟩, decidedWith_of_pos hpos,
        decided_eq_join, hsid, hs, level]
      simp

variable (P crypto a) in
/-- The state of the session after the calls of a list. -/
def stateAfter (calls : List (SessionCall sessionId)) : SecurityState :=
  ((onSession P sessionId).exec (a, crypto) calls).2.1.currentState sessionId

/-- **The order of signals does not matter, and neither does their repetition.** The state that the
calls of a list leave is the join of the state before them with the level of every call, so it is
the same for every permutation and with any call done once more. -/
theorem stateAfter_joins (calls : List (SessionCall sessionId)) :
    stateAfter P crypto a calls =
        a.currentState sessionId ⊔ joined (calls.map (level a.config ∘ SessionCall.input)) ∧
      (∀ calls' : List (SessionCall sessionId),
        (calls'.map SessionCall.input).Perm (calls.map SessionCall.input) →
          stateAfter P crypto a calls' = stateAfter P crypto a calls) ∧
      ∀ (before after : List (SessionCall sessionId)) (c : SessionCall sessionId),
        calls = before ++ after → c.input ∈ calls.map SessionCall.input →
          stateAfter P crypto a (before ++ c :: after) = stateAfter P crypto a calls := by
  have hjoins : JoinsOn (onSession P sessionId) (fun s => s.1.config = a.config)
      (fun s => s.1.currentState sessionId) (level a.config ∘ SessionCall.input) := onSession_joins
  refine ⟨hjoins.exec rfl calls, fun calls' hperm => ?_, ?_⟩
  · exact hjoins.exec_congr rfl fun x => hperm.mem_iff
  · rintro before after c rfl hc
    refine hjoins.exec_congr rfl fun x => ?_
    simp only [List.map_append, List.map_cons, List.mem_append, List.mem_cons] at hc ⊢
    constructor
    · rintro (h | rfl | h)
      · exact .inl h
      · exact hc
      · exact .inr h
    · rintro (h | h)
      · exact .inl h
      · exact .inr (.inr h)

/-- A call with a signal of session `s` and a modifier. -/
def bareCall (severity : Severity) (confidence modifier : ℚ) (h : 0 < modifier) :
    SessionCall "s" :=
  ⟨fixedSupply 0 0, bareSignal severity confidence, some modifier, rfl, by simpa using h⟩

theorem stateAfter_joins_bareCalls :
    let high := bareCall .high 0.75 1 one_pos
    let low := bareCall .low 0.2 1 one_pos
    stateAfter silentPlatform ⟨[]⟩ (.new .default) [low, high] =
        stateAfter silentPlatform ⟨[]⟩ (.new .default) [high, low] ∧
      stateAfter silentPlatform ⟨[]⟩ (.new .default) [high, low, high] =
        stateAfter silentPlatform ⟨[]⟩ (.new .default) [high, low] := by
  intro high low
  obtain ⟨-, hperm, hrepeat⟩ :
      stateAfter silentPlatform ⟨[]⟩ (.new .default) [high, low] = _ ∧ _ :=
    stateAfter_joins [high, low]
  exact ⟨hperm _ (List.Perm.swap ..), hrepeat [high, low] [] high rfl (by simp)⟩

end Arbiter

end GovSec
