import Mathlib
import GovSec.Arbiter

/-!
How the arbiter's decision depends on the signal.

A decision is the maximum of the current state and of what the signal alone is granted, so
its monotonicity is that of the grants. They grow with severity and confidence except at one
place: the ladder of a critical signal has no rung between the medium and the high threshold.
-/

namespace GovSec

open GovSec.Lib.Text

/-- The state that a signal alone reaches. -/
def grant (t : Thresholds) (severity : Severity) (confidence : ℚ) : SecurityState :=
  targetState t .S1 severity confidence

lemma raiseToS2_eq_max (s : SecurityState) : raiseToS2 s = max s .S2 := by cases s <;> decide
lemma raiseToS3_eq_max (s : SecurityState) : raiseToS3 s = max s .S3 := by cases s <;> decide

lemma max_S1 (s : SecurityState) : max s .S1 = s := max_eq_left s.S1_le
lemma max_S4 (s : SecurityState) : max s .S4 = .S4 := max_eq_right s.le_S4

lemma targetState_eq_max (t : Thresholds) (current : SecurityState) (severity : Severity)
    (confidence : ℚ) :
    targetState t current severity confidence = max current (grant t severity confidence) := by
  unfold grant targetState
  split
  · exact (max_S1 _).symm
  · exact (max_S1 _).symm
  · split
    · exact raiseToS2_eq_max _
    · exact (max_S1 _).symm
  · split
    · exact raiseToS3_eq_max _
    · split
      · exact raiseToS2_eq_max _
      · exact (max_S1 _).symm
  · split
    · exact (max_S4 _).symm
    · split
      · exact raiseToS3_eq_max _
      · exact (max_S1 _).symm

/-- The first signal reaches the medium tier and the second, critical one falls short of the
high tier, below which its ladder has nothing. -/
structure FallsThrough (t : Thresholds) (s₁ s₂ : GovernanceSignal) : Prop where
  first : s₁.severity = .medium ∨ s₁.severity = .high
  second : s₂.severity = .critical
  medium_le : t.medium ≤ s₁.confidence
  lt_high : s₂.confidence < t.high

section Grants

variable {t : Thresholds} {s₁ s₂ : GovernanceSignal}

lemma grant_of_fallsThrough (ht : t.Ordered) (hconf : s₁.confidence ≤ s₂.confidence)
    (h : FallsThrough t s₁ s₂) :
    grant t s₁.severity s₁.confidence = .S2 ∧ grant t s₂.severity s₂.confidence = .S1 := by
  have h₁ : ¬ t.high ≤ s₁.confidence := not_le.mpr (hconf.trans_lt h.lt_high)
  have h₂ : ¬ t.critical ≤ s₂.confidence := not_le.mpr (h.lt_high.trans_le ht.high_le_critical)
  have h₃ : ¬ t.high ≤ s₂.confidence := not_le.mpr h.lt_high
  constructor
  · rcases h.first with hs | hs <;> simp [grant, targetState, hs, h₁, h.medium_le, raiseToS2]
  · simp [grant, targetState, h.second, h₂, h₃]

/-- Outside the gap, grants are monotone. -/
lemma grant_mono (ht : t.Ordered) (hsev : s₁.severity ≤ s₂.severity)
    (hconf : s₁.confidence ≤ s₂.confidence) (h : ¬ FallsThrough t s₁ s₂) :
    grant t s₁.severity s₁.confidence ≤ grant t s₂.severity s₂.confidence := by
  have hmh := ht.medium_le_high
  have hhc := ht.high_le_critical
  cases h₁ : s₁.severity <;> cases h₂ : s₂.severity <;> rw [h₁, h₂] at hsev
  -- the pairs out of order, and a first signal that is granted nothing
  all_goals first
    | exact absurd hsev (by decide)
    | exact SecurityState.S1_le _
    | simp only [grant, targetState, raiseToS2, raiseToS3]
  all_goals split_ifs
  all_goals first
    | decide
    | (exfalso; linarith)
    | skip
  -- what is left reaches the medium tier and falls through
  all_goals exact absurd ⟨by simp [h₁], h₂, ‹_›, not_le.mp ‹_›⟩ h

/-- A decision grows with the signal unless the second signal falls through in a session that
is still in `S1`. -/
theorem targetState_le_iff (ht : t.Ordered) (hsev : s₁.severity ≤ s₂.severity)
    (hconf : s₁.confidence ≤ s₂.confidence) (current : SecurityState) :
    targetState t current s₁.severity s₁.confidence ≤
        targetState t current s₂.severity s₂.confidence ↔
      ¬ (current = .S1 ∧ FallsThrough t s₁ s₂) := by
  rw [targetState_eq_max, targetState_eq_max]
  by_cases h : FallsThrough t s₁ s₂
  · obtain ⟨h₁, h₂⟩ := grant_of_fallsThrough ht hconf h
    rw [h₁, h₂]
    cases current <;> simp [h] <;> decide
  · simp only [h, and_false, not_false_iff, iff_true]
    exact max_le_max le_rfl (grant_mono ht hsev hconf h)

end Grants

namespace Arbiter

variable {P : Platform} {env env' : Supply} {crypto crypto' : CryptoEngine} {a : Arbiter}
  {s₁ s₂ : GovernanceSignal} {modifier : ℚ}

lemma effectiveThresholds_ordered (h : a.config.thresholds.Ordered) {t : Thresholds}
    (ht : effectiveThresholds a.config modifier = some t) : t.Ordered := by
  unfold effectiveThresholds at ht
  split at ht
  · simp at ht
  · next hm =>
    split at ht
    · obtain rfl := Option.some.inj ht
      exact h
    · obtain rfl := Option.some.inj ht
      exact h.scale (not_le.mp hm).le

/-- A blocking modifier is monotone: it locks on every signal that reports something. -/
lemma blocked_le (hsid : s₁.sessionId = s₂.sessionId) (hsev : s₁.severity ≤ s₂.severity) :
    (if s₁.isClean then a.currentState s₁.sessionId else .S4) ≤
      (if s₂.isClean then a.currentState s₂.sessionId else .S4) := by
  by_cases h₂ : s₂.isClean = true
  · have h₁ : s₁.isClean = true := by
      simp only [GovernanceSignal.isClean, decide_eq_true_eq] at h₂ ⊢
      rw [h₂] at hsev
      exact le_antisymm hsev (by cases s₁.severity <;> decide)
    simp [h₁, h₂, hsid]
  · simpa [h₂] using SecurityState.le_S4 _

/-- A signal of session `s` with a severity and a confidence. -/
def bareSignal (severity : Severity) (confidence : ℚ) : GovernanceSignal :=
  ((SignalBuilder.new .overWatch .inbound "s").withSeverity severity confidence).build
    (fixedSupply 0 0)

end Arbiter

end GovSec
