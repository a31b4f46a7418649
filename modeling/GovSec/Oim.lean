import GovSec.Signal
import GovSec.Lib.Maps

/-!
OIM, the monitor of the monitor: it watches the signals of OverWatch over all sessions and
reports when their rate, their confidences or their rules depart from a baseline.
-/

namespace GovSec

open GovSec.Lib.Text GovSec.Lib.Maps

structure OverWatchSignature where
  recentSignals : List (DateTime × ℚ × Str)
  confidenceScores : List ℚ
  ruleInvocations : HashMap Str ℕ
  baselineEscalationRate : Option ℚ
  baselineConfidenceMean : Option ℚ

namespace OverWatchSignature

def new : OverWatchSignature := ⟨[], [], ∅, none, none⟩

variable (sig : OverWatchSignature)

def recordSignal (now : DateTime) (signal : GovernanceSignal) : OverWatchSignature :=
  let scores := sig.confidenceScores ++ [signal.confidence]
  { sig with
    recentSignals :=
      (sig.recentSignals ++ [(now, signal.confidence, signal.severity.text)]).filter fun s =>
        now - 600 * nanosPerSec < s.1
    confidenceScores := if 100 < scores.length then scores.tail else scores
    ruleInvocations :=
      match signal.policyRuleId with
      | some rule =>
        sig.ruleInvocations.insert rule ((sig.ruleInvocations.lookup rule).getD 0 + 1)
      | none => sig.ruleInvocations }

/-- The share of the recent signals that are younger than five minutes and not clean. -/
def currentEscalationRate (now : DateTime) : ℚ :=
  let total : ℚ := sig.recentSignals.length
  let escalated : ℚ := sig.recentSignals.countP fun s =>
    now - 300 * nanosPerSec < s.1 && s.2.2 ≠ ("NONE" : Str)
  if total = 0 then 0 else escalated / total

def confidenceMean : ℚ :=
  if sig.confidenceScores.isEmpty then 0
  else sig.confidenceScores.sum / sig.confidenceScores.length

def confidenceVariance : ℚ :=
  if sig.confidenceScores.length < 2 then 0
  else
    (sig.confidenceScores.map fun x => (x - sig.confidenceMean) ^ 2).sum /
      sig.confidenceScores.length

def maybeEstablishBaseline (now : DateTime) : OverWatchSignature :=
  if sig.baselineEscalationRate.isNone ∧ 20 ≤ sig.recentSignals.length then
    { sig with
      baselineEscalationRate := some (sig.currentEscalationRate now)
      baselineConfidenceMean := some sig.confidenceMean }
  else sig

def ruleConcentration : ℚ :=
  let total := (values sig.ruleInvocations).sum
  if total = 0 then 0 else (((values sig.ruleInvocations).fold max 0 : ℕ) : ℚ) / total

end OverWatchSignature

structure OIM where
  sig : OverWatchSignature
  escalationRateThreshold : ℚ
  confidenceVarianceThreshold : ℚ
  confidenceMeanThreshold : ℚ

namespace OIM

def new : OIM := ⟨.new, 0.40, 0.15, 0.35⟩

variable (o : OIM)

def escalationRateCheck (now : DateTime) : Option Finding :=
  o.sig.baselineEscalationRate.bind fun baseline =>
    let gap := |o.sig.currentEscalationRate now - baseline|
    if o.escalationRateThreshold < gap then
      some ⟨"OVERWATCH_ESCALATION_RATE_ANOMALY", "OIM-001", .high, min (gap * 2) 0.95,
        "oim/behavioral_integrity"⟩
    else none

def varianceCheck : Option Finding :=
  if 20 < o.sig.confidenceScores.length ∧ o.confidenceVarianceThreshold < o.sig.confidenceVariance
  then
    some ⟨"OVERWATCH_CONFIDENCE_ANOMALY", "OIM-002", .high, 0.85, "oim/confidence_integrity"⟩
  else none

def meanCheck : Option Finding :=
  o.sig.baselineConfidenceMean.bind fun baselineMean =>
    if 20 < o.sig.confidenceScores.length ∧
        o.confidenceMeanThreshold < |o.sig.confidenceMean - baselineMean| then
      some ⟨"OVERWATCH_CONFIDENCE_MEAN_DRIFT", "OIM-003", .medium, 0.75,
        "oim/confidence_integrity"⟩
    else none

def concentrationCheck : Option Finding :=
  if 30 < o.sig.recentSignals.length ∧ 0.80 < o.sig.ruleConcentration then
    some ⟨"OVERWATCH_RULE_CONCENTRATION_ANOMALY", "OIM-004", .medium, 0.72,
      "oim/rule_utilization_integrity"⟩
  else none

/-- The first check of `observe` that reports. -/
def finding (now : DateTime) : Option Finding :=
  o.escalationRateCheck now <|> o.varianceCheck <|> o.meanCheck <|> o.concentrationCheck

variable (P : Platform) (env : Supply) (crypto : CryptoEngine)

def observe (owSignal : GovernanceSignal) : GovernanceSignal × OIM × CryptoEngine :=
  let sig := (o.sig.recordSignal (env.part 0).now owSignal).maybeEstablishBaseline (env.part 1).now
  let o := { o with sig }
  let (signal, crypto) := attachCrypto P (env.part 3) crypto
    (layerSignal .oim owSignal.direction owSignal.sessionId (computeHash P owSignal.canonical)
      (o.finding (env.part 2).now))
  (signal, o, crypto)

variable {o}

lemma finding_severity_ne_none {now : DateTime} :
    ∀ f, o.finding now = some f → f.severity ≠ .none := by
  simp only [finding, Option.orElse_eq_orElse, Option.orElse_eq_or]
  refine Finding.of_or (fun f h => ?_) (Finding.of_or (fun f h => ?_) (Finding.of_or (fun f h => ?_)
    (fun f h => ?_)))
  · obtain ⟨baseline, -, hf⟩ := Option.bind_eq_some_iff.mp h
    dsimp only at hf
    split at hf <;> cases hf
    exact (by decide : Severity.high ≠ .none)
  · unfold varianceCheck at h
    split at h <;> cases h
    decide
  · obtain ⟨mean, -, hf⟩ := Option.bind_eq_some_iff.mp h
    split at hf <;> cases hf
    decide
  · unfold concentrationCheck at h
    split at h <;> cases h
    decide

end OIM

end GovSec
