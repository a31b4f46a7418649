import GovSec.MemoryLevels

/-!
How the threat of a session fades.

A turn multiplies the threat by the decay factor and adds the weight of its signal. The bonuses of
the counters belong to every turn, also to a benign one without a finding. The threat therefore
tends to a level of its own, which the counters set, and grows as long as it is below it.
-/

namespace GovSec

open GovSec.Lib.Runs

/-- A benign turn without a finding. -/
structure Ingestion.Clean (e : Ingestion) : Prop where
  severity : e.signal.severity = .none
  violationClass : e.signal.violationClass = none
  classification : e.classification = .benign

namespace SessionMemory

variable {config : MemoryConfig} {m : SessionMemory} {e : Ingestion} {os : List Ingestion}

/-! ### One clean turn -/

/-- What the counters add to a turn, whatever its signal. -/
def patternBonus (config : MemoryConfig) (m : SessionMemory) : ℚ :=
  (if config.boundaryProbeLimit < m.boundaryProbes then
    0.1 * ((m.boundaryProbes - config.boundaryProbeLimit : ℕ) : ℚ) else 0) +
  (if 1 < m.extractionAttempts then 0.15 * (m.extractionAttempts : ℚ) else 0)

lemma threatAfter_clean (he : e.Clean) :
    threatAfter config m e = config.decayFactor * m.cumulativeThreat + m.patternBonus config := by
  obtain ⟨hseverity, hclass, hbenign⟩ := he
  simp only [threatAfter, threatWith, signalWeight, patternBonus, hseverity, hclass, hbenign,
    countPattern, severityWeight, threatAmplifier, reduceCtorEq, if_false]
  ring

lemma patternBonus_recordEscalation :
    (recordEscalation m).patternBonus config = m.patternBonus config := by
  unfold recordEscalation
  split <;> rfl

/-- A clean turn leaves the counters alone. -/
lemma patternBonus_after (he : e.Clean) :
    (after config m e).patternBonus config = m.patternBonus config := by
  simp only [after, ingestion, ingestSignal, patternBonus_recordEscalation, he.classification]
  rfl

/-- A clean turn does not raise the threat. -/
def Fades (config : MemoryConfig) (m : SessionMemory) (e : Ingestion) : Prop :=
  e.Clean → (after config m e).cumulativeThreat ≤ m.cumulativeThreat

/-- The share of the threat that decays is at least the bonus of the counters. -/
def DecayCovers (config : MemoryConfig) (m : SessionMemory) : Prop :=
  m.patternBonus config ≤ (1 - config.decayFactor) * m.cumulativeThreat

lemma fades_iff : Fades config m e ↔ (e.Clean → DecayCovers config m) := by
  refine imp_congr_right fun he => ?_
  rw [after_cumulativeThreat, threatAfter_clean he, DecayCovers]
  constructor <;> intro h <;> linarith

/-- **When clean turns never raise the threat.** In a run no clean turn raises the threat exactly
when on each of them the decay covers the bonus of the counters. -/
theorem fades_run_iff :
    (ingestion config).Always (Fades config) m os ↔
      (ingestion config).Always (fun m e => e.Clean → DecayCovers config m) m os :=
  System.always_congr fun _ _ => fades_iff

/-- A turn without a finding that asks for the system's internals. -/
def extractionTurn : Ingestion := { bareTurn .none 0 with classification := .extraction }

lemma clean_bareTurn : (bareTurn .none 0).Clean := ⟨rfl, rfl, rfl⟩

/-- **A benign turn raises the threat** of a session in which two turns before it asked for the
system's internals. -/
theorem extractionTurns_grow :
    ¬ (ingestion .default).Always (Fades .default) (new 0 "s")
      [extractionTurn, extractionTurn, bareTurn .none 0] := by
  rintro ⟨-, -, h, -⟩
  exact absurd (h clean_bareTurn) (by decide +kernel)

/-! ### A run of clean turns -/

/-- The decay covers the bonus after a clean turn when it did before. -/
lemma DecayCovers.after (hd : 0 ≤ config.decayFactor) (he : e.Clean) (h : DecayCovers config m) :
    DecayCovers config (after config m e) := by
  unfold DecayCovers at h ⊢
  rw [patternBonus_after he, after_cumulativeThreat, threatAfter_clean he]
  calc m.patternBonus config
      = (1 - config.decayFactor) * m.patternBonus config +
          config.decayFactor * m.patternBonus config := by ring
    _ ≤ (1 - config.decayFactor) * m.patternBonus config +
          config.decayFactor * ((1 - config.decayFactor) * m.cumulativeThreat) := by gcongr
    _ = (1 - config.decayFactor) *
          (config.decayFactor * m.cumulativeThreat + m.patternBonus config) := by ring

/-- **A run of clean turns fades from its start or not at all**: it never raises the threat
exactly when its first turn does not. -/
theorem fades_clean_run_iff (hd : 0 ≤ config.decayFactor) (hne : os ≠ [])
    (hos : ∀ e ∈ os, e.Clean) :
    (ingestion config).Always (Fades config) m os ↔ DecayCovers config m := by
  rw [fades_run_iff]
  constructor
  · obtain ⟨e, os, rfl⟩ := List.exists_cons_of_ne_nil hne
    exact fun h => h.1 (hos e List.mem_cons_self)
  · clear hne
    induction os generalizing m with
    | nil => exact fun _ => trivial
    | cons e os ih =>
      have he : e.Clean := hos e List.mem_cons_self
      intro h
      exact ⟨fun _ => h, ih (fun e he => hos e (List.mem_cons_of_mem _ he)) (h.after hd he)⟩

/-- The threat at which the decay is exactly the bonus. -/
def restingThreat (config : MemoryConfig) (m : SessionMemory) : ℚ :=
  m.patternBonus config / (1 - config.decayFactor)

lemma after_sub_restingThreat (hd : config.decayFactor ≠ 1) (he : e.Clean) :
    (after config m e).cumulativeThreat - restingThreat config m =
      config.decayFactor * (m.cumulativeThreat - restingThreat config m) := by
  have hne : 1 - config.decayFactor ≠ 0 := sub_ne_zero.mpr hd.symm
  have hbonus : restingThreat config m * (1 - config.decayFactor) = m.patternBonus config :=
    div_mul_cancel₀ _ hne
  calc (after config m e).cumulativeThreat - restingThreat config m
      = config.decayFactor * m.cumulativeThreat + m.patternBonus config -
          restingThreat config m := by rw [after_cumulativeThreat, threatAfter_clean he]
    _ = config.decayFactor * m.cumulativeThreat +
          restingThreat config m * (1 - config.decayFactor) - restingThreat config m := by
      rw [hbonus]
    _ = config.decayFactor * (m.cumulativeThreat - restingThreat config m) := by ring

/-- **Where a run of clean turns leads**: the distance to the resting threat shrinks by the decay
factor on each turn. -/
theorem clean_run_cumulativeThreat (hd : config.decayFactor ≠ 1) (hos : ∀ e ∈ os, e.Clean) :
    ((ingestion config).exec m os).2.cumulativeThreat - restingThreat config m =
      config.decayFactor ^ os.length * (m.cumulativeThreat - restingThreat config m) := by
  induction os generalizing m with
  | nil => simp [System.exec]
  | cons e os ih =>
    have he : e.Clean := hos e List.mem_cons_self
    have hresting : restingThreat config (after config m e) = restingThreat config m := by
      rw [restingThreat, restingThreat, patternBonus_after he]
    have hrest := ih (m := after config m e) fun e he => hos e (List.mem_cons_of_mem _ he)
    rw [hresting] at hrest
    calc ((ingestion config).exec m (e :: os)).2.cumulativeThreat - restingThreat config m
        = config.decayFactor ^ os.length *
            ((after config m e).cumulativeThreat - restingThreat config m) := hrest
      _ = config.decayFactor ^ os.length *
            (config.decayFactor * (m.cumulativeThreat - restingThreat config m)) := by
        rw [after_sub_restingThreat hd he]
      _ = config.decayFactor ^ (e :: os).length *
            (m.cumulativeThreat - restingThreat config m) := by
        rw [List.length_cons, pow_succ, mul_assoc]

/-- Two turns that ask for the system's internals are enough for clean turns to lead above the
locked threshold. -/
example : MemoryConfig.default.lockedThreshold < restingThreat .default
    ((ingestion .default).exec (new 0 "s") [extractionTurn, extractionTurn]).2 := by
  decide +kernel

end SessionMemory

end GovSec
