import GovSec.MemoryFloor
import GovSec.ArbiterOrder

/-!
The levels of a session's memory: how its state follows the accumulated threat.

A turn selects the state anew by a ladder of thresholds, whatever the state before, unless the
velocity of a clear memory makes it `Elevated` at once. The velocity therefore hides the levels
above `Elevated`, and the state it sets is lost on the next turn.
-/

namespace GovSec

open GovSec.Lib.Text GovSec.Lib.Runs

/-! ### The order of the states -/

namespace MemoryState

def rank : MemoryState → ℕ
  | clear => 0
  | watching => 1
  | elevated => 2
  | escalated => 3
  | locked => 4

lemma rank_injective : Function.Injective rank := by
  intro a b h; cases a <;> cases b <;> simp [rank] at h ⊢

/-- By growing scrutiny. -/
instance : LinearOrder MemoryState := LinearOrder.lift' rank rank_injective

lemma clear_le (s : MemoryState) : clear ≤ s := by cases s <;> decide
lemma le_locked (s : MemoryState) : s ≤ locked := by cases s <;> decide

end MemoryState

/-! ### The ladder -/

namespace MemoryConfig

variable {c : MemoryConfig} {a b threat : ℚ}

/-- All four thresholds in their order. -/
structure Ascending (c : MemoryConfig) : Prop extends c.Ordered where
  watching_le_elevated : c.watchingThreshold ≤ c.elevatedThreshold

lemma default_ascending : MemoryConfig.default.Ascending where
  toOrdered := default_ordered
  watching_le_elevated := by norm_num [MemoryConfig.default]

/-- The state that a threat alone selects. -/
def level (c : MemoryConfig) (threat : ℚ) : MemoryState :=
  if c.lockedThreshold ≤ threat then .locked
  else if c.escalatedThreshold ≤ threat then .escalated
  else if c.elevatedThreshold ≤ threat then .elevated
  else if c.watchingThreshold ≤ threat then .watching
  else .clear

/-- The threat is at least the threshold of the state. -/
def Reaches (c : MemoryConfig) (threat : ℚ) : MemoryState → Prop
  | .clear => True
  | .watching => c.watchingThreshold ≤ threat
  | .elevated => c.elevatedThreshold ≤ threat
  | .escalated => c.escalatedThreshold ≤ threat
  | .locked => c.lockedThreshold ≤ threat

/-- **The ladder and the thresholds** say the same. -/
theorem le_level_iff (hc : c.Ascending) (s : MemoryState) :
    s ≤ c.level threat ↔ c.Reaches threat s := by
  obtain ⟨⟨h₁, h₂⟩, h₀⟩ := hc
  unfold level
  split_ifs with hl he hel hw <;> cases s <;> simp +decide [Reaches] <;> linarith

lemma level_mono : Monotone c.level := by
  intro a b hab
  unfold level
  split_ifs <;> first | decide | (exfalso; linarith)

lemma level_le_elevated :
    c.level threat ≤ .elevated ↔ threat < c.escalatedThreshold ∧ threat < c.lockedThreshold := by
  unfold level
  split_ifs with hl he hel hw <;> simp +decide <;> grind

end MemoryConfig

/-! ### Turns -/

/-- One more signal for a memory. -/
structure Ingestion where
  now : DateTime
  signal : GovernanceSignal
  classification : RequestClassification

namespace SessionMemory

open Arbiter (bareSignal)

/-- The state that one more signal leads to. -/
def stateWith (signal : GovernanceSignal) (classification : RequestClassification)
    (config : MemoryConfig) (m : SessionMemory) : MemoryState :=
  if m.Jumps config (m.threatWith signal classification config) then .elevated
  else config.level (m.threatWith signal classification config)

lemma ingestSignal_stateWith {now : DateTime} {signal : GovernanceSignal}
    {classification : RequestClassification} {config : MemoryConfig} {m : SessionMemory} :
    (ingestSignal now signal classification config m).2.memoryState =
      m.stateWith signal classification config := ingestSignal_memoryState

/-- A memory that takes in one signal after another. -/
def ingestion (config : MemoryConfig) : System SessionMemory Ingestion MemoryVerdict :=
  ⟨fun m e => ingestSignal e.now e.signal e.classification config m⟩

variable {config : MemoryConfig} {m : SessionMemory} {e : Ingestion} {os : List Ingestion}

/-- The memory after one more signal. -/
def after (config : MemoryConfig) (m : SessionMemory) (e : Ingestion) : SessionMemory :=
  ((ingestion config).step m e).2

/-- The threat that the signal brings the memory to. -/
def threatAfter (config : MemoryConfig) (m : SessionMemory) (e : Ingestion) : ℚ :=
  m.threatWith e.signal e.classification config

lemma recordEscalation_cumulativeThreat :
    (recordEscalation m).cumulativeThreat = m.cumulativeThreat := by
  unfold recordEscalation
  split <;> rfl

lemma after_cumulativeThreat :
    (after config m e).cumulativeThreat = threatAfter config m e := by
  simp only [after, ingestion, ingestSignal, recordEscalation_cumulativeThreat, accumulate,
    signalWeight_recordTurn, countPattern_cumulativeThreat]
  rfl

lemma after_memoryState :
    (after config m e).memoryState =
      if m.Jumps config (threatAfter config m e) then .elevated
      else config.level (threatAfter config m e) := ingestSignal_stateWith

/-! ### What the velocity hides -/

/-- The state after a turn is at least the level of the threat. -/
def AtLevel (config : MemoryConfig) (m : SessionMemory) (e : Ingestion) : Prop :=
  config.level (after config m e).cumulativeThreat ≤ (after config m e).memoryState

/-- A clear memory that jumps to `Elevated` has no threat for a higher level. -/
def HidesNothing (config : MemoryConfig) (m : SessionMemory) (e : Ingestion) : Prop :=
  m.Jumps config (threatAfter config m e) →
    threatAfter config m e < config.escalatedThreshold ∧
      threatAfter config m e < config.lockedThreshold

instance : Decidable (AtLevel config m e) := inferInstanceAs (Decidable (_ ≤ _))

lemma atLevel_iff : AtLevel config m e ↔ HidesNothing config m e := by
  unfold AtLevel HidesNothing
  rw [after_cumulativeThreat, after_memoryState, ← MemoryConfig.level_le_elevated]
  split
  · next hj => simp [hj]
  · next hj => simp [hj]

/-- At its level, a memory with the threat of a locked session is locked. -/
lemma AtLevel.locked (h : AtLevel config m e)
    (hl : config.lockedThreshold ≤ (after config m e).cumulativeThreat) :
    (after config m e).memoryState = .locked := by
  unfold AtLevel MemoryConfig.level at h
  rw [if_pos hl] at h
  exact le_antisymm (MemoryState.le_locked _) h

/-- **When the memory is at its level.** After every turn of a run the state is at least the level
of the threat exactly when no jump of the run hides a higher one. -/
theorem atLevel_run_iff :
    (ingestion config).Always (AtLevel config) m os ↔
      (ingestion config).Always (HidesNothing config) m os :=
  System.always_congr fun _ _ => atLevel_iff

/-- A turn with a signal of the severity and confidence, and of no class. -/
def bareTurn (severity : Severity) (confidence : ℚ) : Ingestion :=
  ⟨0, bareSignal severity confidence, .benign⟩

/-- A turn with a signal that reports the exfiltration of the model. -/
def exfilTurn : Ingestion :=
  { bareTurn .critical 0.9 with
    signal := { bareSignal .critical 0.9 with violationClass := some "MODEL_EXFIL" } }

/-- **A third turn hides a locked session**: the threat is above the locked threshold, and the
memory is `Elevated`. -/
theorem exfilTurn_hidden :
    ¬ (ingestion .default).Always (AtLevel .default) (new 0 "s")
      [bareTurn .none 0, bareTurn .none 0, exfilTurn] := by
  rintro ⟨-, -, h, -⟩
  exact absurd h (by decide +kernel)

/-! ### What the next turn loses -/

/-- Scrutiny does not relax on a turn on which the threat did not fall. -/
def NeverRelaxes (config : MemoryConfig) (m : SessionMemory) (e : Ingestion) : Prop :=
  m.cumulativeThreat ≤ (after config m e).cumulativeThreat →
    m.memoryState ≤ (after config m e).memoryState

/-- The threat falls, or it reaches the threshold of the state that the memory has. -/
def FallsOrReaches (config : MemoryConfig) (m : SessionMemory) (e : Ingestion) : Prop :=
  threatAfter config m e < m.cumulativeThreat ∨
    config.Reaches (threatAfter config m e) m.memoryState

instance : Decidable (NeverRelaxes config m e) := inferInstanceAs (Decidable (_ → _))

lemma neverRelaxes_iff (hc : config.Ascending) :
    NeverRelaxes config m e ↔ FallsOrReaches config m e := by
  unfold NeverRelaxes FallsOrReaches
  rw [after_cumulativeThreat, after_memoryState, ← MemoryConfig.le_level_iff hc, ← not_lt,
    imp_iff_not_or, not_not]
  refine or_congr_right ?_
  split
  · next hj =>
    rw [hj.1]
    exact iff_of_true (MemoryState.clear_le _) (MemoryState.clear_le _)
  · exact Iff.rfl

/-- **When scrutiny never relaxes.** In a run no turn without a fall of the threat lowers the state
exactly when every such turn reaches the threshold of the state before it. -/
theorem neverRelaxes_run_iff (hc : config.Ascending) :
    (ingestion config).Always (NeverRelaxes config) m os ↔
      (ingestion config).Always (FallsOrReaches config) m os :=
  System.always_congr fun _ _ => neverRelaxes_iff hc

/-- Three turns that raise a new memory to `Elevated` by its velocity, and one that adds to its
threat. -/
def relaxingTurns : List Ingestion :=
  [bareTurn .none 0, bareTurn .none 0, bareTurn .medium 0.8, bareTurn .low 0.2]

theorem neverRelaxes_run_iff_relaxingTurns :
    (ingestion .default).Always (NeverRelaxes .default) (new 0 "s") relaxingTurns ↔
      (ingestion .default).Always (FallsOrReaches .default) (new 0 "s") relaxingTurns :=
  neverRelaxes_run_iff MemoryConfig.default_ascending

/-- **The fourth turn clears the session**, whose threat has grown since the third made it
`Elevated`. -/
theorem relaxingTurns_relax :
    ¬ (ingestion .default).Always (NeverRelaxes .default) (new 0 "s") relaxingTurns := by
  rintro ⟨-, -, -, h, -⟩
  exact absurd h (by decide +kernel)

/-- The state is one that the threat of the memory selects. -/
def Earned (config : MemoryConfig) (m : SessionMemory) : Prop :=
  m.memoryState ≤ config.level m.cumulativeThreat

lemma earned_after (h : ¬ m.Jumps config (threatAfter config m e)) :
    Earned config (after config m e) := by
  unfold Earned
  rw [after_cumulativeThreat, after_memoryState, if_neg h]

lemma Earned.neverRelaxes (h : Earned config m) : NeverRelaxes config m e := by
  intro hle
  rw [after_cumulativeThreat] at hle
  rw [after_memoryState]
  split
  · next hj =>
    rw [hj.1]
    exact MemoryState.clear_le _
  · exact h.trans (MemoryConfig.level_mono hle)

/-- **Only the velocity and a state set from outside relax.** A run without a jump, from a memory
whose state its threat selects, never relaxes. -/
theorem neverRelaxes_of_earned (h : Earned config m)
    (hos : (ingestion config).Always (fun m e => ¬ m.Jumps config (threatAfter config m e)) m os) :
    (ingestion config).Always (NeverRelaxes config) m os := by
  induction os generalizing m with
  | nil => trivial
  | cons e os ih => exact ⟨h.neverRelaxes, ih (earned_after hos.1) hos.2⟩

end SessionMemory

end GovSec
