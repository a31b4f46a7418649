import GovSec.MemoryLevels
import GovSec.Lib.Windows

/-!
The turns that a session's memory retains.

A memory drops its oldest turns in the middle of a call, before it counts, weighs and measures the
new one. Nothing that it measures reaches further back than the turns it keeps, so to its callers it
is a memory that keeps every turn. The counters are `u32` and start over after `2 ^ 32` calls.
-/

namespace GovSec

open GovSec.Lib.Text GovSec.Lib.Runs GovSec.Lib.Windows

/-- A call of `ingest_signal`, with the configuration that it is given. -/
structure IngestCall extends Ingestion where
  config : MemoryConfig

namespace SessionMemory

/-! ### Machine counters -/

/-- What an addition leaves of a `u32`, in a build without overflow checks. -/
def wrap (n : ℕ) : ℕ := n % 2 ^ 32

lemma wrap_of_lt {n : ℕ} (h : n < 2 ^ 32) : wrap n = n := Nat.mod_eq_of_lt h

lemma wrap_succ_wrap (n : ℕ) : wrap (wrap n + 1) = wrap (n + 1) := Nat.mod_add_mod ..

def turnRecord (turn : ℕ) (e : Ingestion) : TurnRecord where
  turn
  timestamp := e.now
  severity := e.signal.severity.text
  confidence := e.signal.confidence
  classification := e.classification
  violationClass := e.signal.violationClass

/-- The turns that are left when the oldest are drained. -/
def lastTurns (turns : List TurnRecord) : List TurnRecord :=
  turns.drop (turns.length - maxRetainedTurns)

section Ingest

variable (keep : List TurnRecord → List TurnRecord)

/-- `recordTurn` on `u32`; `keep` says which turns are kept. -/
def recordTurnU32 (e : Ingestion) (m : SessionMemory) : SessionMemory :=
  let turnCount := wrap (m.turnCount + 1)
  { m with turnCount, turns := keep (m.turns ++ [turnRecord turnCount e]) }

/-- `countPattern` on `u32`. -/
def countPatternU32 (classification : RequestClassification) (m : SessionMemory) : SessionMemory :=
  let counted := countPattern classification m
  { counted with
    boundaryProbes := wrap counted.boundaryProbes
    authorityClaims := wrap counted.authorityClaims
    extractionAttempts := wrap counted.extractionAttempts
    obfuscationCount := wrap counted.obfuscationCount }

/-- The memory once its metrics are measured. -/
def settled (config : MemoryConfig) (metrics : SessionMemory) : SessionMemory :=
  recordEscalation { metrics with memoryState := computeState config metrics }

/-- What a call does after it has counted: weigh, measure and decide. -/
def conclude (c : IngestCall) (previous counted : SessionMemory) : MemoryVerdict × SessionMemory :=
  let weighted := signalWeight c.signal c.classification c.config counted
  let m' := settled c.config (accumulate c.signal weighted c.config counted)
  (verdict previous m', m')

/-- `ingestSignal` on `u32`. -/
def ingestSignalU32 (c : IngestCall) (m : SessionMemory) : MemoryVerdict × SessionMemory :=
  conclude c m (countPatternU32 c.classification (recordTurnU32 keep c.toIngestion m))

end Ingest

/-- The memory of the source. -/
def retaining : System SessionMemory IngestCall MemoryVerdict :=
  ⟨fun m c => ingestSignalU32 lastTurns c m⟩

/-- A memory that never drops a turn. -/
def neverTruncating : System SessionMemory IngestCall MemoryVerdict :=
  ⟨fun m c => ingestSignalU32 id c m⟩

/-- A memory whose counters have no bound. -/
def counting : System SessionMemory IngestCall MemoryVerdict :=
  ⟨fun m c => ingestSignal c.now c.signal c.classification c.config m⟩

/-! ### What a dropped turn changes -/

variable {m : SessionMemory} {c : IngestCall} {calls : List IngestCall}

/-- The memory with its oldest turns dropped. -/
def truncated (m : SessionMemory) : SessionMemory := { m with turns := lastTurns m.turns }

/-- The window of the trajectory is within the turns that are kept. -/
lemma computeTrajectory_truncated : computeTrajectory 5 m.truncated = computeTrajectory 5 m := by
  have hwindow : (lastTurns m.turns).drop ((lastTurns m.turns).length - 5) =
      m.turns.drop (m.turns.length - 5) := rtake_rtake (by decide)
  simp only [computeTrajectory, truncated, hwindow]

lemma recordTurnU32_truncated : recordTurnU32 lastTurns c.toIngestion m.truncated =
    (recordTurnU32 id c.toIngestion m).truncated := by
  simp only [recordTurnU32, truncated, id]
  congr 1
  exact rtake_concat_rtake ..

lemma countPatternU32_truncated {classification : RequestClassification} :
    countPatternU32 classification m.truncated =
      (countPatternU32 classification m).truncated := by
  cases classification <;> rfl

lemma recordEscalation_truncated :
    recordEscalation m.truncated = (recordEscalation m).truncated := by
  have hcheckpoint : m.truncated.forceCheckpoint = m.forceCheckpoint := rfl
  have hescalated : m.truncated.escalated = m.escalated := rfl
  unfold recordEscalation
  rw [hcheckpoint, hescalated]
  cases m.forceCheckpoint && !m.escalated <;> rfl

lemma accumulate_truncated {signal : GovernanceSignal} {weighted : ℚ} {config : MemoryConfig} :
    accumulate signal weighted config m.truncated =
      (accumulate signal weighted config m).truncated := by
  unfold accumulate
  rw [computeTrajectory_truncated]
  rfl

lemma settled_truncated {config : MemoryConfig} :
    settled config m.truncated = (settled config m).truncated :=
  recordEscalation_truncated (m := { m with memoryState := computeState config m })

/-- What follows the count reads no turn that was dropped. -/
lemma conclude_truncated {previous counted : SessionMemory} :
    conclude c previous.truncated counted.truncated =
      ((conclude c previous counted).1, (conclude c previous counted).2.truncated) := by
  have hweight : signalWeight c.signal c.classification c.config counted.truncated =
      signalWeight c.signal c.classification c.config counted := rfl
  unfold conclude
  dsimp only
  rw [hweight, accumulate_truncated, settled_truncated]
  rfl

/-- **A call on a memory whose oldest turns were dropped** answers as on the whole memory, and
leaves the whole next memory without its oldest turns. -/
theorem ingestSignalU32_truncated (m : SessionMemory) (c : IngestCall) :
    retaining.step m.truncated c =
      ((neverTruncating.step m c).1, (neverTruncating.step m c).2.truncated) := by
  have hcounted : countPatternU32 c.classification
      (recordTurnU32 lastTurns c.toIngestion m.truncated) =
        (countPatternU32 c.classification (recordTurnU32 id c.toIngestion m)).truncated := by
    rw [recordTurnU32_truncated, countPatternU32_truncated]
  have hstep : retaining.step m.truncated c = conclude c m.truncated
      (countPatternU32 c.classification (recordTurnU32 lastTurns c.toIngestion m.truncated)) := rfl
  rw [hstep, hcounted]
  exact conclude_truncated

/-! ### Runs -/

/-- The record of every call, in order; `number` writes its number. -/
def turnRecords (number : ℕ → ℕ) (calls : List IngestCall) : List TurnRecord :=
  (calls.zipIdx 1).map fun (c, i) => turnRecord (number i) c.toIngestion

variable {number : ℕ → ℕ}

lemma length_turnRecords : (turnRecords number calls).length = calls.length := by
  rw [turnRecords, List.length_map, List.length_zipIdx]

lemma turnRecords_concat : turnRecords number (calls ++ [c]) =
    turnRecords number calls ++ [turnRecord (number (calls.length + 1)) c.toIngestion] := by
  simp [turnRecords, List.zipIdx_append, Nat.add_comm]

lemma map_turn_turnRecords :
    (turnRecords number calls).map (·.turn) = (List.range' 1 calls.length).map number := by
  rw [← List.zipIdx_map_snd 1 calls, turnRecords, List.map_map, List.map_map]
  rfl

/-- Numbers below `2 ^ 32` are written as they are. -/
lemma turnRecords_wrap (h : calls.length < 2 ^ 32) :
    turnRecords wrap calls = turnRecords id calls := by
  refine List.map_congr_left ?_
  rintro ⟨c, i⟩ hi
  have hle : i < 1 + calls.length := List.snd_lt_add_of_mem_zipIdx hi
  show turnRecord (wrap i) _ = turnRecord i _
  rw [wrap_of_lt (by omega)]

lemma conclude_turns (c : IngestCall) (previous counted : SessionMemory) :
    (conclude c previous counted).2.turns = counted.turns ∧
      (conclude c previous counted).2.turnCount = counted.turnCount := by
  unfold conclude settled recordEscalation
  dsimp only
  split <;> exact ⟨rfl, rfl⟩

lemma countPatternU32_turns (classification : RequestClassification) (m : SessionMemory) :
    (countPatternU32 classification m).turns = m.turns ∧
      (countPatternU32 classification m).turnCount = m.turnCount := by
  cases classification <;> exact ⟨rfl, rfl⟩

lemma neverTruncating_step :
    (neverTruncating.step m c).2.turns =
        m.turns ++ [turnRecord (wrap (m.turnCount + 1)) c.toIngestion] ∧
      (neverTruncating.step m c).2.turnCount = wrap (m.turnCount + 1) := by
  obtain ⟨hturns, hcount⟩ := conclude_turns c m
    (countPatternU32 c.classification (recordTurnU32 id c.toIngestion m))
  obtain ⟨hturns', hcount'⟩ :=
    countPatternU32_turns c.classification (recordTurnU32 id c.toIngestion m)
  exact ⟨hturns.trans hturns', hcount.trans hcount'⟩

variable (now : DateTime) (sessionId : Str) (calls)

/-- A memory that never drops a turn has them all. -/
lemma neverTruncating_turns :
    (neverTruncating.exec (new now sessionId) calls).2.turns = turnRecords wrap calls ∧
      (neverTruncating.exec (new now sessionId) calls).2.turnCount = wrap calls.length := by
  have hrun := System.Run.invariant (I := fun es m =>
      m.turns = turnRecords wrap (es.map Prod.fst) ∧ m.turnCount = wrap es.length) ⟨rfl, rfl⟩ ?_
    (System.Run.of_exec (M := neverTruncating) (new now sessionId) calls)
  · have hlength : (neverTruncating.exec (new now sessionId) calls).1.length = calls.length := by
      rw [← List.length_map Prod.fst, System.map_fst_exec]
    rwa [System.map_fst_exec, hlength] at hrun
  · rintro es m c ⟨hturns, hcount⟩
    obtain ⟨hturns', hcount'⟩ := neverTruncating_step (m := m) (c := c)
    rw [List.map_append, List.map_singleton, turnRecords_concat, List.length_map,
      List.length_append, List.length_singleton, hturns', hcount', hturns, hcount, wrap_succ_wrap]
    exact ⟨rfl, rfl⟩

/-- **A run** answers as one that never drops a turn, and ends in the memory of that run without
its oldest turns. -/
theorem retaining_exec : retaining.exec (new now sessionId) calls =
    ((neverTruncating.exec (new now sessionId) calls).1,
      (neverTruncating.exec (new now sessionId) calls).2.truncated) :=
  System.exec_map (f := truncated) ingestSignalU32_truncated (new now sessionId) calls

/-- What the memory `m` holds after the calls, beside a memory `whole` that dropped no turn. -/
structure Retains (number : ℕ → ℕ) (m whole : SessionMemory) : Prop where
  turnCount : m.turnCount = number calls.length
  turns : m.turns = (turnRecords number calls).rtake maxRetainedTurns
  length : m.turns.length = min calls.length maxRetainedTurns
  consecutive : m.turns.map (·.turn) =
    (List.range' (calls.length + 1 - m.turns.length) m.turns.length).map number
  otherwise : m = { whole with turns := m.turns }

lemma retains_wrap : Retains calls wrap (retaining.exec (new now sessionId) calls).2
    (neverTruncating.exec (new now sessionId) calls).2 := by
  obtain ⟨hturns, hcount⟩ := neverTruncating_turns calls now sessionId
  rw [retaining_exec]
  set whole := (neverTruncating.exec (new now sessionId) calls).2
  have hlast : whole.truncated.turns = (turnRecords wrap calls).rtake maxRetainedTurns := by
    rw [← hturns]
    rfl
  have hlength : whole.truncated.turns.length = min calls.length maxRetainedTurns := by
    rw [hlast, length_rtake, length_turnRecords]
  refine ⟨hcount, hlast, hlength, ?_, rfl⟩
  rw [hlength, hlast, map_rtake, map_turn_turnRecords, ← map_rtake, rtake_range']

lemma Retains.of_wrap {m whole : SessionMemory} (hm : Retains calls wrap m whole)
    (h : calls.length < 2 ^ 32) : Retains calls id m whole where
  turnCount := hm.turnCount.trans (wrap_of_lt h)
  turns := by rw [hm.turns, turnRecords_wrap h]
  length := hm.length
  consecutive := by
    rw [hm.turns, turnRecords_wrap h, map_rtake, map_turn_turnRecords, ← map_rtake, rtake_range',
      length_rtake, length_turnRecords]
  otherwise := hm.otherwise

/-- **The retained turns** are the records of the last calls, on `u32`, and all the rest of the
memory and every verdict are as if no turn were ever dropped. Below `2 ^ 32` calls the numbers are
those of the calls. -/
theorem retains_run :
    Retains calls wrap (retaining.exec (new now sessionId) calls).2
        (neverTruncating.exec (new now sessionId) calls).2 ∧
      (calls.length < 2 ^ 32 → Retains calls id (retaining.exec (new now sessionId) calls).2
        (neverTruncating.exec (new now sessionId) calls).2) ∧
      (retaining.exec (new now sessionId) calls).1 =
        (neverTruncating.exec (new now sessionId) calls).1 := by
  have hwrap := retains_wrap calls now sessionId
  have hanswers : (retaining.exec (new now sessionId) calls).1 =
      (neverTruncating.exec (new now sessionId) calls).1 := by rw [retaining_exec]
  exact ⟨hwrap, hwrap.of_wrap calls, hanswers⟩

/-- The tests' conversation of twenty-five turns retains the turns from `6` on. -/
theorem retains_run_twentyFive :
    let calls := List.replicate 25 (⟨⟨0, Arbiter.bareSignal .low 0.3, .benign⟩, .default⟩)
    (retaining.exec (new 0 "s") calls).2.turns.map (·.turn) = List.range' 6 20 := by
  intro calls
  have hcalls : calls.length = 25 := List.length_replicate
  have hretains := (retains_run calls 0 "s").2.1 (by rw [hcalls]; decide)
  rw [hretains.consecutive, hretains.length, hcalls, List.map_id]
  decide

/-- The turn count starts over at call `2 ^ 32`. -/
theorem not_retains_id :
    let calls := List.replicate (2 ^ 32) (⟨⟨0, Arbiter.bareSignal .none 0, .benign⟩, .default⟩)
    ¬ Retains calls id (retaining.exec (new 0 "s") calls).2
      (neverTruncating.exec (new 0 "s") calls).2 := by
  intro calls h
  have hlength : calls.length = 2 ^ 32 := List.length_replicate
  have hzero : wrap calls.length = 0 := by rw [hlength, wrap, Nat.mod_self]
  have hcount := (retains_wrap calls 0 "s").turnCount
  rw [h.turnCount, hzero, id, hlength] at hcount
  omega

/-! ### The counters without a bound -/

/-- The counters are at most `k`. -/
structure CountersLe (k : ℕ) (m : SessionMemory) : Prop where
  turnCount : m.turnCount ≤ k
  boundaryProbes : m.boundaryProbes ≤ k
  authorityClaims : m.authorityClaims ≤ k
  extractionAttempts : m.extractionAttempts ≤ k
  obfuscationCount : m.obfuscationCount ≤ k

variable {calls} {now} {sessionId} {k : ℕ}

lemma countersLe_new : CountersLe 0 (new now sessionId) := by
  constructor <;> exact le_rfl

/-- A call counts every counter up by one at most. -/
lemma CountersLe.counted (h : CountersLe k m) : CountersLe (k + 1)
    (countPattern c.classification (recordTurn c.now c.signal c.classification m)) := by
  obtain ⟨hturn, hboundary, hauthority, hextraction, hobfuscation⟩ := h
  cases c.classification <;> constructor <;> simp only [countPattern, recordTurn] <;> omega

lemma CountersLe.conclude {previous counted : SessionMemory} (h : CountersLe k counted) :
    CountersLe k (conclude c previous counted).2 := by
  obtain ⟨hturn, hboundary, hauthority, hextraction, hobfuscation⟩ := h
  unfold SessionMemory.conclude settled recordEscalation
  dsimp only
  split <;> exact ⟨hturn, hboundary, hauthority, hextraction, hobfuscation⟩

lemma countPatternU32_eq {classification : RequestClassification}
    (h : CountersLe k (countPattern classification m)) (hk : k < 2 ^ 32) :
    countPatternU32 classification m = countPattern classification m := by
  simp only [countPatternU32, wrap_of_lt (h.boundaryProbes.trans_lt hk),
    wrap_of_lt (h.authorityClaims.trans_lt hk), wrap_of_lt (h.extractionAttempts.trans_lt hk),
    wrap_of_lt (h.obfuscationCount.trans_lt hk)]

lemma retaining_step (h : CountersLe k m) (hk : k + 1 < 2 ^ 32) :
    retaining.step m c = counting.step m c := by
  have hturn : m.turnCount + 1 < 2 ^ 32 := by
    have hle := h.turnCount
    omega
  have hrecord : recordTurnU32 lastTurns c.toIngestion m =
      recordTurn c.now c.signal c.classification m := by
    unfold recordTurnU32
    rw [wrap_of_lt hturn]
    rfl
  have hstep : retaining.step m c =
      conclude c m (countPatternU32 c.classification (recordTurnU32 lastTurns c.toIngestion m)) :=
    rfl
  rw [hstep, hrecord, countPatternU32_eq h.counted hk]
  rfl

lemma exec_counting_of_countersLe (h : CountersLe k m) (hk : k + calls.length < 2 ^ 32) :
    retaining.exec m calls = counting.exec m calls := by
  induction calls generalizing k m with
  | nil => rfl
  | cons c calls ih =>
    rw [List.length_cons] at hk
    have hnext : CountersLe (k + 1) (counting.step m c).2 := h.counted.conclude
    simp only [System.exec, retaining_step h (by omega : k + 1 < 2 ^ 32),
      ih hnext (by omega)]

/-- **Below `2 ^ 32` calls** the counters do not start over, and the memory is one that counts in
natural numbers. -/
theorem retaining_exec_counting (h : calls.length < 2 ^ 32) :
    retaining.exec (new now sessionId) calls = counting.exec (new now sessionId) calls :=
  exec_counting_of_countersLe countersLe_new (by omega)

end SessionMemory

end GovSec
