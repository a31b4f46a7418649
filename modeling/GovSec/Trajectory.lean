import GovSec.SessionMemory
import GovSec.Lib.LeastSquares

/-!
What the trajectory of a session measures.

The trajectory is the slope of the line of least squares through the confidences of the last turns,
the oldest of them at `0`. The source reverses the turns twice, so that they stand in the order in
which they were taken. The guard against a small denominator never fires.
-/

namespace GovSec

open GovSec.Lib.LeastSquares

namespace SessionMemory

variable {window : ℕ} {m : SessionMemory}

/-- The confidences of the last `window` turns, the oldest first. -/
def lastConfidences (window : ℕ) (m : SessionMemory) : List ℚ :=
  (m.turns.map TurnRecord.confidence).rtake window

lemma length_lastConfidences : (lastConfidences window m).length = min window m.turns.length := by
  rw [lastConfidences, List.rtake, List.length_drop, List.length_map]
  omega

/-- The two reversals of the source leave the turns of the window in their order. -/
lemma lastConfidences_reverse :
    (m.turns.reverse.take window).reverse.map TurnRecord.confidence = lastConfidences window m := by
  rw [← List.rtake_eq_reverse_take_reverse, lastConfidences, List.rtake, List.rtake,
    List.length_map, List.map_drop]

lemma indexed_lastConfidences : indexed (lastConfidences window m) =
    (m.turns.drop (m.turns.length - window)).zipIdx.map
      fun (turn, i) => ((i : ℚ), turn.confidence) := by
  rw [lastConfidences, List.rtake, List.length_map, ← List.map_drop, indexed, List.zipIdx_map,
    List.map_map]
  rfl

lemma computeTrajectory_eq : computeTrajectory window m =
    if (lastConfidences window m).length < 2 then 0
    else if |denominator (indexed (lastConfidences window m))| < 1 / 1000000 then 0
    else regressionSlope (indexed (lastConfidences window m)) := by
  have hlength : (m.turns.drop (m.turns.length - window)).length =
      (lastConfidences window m).length := by
    rw [lastConfidences, List.rtake, List.length_drop, List.length_drop, List.length_map]
  rw [indexed_lastConfidences]
  simp only [computeTrajectory, regressionSlope, numerator, denominator, sumX, sumY, sumXX, sumXY,
    List.length_map, List.length_zipIdx, hlength]

/-- The guard of the denominator never fires. -/
lemma denominator_guard (h : 2 ≤ (lastConfidences window m).length) :
    ¬ |denominator (indexed (lastConfidences window m))| < 1 / 1000000 := by
  have hone : 1 ≤ denominator (indexed (lastConfidences window m)) := one_le_denominator_indexed h
  rw [abs_of_nonneg (by linarith)]
  linarith

lemma computeTrajectory_eq_slope (h : 2 ≤ (lastConfidences window m).length) :
    computeTrajectory window m = regressionSlope (indexed (lastConfidences window m)) := by
  rw [computeTrajectory_eq, if_neg (by omega), if_neg (denominator_guard h)]

/-- **The trajectory is a slope of least squares.** With two turns in the window it is the slope of
every line of least squares through the last confidences, and such a line exists. The denominator
is not below the guard, and the trajectory is positive when the confidences increase. Fewer than two
turns give zero. -/
theorem computeTrajectory_isSlope (window : ℕ) (m : SessionMemory) :
    (m.turns.reverse.take window).reverse.map TurnRecord.confidence = lastConfidences window m ∧
    (lastConfidences window m).length = min window m.turns.length ∧
    (2 ≤ min window m.turns.length →
      (∀ b, IsSlope (indexed (lastConfidences window m)) b ↔ b = computeTrajectory window m) ∧
      ¬ |denominator (indexed (lastConfidences window m))| < 1 / 1000000 ∧
      ((lastConfidences window m).Pairwise (· < ·) → 0 < computeTrajectory window m)) ∧
    (min window m.turns.length < 2 → computeTrajectory window m = 0) := by
  rw [← length_lastConfidences]
  refine ⟨lastConfidences_reverse, rfl, fun h => ?_,
    fun h => by rw [computeTrajectory_eq, if_pos h]⟩
  have hpos : 0 < denominator (indexed (lastConfidences window m)) :=
    lt_of_lt_of_le one_pos (one_le_denominator_indexed h)
  rw [computeTrajectory_eq_slope h]
  refine ⟨fun b => isSlope_iff hpos, denominator_guard h, fun hincreasing => ?_⟩
  have hnumerator := numerator_pos (increasing_indexed hincreasing) (by rwa [length_indexed])
  exact div_pos hnumerator hpos

end SessionMemory

end GovSec
