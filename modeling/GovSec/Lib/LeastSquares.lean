import Mathlib

/-!
Straight lines through points by least squares.

The points are a list of pairs. The line that minimises the sum of the squared residuals solves two
linear equations, and there is one such line as soon as two abscissas differ. The numerator and the
denominator of its slope are sums over all pairs of points, which gives their signs. For the
abscissas `0, 1, …` the denominator has a closed form.
-/

namespace GovSec.Lib.LeastSquares

section Sums

variable {K : Type*} [Field K]

/-- The sum of the squared residuals of the points at the line `a + b * x`. -/
def residual (l : List (K × K)) (a b : K) : K := (l.map fun p => (p.2 - (a + b * p.1)) ^ 2).sum

/-- The sum of the squares of the line `u + v * x` at the abscissas. -/
def spread (l : List (K × K)) (u v : K) : K := (l.map fun p => (u + v * p.1) ^ 2).sum

def sumX (l : List (K × K)) : K := (l.map fun p => p.1).sum

def sumY (l : List (K × K)) : K := (l.map fun p => p.2).sum

def sumXY (l : List (K × K)) : K := (l.map fun p => p.1 * p.2).sum

def sumXX (l : List (K × K)) : K := (l.map fun p => p.1 * p.1).sum

def numerator (l : List (K × K)) : K := l.length * sumXY l - sumX l * sumY l

def denominator (l : List (K × K)) : K := l.length * sumXX l - sumX l * sumX l

/-- The quotient of the sums. -/
def regressionSlope (l : List (K × K)) : K := numerator l / denominator l

/-- The height at which the line with that slope passes through the mean point. -/
def intercept (l : List (K × K)) : K := (sumY l - regressionSlope l * sumX l) / l.length

/-- The two linear equations of the line of least squares. -/
structure Normal (l : List (K × K)) (α β : K) : Prop where
  ordinates : l.length * α + β * sumX l = sumY l
  moments : α * sumX l + β * sumXX l = sumXY l

variable {l : List (K × K)} {a b u v α β : K} {p : K × K}

/-! ### The sums of a longer list -/

@[simp] lemma residual_cons :
    residual (p :: l) a b = (p.2 - (a + b * p.1)) ^ 2 + residual l a b := by
  simp [residual]

@[simp] lemma spread_cons : spread (p :: l) u v = (u + v * p.1) ^ 2 + spread l u v := by
  simp [spread]

@[simp] lemma sumX_cons : sumX (p :: l) = p.1 + sumX l := by simp [sumX]

@[simp] lemma sumY_cons : sumY (p :: l) = p.2 + sumY l := by simp [sumY]

@[simp] lemma sumXY_cons : sumXY (p :: l) = p.1 * p.2 + sumXY l := by simp [sumXY]

@[simp] lemma sumXX_cons : sumXX (p :: l) = p.1 * p.1 + sumXX l := by simp [sumXX]

lemma spread_eq : spread l u v = l.length * u ^ 2 + 2 * u * v * sumX l + v ^ 2 * sumXX l := by
  induction l with
  | nil => simp [spread, sumX, sumXX]
  | cons p l ih =>
    rw [spread_cons, ih, sumX_cons, sumXX_cons, List.length_cons]
    push_cast
    ring

variable (l α β) in
/-- How the residual changes with the line. -/
lemma residual_add (u v : K) :
    residual l (α + u) (β + v) = residual l α β + spread l u v +
      2 * u * (l.length * α + β * sumX l - sumY l) +
      2 * v * (α * sumX l + β * sumXX l - sumXY l) := by
  induction l with
  | nil => simp [residual, spread, sumX, sumY, sumXX, sumXY]
  | cons p l ih =>
    simp only [residual_cons, spread_cons, ih, sumX_cons, sumY_cons, sumXY_cons, sumXX_cons,
      List.length_cons]
    push_cast
    ring

lemma Normal.residual_eq (h : Normal l α β) (a b : K) :
    residual l a b = residual l α β + spread l (a - α) (b - β) := by
  have hadd := residual_add l α β (a - α) (b - β)
  rw [h.ordinates, h.moments, add_sub_cancel, add_sub_cancel] at hadd
  rw [hadd]
  ring

/-- The products of the differences to one point. -/
lemma sum_differences (p : K × K) :
    (l.map fun q => (q.1 - p.1) * (q.2 - p.2)).sum =
      sumXY l + l.length * (p.1 * p.2) - p.1 * sumY l - p.2 * sumX l := by
  induction l with
  | nil => simp [sumX, sumY, sumXY]
  | cons q l ih =>
    rw [List.map_cons, List.sum_cons, ih, sumX_cons, sumY_cons, sumXY_cons, List.length_cons]
    push_cast
    ring

/-- The numerator sums the products of the differences of all pairs. -/
lemma numerator_cons : numerator (p :: l) =
    numerator l + (l.map fun q => (q.1 - p.1) * (q.2 - p.2)).sum := by
  rw [sum_differences, numerator, numerator, sumX_cons, sumY_cons, sumXY_cons, List.length_cons]
  push_cast
  ring

/-! ### Evenly spaced abscissas -/

/-- The values of a list against `0, 1, …`. -/
def indexed (ys : List K) : List (K × K) := ys.zipIdx.map fun y => ((y.2 : K), y.1)

@[simp] lemma length_indexed {ys : List K} : (indexed ys).length = ys.length := by simp [indexed]

lemma map_fst_indexed (ys : List K) :
    (indexed ys).map (fun p => p.1) = (List.range ys.length).map fun i : ℕ => (i : K) := by
  simp only [indexed, List.map_map, List.range_eq_range', ← List.zipIdx_map_snd 0 ys]
  rfl

lemma two_mul_sum_range (n : ℕ) :
    2 * ((List.range n).map fun i : ℕ => (i : K)).sum = n * (n - 1) := by
  induction n with
  | zero => simp
  | succ n ih =>
    rw [List.range_succ, List.map_append, List.sum_append, mul_add, ih]
    simp only [List.map_cons, List.map_nil, List.sum_cons, List.sum_nil]
    push_cast
    ring

lemma six_mul_sum_range (n : ℕ) :
    6 * ((List.range n).map fun i : ℕ => (i : K) * i).sum = n * (n - 1) * (2 * n - 1) := by
  induction n with
  | zero => simp
  | succ n ih =>
    rw [List.range_succ, List.map_append, List.sum_append, mul_add, ih]
    simp only [List.map_cons, List.map_nil, List.sum_cons, List.sum_nil]
    push_cast
    ring

/-- **The closed form of the denominator.** -/
theorem denominator_indexed (ys : List K) :
    12 * denominator (indexed ys) = (ys.length : K) ^ 2 * ((ys.length : K) ^ 2 - 1) := by
  have hX : sumX (indexed ys) = ((List.range ys.length).map fun i : ℕ => (i : K)).sum :=
    congrArg List.sum (map_fst_indexed ys)
  have hXX : sumXX (indexed ys) = ((List.range ys.length).map fun i : ℕ => (i : K) * i).sum := by
    have hmap := congrArg (List.map fun x : K => x * x) (map_fst_indexed ys)
    rw [List.map_map, List.map_map] at hmap
    exact congrArg List.sum hmap
  have hsum : 2 * sumX (indexed ys) = ys.length * (ys.length - 1) :=
    hX ▸ two_mul_sum_range ys.length
  have hsquares : 6 * sumXX (indexed ys) = ys.length * (ys.length - 1) * (2 * ys.length - 1) :=
    hXX ▸ six_mul_sum_range ys.length
  rw [denominator, length_indexed]
  linear_combination 2 * (ys.length : K) * hsquares - 3 * (2 * sumX (indexed ys) +
    ys.length * (ys.length - 1)) * hsum

end Sums

section Order

variable {K : Type*} [Field K] [LinearOrder K] {l : List (K × K)} {a b u v α β : K} {p : K × K}

/-- No line has a smaller sum of squared residuals than `a + b * x`. -/
def IsLeast (l : List (K × K)) (a b : K) : Prop := ∀ a' b', residual l a b ≤ residual l a' b'

/-- The slope of a line of least squares. -/
def IsSlope (l : List (K × K)) (b : K) : Prop := ∃ a, IsLeast l a b

/-- Both coordinates grow along the list. -/
def Increasing (l : List (K × K)) : Prop := l.Pairwise fun p q => p.1 < q.1 ∧ p.2 < q.2

lemma ne_nil_of_denominator (h : 0 < denominator l) : l ≠ [] := by
  rintro rfl
  simp [denominator, sumX, sumXX] at h

variable [IsStrictOrderedRing K]

/-! ### The line of least squares -/

lemma spread_nonneg (l : List (K × K)) (u v : K) : 0 ≤ spread l u v :=
  List.sum_nonneg fun _ h => by
    obtain ⟨p, -, rfl⟩ := List.mem_map.mp h
    exact sq_nonneg _

/-- A solution of the two equations has the least residual. -/
lemma Normal.isLeast (h : Normal l α β) : IsLeast l α β := fun a b => by
  rw [h.residual_eq a b]
  exact le_add_of_nonneg_right (spread_nonneg l _ _)

/-- Only a horizontal line can vanish at all abscissas. -/
lemma eq_zero_of_spread (hdenominator : 0 < denominator l) (h : spread l u v = 0) : v = 0 := by
  have hsquare : (l.length * u + v * sumX l) ^ 2 + denominator l * v ^ 2 = 0 :=
    calc (l.length * u + v * sumX l) ^ 2 + denominator l * v ^ 2
        = l.length * spread l u v := by rw [spread_eq, denominator]; ring
      _ = 0 := by rw [h, mul_zero]
  have hnonneg : 0 ≤ denominator l * v ^ 2 := mul_nonneg hdenominator.le (sq_nonneg v)
  have hv : denominator l * v ^ 2 = 0 :=
    le_antisymm (by linarith [sq_nonneg (l.length * u + v * sumX l)]) hnonneg
  simpa [hdenominator.ne'] using hv

/-- The quotient of the sums solves the two equations. -/
lemma normal_regressionSlope (hdenominator : 0 < denominator l) :
    Normal l (intercept l) (regressionSlope l) := by
  have hlength : (l.length : K) ≠ 0 := by
    exact_mod_cast (List.length_pos_iff.mpr (ne_nil_of_denominator hdenominator)).ne'
  have hslope : regressionSlope l * denominator l = numerator l :=
    div_mul_cancel₀ _ hdenominator.ne'
  simp only [denominator, numerator] at hslope
  constructor
  · rw [intercept]
    field_simp
    ring
  · rw [intercept]
    field_simp
    linear_combination hslope

/-- **The slope of least squares.** It is the quotient of the sums, and no other. -/
theorem isSlope_iff (hdenominator : 0 < denominator l) : IsSlope l b ↔ b = regressionSlope l := by
  have hnormal := normal_regressionSlope hdenominator
  constructor
  · rintro ⟨a, h⟩
    have hle := h (intercept l) (regressionSlope l)
    rw [hnormal.residual_eq a b] at hle
    have hspread : spread l (a - intercept l) (b - regressionSlope l) = 0 :=
      le_antisymm (by linarith) (spread_nonneg l _ _)
    exact sub_eq_zero.mp (eq_zero_of_spread hdenominator hspread)
  · rintro rfl
    exact ⟨_, hnormal.isLeast⟩

/-! ### The signs of the sums -/

lemma differences_pos (h : ∀ q ∈ l, p.1 < q.1 ∧ p.2 < q.2) :
    ∀ x ∈ l.map fun q => (q.1 - p.1) * (q.2 - p.2), 0 < x := by
  intro x hx
  obtain ⟨q, hq, rfl⟩ := List.mem_map.mp hx
  exact mul_pos (sub_pos.mpr (h q hq).1) (sub_pos.mpr (h q hq).2)

lemma numerator_nonneg (h : Increasing l) : 0 ≤ numerator l := by
  induction l with
  | nil => simp [numerator, sumX, sumY]
  | cons p l ih =>
    obtain ⟨hp, hl⟩ := List.pairwise_cons.mp h
    rw [numerator_cons]
    exact add_nonneg (ih hl) (List.sum_nonneg fun x hx => (differences_pos hp x hx).le)

/-- **A growing list has a positive numerator.** -/
theorem numerator_pos (h : Increasing l) (hlength : 2 ≤ l.length) : 0 < numerator l := by
  obtain _ | ⟨p, l⟩ := l
  · simp at hlength
  obtain ⟨hp, hl⟩ := List.pairwise_cons.mp h
  rw [numerator_cons]
  refine add_pos_of_nonneg_of_pos (numerator_nonneg hl) ?_
  refine List.sum_pos _ (differences_pos hp) ?_
  intro hnil
  simp [List.map_eq_nil_iff.mp hnil] at hlength

lemma one_le_denominator_indexed {ys : List K} (h : 2 ≤ ys.length) :
    1 ≤ denominator (indexed ys) := by
  have hlength : (2 : K) ≤ ys.length := by exact_mod_cast h
  have hsquare : (4 : K) ≤ (ys.length : K) ^ 2 := by nlinarith only [hlength]
  nlinarith only [denominator_indexed ys, hsquare]

/-- Increasing values against `0, 1, …`. -/
lemma increasing_indexed {ys : List K} (h : ys.Pairwise (· < ·)) : Increasing (indexed ys) := by
  rw [Increasing, List.pairwise_iff_getElem]
  intro i j hi hj hij
  simp only [indexed, List.getElem_map, List.getElem_zipIdx, zero_add]
  rw [length_indexed] at hi hj
  exact ⟨by exact_mod_cast hij, List.pairwise_iff_getElem.mp h i j hi hj hij⟩

end Order

end GovSec.Lib.LeastSquares
