import Mathlib

/-!
The last entries of a list that grows at its end.

A window that is cut after every entry holds the last entries of the whole list, and of a list that
is numbered it holds the last numbers.
-/

namespace GovSec.Lib.Windows

open List

variable {α β : Type*} {k n : ℕ} {l : List α}

lemma length_rtake : (l.rtake k).length = min l.length k := by
  rw [rtake, length_drop]
  omega

/-- The last entries of the last entries. -/
lemma rtake_rtake (h : k ≤ n) : (l.rtake n).rtake k = l.rtake k := by
  rw [rtake, length_rtake, rtake, rtake, drop_drop]
  congr 1
  omega

/-- **A window that is cut after every entry** holds the last entries of the whole. -/
theorem rtake_concat_rtake (l : List α) (a : α) (k : ℕ) :
    (l.rtake k ++ [a]).rtake k = (l ++ [a]).rtake k := by
  have hkept : l.rtake k ++ [a] = (l ++ [a]).drop (l.length - k) :=
    (drop_append_of_le_length (Nat.sub_le _ _)).symm
  rw [hkept, rtake, rtake, drop_drop, length_drop, length_append, length_singleton]
  congr 1
  omega

lemma map_rtake (f : α → β) : (l.rtake k).map f = (l.map f).rtake k := by
  rw [rtake, rtake, map_drop, length_map]

/-- The last numbers of `1` to `n`. -/
lemma rtake_range' (n k : ℕ) :
    (range' 1 n).rtake k = range' (n + 1 - min n k) (min n k) := by
  rw [rtake, drop_range', length_range']
  congr 1 <;> omega

end GovSec.Lib.Windows
