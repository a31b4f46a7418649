import Mathlib

/-!
Streams that arrive in pieces, and their lines.

A stream may be endless. A reader of it sees the rest of the stream through a buffer: each filling
shows a nonempty part from the front, of a size that nobody controls, and nothing only at the end.
A line ends with a delimiter or with the stream.
-/

namespace GovSec.Lib.Streams

open Stream'

variable {α : Type*}

/-! ### Parts of a stream -/

lemma take_take (s : Seq α) (m n : ℕ) : (s.take n).take m = s.take (min m n) := by
  ext
  grind

lemma take_add (s : Seq α) (m n : ℕ) : s.take (m + n) = s.take m ++ (s.drop m).take n := by
  rw [← List.take_append_drop m (s.take (m + n)), Seq.take_drop, Nat.add_sub_cancel_left, take_take,
    Nat.min_eq_left (Nat.le_add_right m n)]

lemma get?_of_lt_length {s : Seq α} {n i : ℕ} (h : i < (s.take n).length) :
    s.get? i = some (s.take n)[i] := by
  have hi : i < n := h.trans_le Seq.length_take_le
  rw [← List.getElem?_eq_getElem h, Seq.getElem?_take, if_pos hi]

lemma get?_length_take {s : Seq α} {n : ℕ} (h : (s.take n).length < n) :
    s.get? (s.take n).length = none := by
  have hnone : (s.take n)[(s.take n).length]? = none := List.getElem?_eq_none le_rfl
  rwa [Seq.getElem?_take, if_pos h] at hnone

lemma take_length_take (s : Seq α) (n : ℕ) : s.take (s.take n).length = s.take n := by
  rw [← Nat.min_eq_left (Seq.length_take_le (s := s) (n := n)), ← take_take, List.take_length]

/-! ### Reading through a buffer -/

/-- The rest of a stream, and how the further fillings of the buffer go: `none` is an error,
`some n` shows up to `n + 1` elements. -/
structure Reader (α : Type*) where
  rest : Seq α
  fills : Stream' (Option ℕ)

namespace Reader

/-- `fill_buf()`. -/
def fillBuf (r : Reader α) : Option (List α) × Reader α :=
  (r.fills.head.map fun n => r.rest.take (n + 1), { r with fills := r.fills.tail })

def consume (n : ℕ) (r : Reader α) : Reader α := { r with rest := r.rest.drop n }

/-- A reader without errors whose buffer is filled with the given sizes, each less one. -/
def ofSizes (s : Seq α) (sizes : Stream' ℕ) : Reader α := ⟨s, sizes.map some⟩

@[simp] lemma rest_ofSizes (s : Seq α) (sizes : Stream' ℕ) : (ofSizes s sizes).rest = s := rfl

@[simp] lemma fillBuf_ofSizes (s : Seq α) (sizes : Stream' ℕ) :
    (ofSizes s sizes).fillBuf = (some (s.take (sizes.head + 1)), ofSizes s sizes.tail) := rfl

@[simp] lemma consume_ofSizes (s : Seq α) (sizes : Stream' ℕ) (n : ℕ) :
    (ofSizes s sizes).consume n = ofSizes (s.drop n) sizes := rfl

end Reader

/-! ### Lines -/

variable [DecidableEq α] {d : α} {s : Seq α} {max j : ℕ}

/-- The first line with its delimiter, or the rest of a stream without one, if that is not empty and
within the bound. -/
def firstLine (d : α) (max : ℕ) (s : Seq α) : Option (List α) :=
  let window := s.take max
  match window.findIdx? (· = d) with
  | some pos => some (window.take (pos + 1))
  | none => if s.get? max = none ∧ window ≠ [] then some window else none

/-- The first `n` lines, up to the first that is not within the bound. -/
def lines (d : α) (max : ℕ) : ℕ → Seq α → List (List α)
  | 0, _ => []
  | n + 1, s =>
    match firstLine d max s with
    | none => []
    | some line => line :: lines d max n (s.drop line.length)

lemma findIdx?_take_eq_none (h : ∀ i < j, s.get? i ≠ some d) :
    (s.take j).findIdx? (· = d) = none := by
  rw [List.findIdx?_eq_none_iff]
  intro x hx
  obtain ⟨i, hi, rfl⟩ := List.getElem_of_mem hx
  have hlt : i < j := hi.trans_le Seq.length_take_le
  have hne := h i hlt
  rw [get?_of_lt_length hi] at hne
  simpa using hne

lemma firstLine_of_delimiter (hj : s.get? j = some d) (hbefore : ∀ i < j, s.get? i ≠ some d) :
    firstLine d max s = if j < max then some (s.take (j + 1)) else none := by
  split
  · next hlt =>
    have hfind : (s.take max).findIdx? (· = d) = some j := by
      rw [List.findIdx?_eq_some_iff_getElem]
      have hlen : j < (s.take max).length := by
        by_contra hge
        have hnone := List.getElem?_eq_none (not_lt.mp hge)
        rw [Seq.getElem?_take, if_pos hlt, hj] at hnone
        cases hnone
      refine ⟨hlen, ?_, fun i hi => ?_⟩
      · have hget := get?_of_lt_length hlen
        simpa [hj] using hget.symm
      · have hne := hbefore i hi
        rw [get?_of_lt_length (hi.trans hlen)] at hne
        simpa using hne
    simp only [firstLine, hfind, take_take, Nat.min_eq_left hlt]
  · next hge =>
    have hsome : s.get? max ≠ none := fun hnone =>
      absurd (Seq.le_stable s (not_lt.mp hge) hnone) (by simp [hj])
    have hfind := findIdx?_take_eq_none (s := s) (j := max) fun i hi =>
      hbefore i (hi.trans_le (not_lt.mp hge))
    simp only [firstLine, hfind, hsome, false_and, if_false]

lemma firstLine_of_end (hj : s.get? j = none) (hbefore : ∀ i < j, s.get? i ≠ some d)
    (hmax : j ≤ max) : firstLine d max s = if s.take j = [] then none else some (s.take j) := by
  have hnone : ∀ i, j ≤ i → s.get? i = none := fun i hi => Seq.le_stable s hi hj
  have htake : s.take max = s.take j := by
    ext1 i
    rw [Seq.getElem?_take, Seq.getElem?_take]
    split_ifs with h₁ h₂ h₂
    · rfl
    · exact hnone i (not_lt.mp h₂)
    · omega
    · rfl
  simp only [firstLine, htake, findIdx?_take_eq_none hbefore, hnone max hmax, true_and]
  split_ifs <;> simp_all

lemma firstLine_of_long (hmax : s.get? max ≠ none) (hbefore : ∀ i < max, s.get? i ≠ some d) :
    firstLine d max s = none := by
  simp only [firstLine, findIdx?_take_eq_none hbefore, hmax, false_and, if_false]

/-- **What a first line is.** It is a nonempty part from the front, within the bound, which ends
with its only delimiter or has none and ends with the stream. -/
theorem firstLine_eq_some {l : List α} : firstLine d max s = some l ↔
    l ≠ [] ∧ l.length ≤ max ∧ s.take l.length = l ∧
      ((∃ body, l = body ++ [d] ∧ d ∉ body) ∨ d ∉ l ∧ s.get? l.length = none) := by
  constructor
  · intro h
    cases hfind : (s.take max).findIdx? (· = d) with
    | some pos =>
      obtain ⟨hlt, hd, hbefore⟩ := List.findIdx?_eq_some_iff_getElem.mp hfind
      obtain rfl : (s.take max).take (pos + 1) = l := by simpa [firstLine, hfind] using h
      have hmax : pos + 1 ≤ max := hlt.trans_le Seq.length_take_le
      refine ⟨by simp [List.ne_nil_of_length_pos (Nat.zero_lt_of_lt hlt)], ?_, ?_, .inl ?_⟩
      · exact (List.length_take_le _ _).trans hmax
      · rw [List.length_take_of_le hlt, take_take, Nat.min_eq_left hmax]
      · refine ⟨(s.take max).take pos, ?_, fun hmem => ?_⟩
        · have hlast : (s.take max)[pos] = d := by simpa using hd
          rw [List.take_add_one, List.getElem?_eq_getElem hlt, Option.toList_some, hlast]
        · obtain ⟨i, hi, hid⟩ := List.getElem_of_mem hmem
          rw [List.getElem_take] at hid
          have hip : i < pos := by simp at hi; omega
          simpa [hid] using hbefore i hip
    | none =>
      have hd : d ∉ s.take max := fun hmem => by
        simpa using List.findIdx?_eq_none_iff.mp hfind d hmem
      simp only [firstLine, hfind] at h
      split_ifs at h with hend
      obtain rfl : s.take max = l := by simpa using h
      refine ⟨hend.2, Seq.length_take_le, take_length_take s max, .inr ⟨hd, ?_⟩⟩
      rcases (Seq.length_take_le (s := s) (n := max)).lt_or_eq with hlt | heq
      · exact get?_length_take hlt
      · rw [heq]
        exact hend.1
  · rintro ⟨hne, hmax, htake, hline⟩
    have hget : ∀ i (hi : i < l.length), s.get? i = some l[i] := fun i hi => by
      have := get?_of_lt_length (s := s) (n := l.length) (i := i) (by rw [htake]; exact hi)
      simpa [htake] using this
    rcases hline with ⟨body, rfl, hd⟩ | ⟨hd, hend⟩
    · have hbefore : ∀ i < body.length, s.get? i ≠ some d := fun i hi heq => by
        rw [hget i (by simp; omega), List.getElem_append_left hi] at heq
        exact hd (by simpa using (Option.some.inj heq) ▸ List.getElem_mem hi)
      have hlast : s.get? body.length = some d := by
        rw [hget _ (by simp)]
        simp
      rw [List.length_append, List.length_singleton] at hmax htake
      rw [firstLine_of_delimiter hlast hbefore, if_pos (Nat.lt_of_succ_le hmax), htake]
    · have hbefore : ∀ i < l.length, s.get? i ≠ some d := fun i hi heq => by
        rw [hget i hi] at heq
        exact hd ((Option.some.inj heq) ▸ List.getElem_mem hi)
      rw [firstLine_of_end hend hbefore hmax, htake, if_neg hne]

/-- The lines one after another are a part of the stream from the front. -/
lemma take_flatten_lines (n : ℕ) (s : Seq α) :
    s.take (lines d max n s).flatten.length = (lines d max n s).flatten := by
  induction n generalizing s with
  | zero => simp [lines]
  | succ n ih =>
    rw [lines]
    split
    · simp
    · next line hline =>
      have htake := (firstLine_eq_some.mp hline).2.2.1
      rw [List.flatten_cons, List.length_append, take_add, ih, htake]

end GovSec.Lib.Streams
