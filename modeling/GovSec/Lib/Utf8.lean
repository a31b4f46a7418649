import Mathlib

/-!
Decoding bytes as UTF-8 when they may be malformed.

The decoder is a scan with one character under way. A byte that cannot go on with it, and a byte
that cannot start a character, give a replacement character: as many as there are longest parts
that a character could have started with.
-/

namespace GovSec.Lib.Utf8

/-- U+FFFD. -/
def replacement : Char := Char.ofNat 0xFFFD

/-- A character under way: the number of bytes it lacks, the range of the next one, and its value
so far. -/
structure Pending where
  lacks : ℕ
  low : ℕ
  high : ℕ
  value : ℕ

/-- A byte between characters. -/
def start (b : ℕ) : List Char × Option Pending :=
  if b < 0x80 then ([Char.ofNat b], none)
  else if 0xC2 ≤ b ∧ b ≤ 0xDF then ([], some ⟨1, 0x80, 0xBF, b - 0xC0⟩)
  else if b = 0xE0 then ([], some ⟨2, 0xA0, 0xBF, b - 0xE0⟩)
  else if b = 0xED then ([], some ⟨2, 0x80, 0x9F, b - 0xE0⟩)
  else if 0xE1 ≤ b ∧ b ≤ 0xEF then ([], some ⟨2, 0x80, 0xBF, b - 0xE0⟩)
  else if b = 0xF0 then ([], some ⟨3, 0x90, 0xBF, b - 0xF0⟩)
  else if 0xF1 ≤ b ∧ b ≤ 0xF3 then ([], some ⟨3, 0x80, 0xBF, b - 0xF0⟩)
  else if b = 0xF4 then ([], some ⟨3, 0x80, 0x8F, b - 0xF0⟩)
  else ([replacement], none)

def step (q : Option Pending) (b : ℕ) : List Char × Option Pending :=
  match q with
  | none => start b
  | some p =>
    if p.low ≤ b ∧ b ≤ p.high then
      let value := p.value * 64 + (b - 0x80)
      if p.lacks = 1 then ([Char.ofNat value], none)
      else ([], some ⟨p.lacks - 1, 0x80, 0xBF, value⟩)
    else (replacement :: (start b).1, (start b).2)

def decodeFrom (q : Option Pending) : List UInt8 → List Char
  | [] => if q.isSome then [replacement] else []
  | b :: bs => (step q b.toNat).1 ++ decodeFrom (step q b.toNat).2 bs

/-- Malformed parts are decoded as replacement characters. -/
def decodeLossy (bs : List UInt8) : List Char := decodeFrom none bs

/-! ### Well-formed bytes -/

lemma toNat_ofNat {n : ℕ} (h : n < 256) : (UInt8.ofNat n).toNat = n := by
  rw [UInt8.toNat_ofNat']
  exact Nat.mod_eq_of_lt h

lemma start_two {a : ℕ} (h : 2 ≤ a) (h' : a < 32) :
    start (a + 0xC0) = ([], some ⟨1, 0x80, 0xBF, a⟩) := by
  interval_cases a <;> rfl

lemma start_three {a : ℕ} (h : a < 16) : start (a + 0xE0) =
    ([], some ⟨2, if a = 0 then 0xA0 else 0x80, if a = 13 then 0x9F else 0xBF, a⟩) := by
  interval_cases a <;> rfl

lemma start_four {a : ℕ} (h : a < 5) : start (a + 0xF0) =
    ([], some ⟨3, if a = 0 then 0x90 else 0x80, if a = 4 then 0x8F else 0xBF, a⟩) := by
  interval_cases a <;> rfl

/-- A byte that goes on with a character. -/
lemma step_next {n low high value b : ℕ} (hlow : low ≤ b + 0x80) (hhigh : b + 0x80 ≤ high) :
    step (some ⟨n + 2, low, high, value⟩) (b + 0x80) =
      ([], some ⟨n + 1, 0x80, 0xBF, value * 64 + b⟩) := by
  simp [step, hlow, hhigh]

/-- The last byte of a character. -/
lemma step_last {low high value b : ℕ} (hlow : low ≤ b + 0x80) (hhigh : b + 0x80 ≤ high) :
    step (some ⟨1, low, high, value⟩) (b + 0x80) = ([Char.ofNat (value * 64 + b)], none) := by
  simp [step, hlow, hhigh]

lemma decodeFrom_cons (q : Option Pending) (n : ℕ) (h : n < 256) (bs : List UInt8) :
    decodeFrom q (UInt8.ofNat n :: bs) = (step q n).1 ++ decodeFrom (step q n).2 bs := by
  rw [decodeFrom, toNat_ofNat h]

lemma decodeFrom_encode (c : Char) (bs : List UInt8) :
    decodeFrom none (String.utf8EncodeChar c ++ bs) = c :: decodeFrom none bs := by
  have hvalid : c.val.toNat < 0xD800 ∨ 0xDFFF < c.val.toNat ∧ c.val.toNat < 0x110000 := c.valid
  have hchar : Char.ofNat c.val.toNat = c := Char.ofNat_toNat c
  simp only [String.utf8EncodeChar]
  generalize c.val.toNat = v at hvalid hchar
  split_ifs with h1 h2 h3
  · have hstart : start v = ([c], none) := by rw [start, if_pos (by omega), hchar]
    rw [List.cons_append, decodeFrom_cons _ _ (by omega), step, hstart]
    rfl
  · have hvalue : v / 64 % 32 * 64 + v % 64 = v := by omega
    simp only [List.cons_append, List.nil_append]
    rw [decodeFrom_cons _ _ (by omega), step, start_two (by omega) (by omega),
      decodeFrom_cons _ _ (by omega), step_last (by omega) (by omega), hvalue, hchar]
    rfl
  · have hvalue : (v / 4096 % 16 * 64 + v / 64 % 64) * 64 + v % 64 = v := by omega
    simp only [List.cons_append, List.nil_append]
    rw [decodeFrom_cons _ _ (by omega), step, start_three (by omega),
      decodeFrom_cons _ _ (by omega), step_next (by split_ifs <;> omega) (by split_ifs <;> omega),
      decodeFrom_cons _ _ (by omega), step_last (by omega) (by omega), hvalue, hchar]
    rfl
  · have hvalue : ((v / 262144 % 8 * 64 + v / 4096 % 64) * 64 + v / 64 % 64) * 64 + v % 64 = v := by
      omega
    simp only [List.cons_append, List.nil_append]
    rw [decodeFrom_cons _ _ (by omega), step, start_four (by omega),
      decodeFrom_cons _ _ (by omega), step_next (by split_ifs <;> omega) (by split_ifs <;> omega),
      decodeFrom_cons _ _ (by omega), step_next (by omega) (by omega),
      decodeFrom_cons _ _ (by omega), step_last (by omega) (by omega), hvalue, hchar]
    rfl

/-- **Well-formed bytes are decoded.** -/
theorem decodeLossy_encode (t : List Char) :
    decodeLossy (t.flatMap String.utf8EncodeChar) = t := by
  induction t with
  | nil => rfl
  | cons c t ih =>
    rw [List.flatMap_cons, decodeLossy, decodeFrom_encode]
    exact congrArg (c :: ·) ih

end GovSec.Lib.Utf8
