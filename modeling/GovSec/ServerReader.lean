import GovSec.Platform
import GovSec.Lib.Maps
import GovSec.Lib.Streams
import GovSec.Lib.Utf8

/-!
How the server reads a request.

A header line is read through the buffer of the socket, piece by piece, up to a bound. However the
pieces fall, the line is the first line of the stream. The header loop of `read_request` is bounded
by the size of the map of headers: that it stops is a matter of what the lines do to the map.
-/

namespace GovSec.Server

open GovSec.Lib.Text GovSec.Lib.Maps GovSec.Lib.Streams GovSec.Lib.Utf8
open Stream' (Seq)

def maxBodyBytes : ℕ := 262144
def maxHeaderLineBytes : ℕ := 8192
def maxHeaderCount : ℕ := 100

/-! ### One line -/

def newline : UInt8 := 10

/-- The loop of `read_line_bounded`, with the bytes read so far. -/
def readLineLoop (maxBytes : ℕ) (buf : List UInt8) (r : Reader UInt8) :
    Option Str × Reader UInt8 :=
  match r.fillBuf with
  | (none, r) => (none, r)
  | (some available, r) =>
    if _hempty : available = [] then
      (if buf = [] then none else some (decodeLossy buf), r)
    else
      match available.findIdx? (· = newline) with
      | some pos =>
        let buf := buf ++ available.take (pos + 1)
        (if maxBytes < buf.length then none else some (decodeLossy buf), r.consume (pos + 1))
      | none =>
        if _hlong : maxBytes < (buf ++ available).length then (none, r.consume available.length)
        else readLineLoop maxBytes (buf ++ available) (r.consume available.length)
termination_by maxBytes + 1 - buf.length
decreasing_by
  have := List.length_pos_iff.mpr _hempty
  simp only [List.length_append] at _hlong ⊢
  omega

def readLineBounded (maxBytes : ℕ) (r : Reader UInt8) : Option Str × Reader UInt8 :=
  readLineLoop maxBytes [] r

variable {maxBytes k n pos : ℕ} {s : Seq UInt8}

/-- The loop stands after `k` bytes of the stream `s`, none of them a newline. -/
structure Midway (maxBytes : ℕ) (s : Seq UInt8) (k : ℕ) : Prop where
  le : k ≤ maxBytes
  there : (s.take k).length = k
  before : ∀ i < k, s.get? i ≠ some newline

/-- What a filling of the buffer shows. -/
lemma get?_of_lt_available {i : ℕ} (hi : i < ((s.drop k).take n).length) :
    s.get? (k + i) = some ((s.drop k).take n)[i] := by
  rw [← Seq.drop_get?]
  exact get?_of_lt_length hi

/-- The end of the stream. -/
lemma Midway.firstLine_of_empty (h : Midway maxBytes s k) (hempty : (s.drop k).take (n + 1) = []) :
    firstLine newline maxBytes s = if s.take k = [] then none else some (s.take k) := by
  have hend : s.get? k = none := by
    have hlt : ((s.drop k).take (n + 1)).length < n + 1 := by simp [hempty]
    have hget := get?_length_take hlt
    rwa [hempty, Seq.drop_get?] at hget
  exact firstLine_of_end hend h.before h.le

/-- A newline in the buffer. -/
lemma Midway.firstLine_of_newline (h : Midway maxBytes s k)
    (hpos : ((s.drop k).take n).findIdx? (· = newline) = some pos) :
    firstLine newline maxBytes s =
      if k + pos < maxBytes then some (s.take (k + pos + 1)) else none := by
  obtain ⟨hlt, hnewline, hbefore⟩ := List.findIdx?_eq_some_iff_getElem.mp hpos
  refine firstLine_of_delimiter ?_ fun i hi => ?_
  · rw [get?_of_lt_available hlt]
    simpa using hnewline
  · rcases Nat.lt_or_ge i k with hik | hik
    · exact h.before i hik
    · obtain ⟨j, rfl⟩ := Nat.exists_eq_add_of_le hik
      have hj : j < pos := by omega
      rw [get?_of_lt_available (hj.trans hlt)]
      simpa using hbefore j hj

/-- No newline in the buffer. -/
lemma Midway.before_add (h : Midway maxBytes s k)
    (hnone : ((s.drop k).take n).findIdx? (· = newline) = none) :
    ∀ i < k + ((s.drop k).take n).length, s.get? i ≠ some newline := by
  intro i hi
  rcases Nat.lt_or_ge i k with hik | hik
  · exact h.before i hik
  · obtain ⟨j, rfl⟩ := Nat.exists_eq_add_of_le hik
    have hj : j < ((s.drop k).take n).length := by omega
    have hne := List.findIdx?_eq_none_iff.mp hnone _ (List.getElem_mem hj)
    rw [get?_of_lt_available hj]
    simpa using hne

lemma Midway.take_append (h : Midway maxBytes s k) {m : ℕ} (hm : m ≤ ((s.drop k).take n).length) :
    s.take k ++ ((s.drop k).take n).take m = s.take (k + m) ∧ (s.take (k + m)).length = k + m := by
  have hmn : m ≤ n := hm.trans Seq.length_take_le
  have heq : s.take k ++ ((s.drop k).take n).take m = s.take (k + m) := by
    rw [take_take, Nat.min_eq_left hmn, take_add]
  refine ⟨heq, ?_⟩
  rw [← heq, List.length_append, h.there, List.length_take_of_le hm]

lemma Midway.firstLine_of_long (h : Midway maxBytes s k)
    (hnone : ((s.drop k).take n).findIdx? (· = newline) = none)
    (hlong : maxBytes < k + ((s.drop k).take n).length) : firstLine newline maxBytes s = none := by
  have hbefore := h.before_add hnone
  refine Lib.Streams.firstLine_of_long ?_ fun i hi => hbefore i (by omega)
  obtain ⟨j, hj⟩ := Nat.exists_eq_add_of_le h.le
  have hlt : j < ((s.drop k).take n).length := by omega
  rw [hj, get?_of_lt_available hlt]
  exact Option.some_ne_none _

lemma Midway.next (h : Midway maxBytes s k)
    (hnone : ((s.drop k).take n).findIdx? (· = newline) = none)
    (hle : k + ((s.drop k).take n).length ≤ maxBytes) :
    Midway maxBytes s (k + ((s.drop k).take n).length) where
  le := hle
  there := (h.take_append le_rfl).2
  before := h.before_add hnone

/-- What the loop ends with: the first line of the stream, which has been consumed. -/
def EndsWith (maxBytes : ℕ) (s : Seq UInt8) (result : Option Str × Reader UInt8) : Prop :=
  ∃ rest sizes, result = ((firstLine newline maxBytes s).map decodeLossy, .ofSizes rest sizes) ∧
    ∀ line, firstLine newline maxBytes s = some line → rest = s.drop line.length

lemma readLineLoop_endsWith (h : Midway maxBytes s k) (sizes : Stream' ℕ) :
    EndsWith maxBytes s (readLineLoop maxBytes (s.take k) (.ofSizes (s.drop k) sizes)) := by
  induction hm : maxBytes + 1 - k using Nat.strong_induction_on generalizing k sizes with
  | _ m ih =>
  rw [readLineLoop, Reader.fillBuf_ofSizes]
  simp only [Reader.consume_ofSizes]
  by_cases hempty : (s.drop k).take (sizes.head + 1) = []
  · have hline := h.firstLine_of_empty hempty
    rw [dif_pos hempty]
    refine ⟨s.drop k, sizes.tail, ?_, fun line hl => ?_⟩
    · rw [hline]
      split_ifs <;> rfl
    · rw [hline] at hl
      split_ifs at hl
      obtain rfl : s.take k = line := by simpa using hl
      rw [h.there]
  rw [dif_neg hempty]
  cases hfind : ((s.drop k).take (sizes.head + 1)).findIdx? (· = newline) with
  | some pos =>
    have hline := h.firstLine_of_newline hfind
    have hlt : pos < ((s.drop k).take (sizes.head + 1)).length :=
      (List.findIdx?_eq_some_iff_getElem.mp hfind).1
    obtain ⟨happend, hlength⟩ := h.take_append (m := pos + 1) hlt
    simp only [happend, hlength, ← Seq.dropn_add]
    refine ⟨s.drop (k + (pos + 1)), sizes.tail, ?_, fun line hl => ?_⟩
    · rw [hline]
      split_ifs <;> first | rfl | omega
    · rw [hline] at hl
      split_ifs at hl
      obtain rfl : s.take (k + pos + 1) = line := by simpa using hl
      rw [Nat.add_assoc, hlength]
  | none =>
    obtain ⟨happend, hlength⟩ := h.take_append (n := sizes.head + 1) le_rfl
    rw [List.take_length] at happend
    simp only [happend, hlength, ← Seq.dropn_add]
    split_ifs with hlong
    · have hline := h.firstLine_of_long hfind hlong
      exact ⟨_, _, by rw [hline]; rfl, fun line hl => by simp [hline] at hl⟩
    · have hpos := List.length_pos_iff.mpr hempty
      exact ih _ (by omega) (h.next hfind (by omega)) sizes.tail rfl

/-- The lines of successive calls, up to the first that is refused. -/
def readLines (maxBytes : ℕ) : ℕ → Reader UInt8 → List Str
  | 0, _ => []
  | n + 1, r =>
    match readLineBounded maxBytes r with
    | (none, _) => []
    | (some line, r) => line :: readLines maxBytes n r

lemma readLineBounded_endsWith (maxBytes : ℕ) (s : Seq UInt8) (sizes : Stream' ℕ) :
    EndsWith maxBytes s (readLineBounded maxBytes (.ofSizes s sizes)) := by
  have hstart : Midway maxBytes s 0 := ⟨Nat.zero_le _, rfl, fun i hi => absurd hi i.not_lt_zero⟩
  have h := readLineLoop_endsWith hstart sizes
  rwa [Seq.take_zero, Seq.drop_zero] at h

lemma readLines_ofSizes (n : ℕ) (s : Seq UInt8) (sizes : Stream' ℕ) :
    readLines maxBytes n (.ofSizes s sizes) = (lines newline maxBytes n s).map decodeLossy := by
  induction n generalizing s sizes with
  | zero => rfl
  | succ n ih =>
    obtain ⟨rest, sizes', heq, hrest⟩ := readLineBounded_endsWith maxBytes s sizes
    rw [readLines, lines, heq]
    cases hline : firstLine newline maxBytes s with
    | none => rfl
    | some line =>
      obtain rfl := hrest line hline
      exact congrArg (decodeLossy line :: ·) (ih _ _)

/-- **The pieces do not matter.** However the buffer is filled, the line that is read is the first
line of the stream, decoded at the end, and that line is what is consumed. Successive calls read the
lines of the stream, which are one after another the front of the stream. -/
theorem readLineBounded_eq_firstLine (maxBytes : ℕ) (s : Seq UInt8) (sizes : Stream' ℕ) :
    (∃ rest sizes', readLineBounded maxBytes (.ofSizes s sizes) =
        ((firstLine newline maxBytes s).map decodeLossy, .ofSizes rest sizes') ∧
      ∀ line, firstLine newline maxBytes s = some line → rest = s.drop line.length) ∧
    ∀ n, readLines maxBytes n (.ofSizes s sizes) = (lines newline maxBytes n s).map decodeLossy ∧
      s.take (lines newline maxBytes n s).flatten.length = (lines newline maxBytes n s).flatten :=
  ⟨readLineBounded_endsWith maxBytes s sizes, fun n =>
    ⟨readLines_ofSizes n s sizes, take_flatten_lines n s⟩⟩

end GovSec.Server
