import GovSec.Lib.Streams
import GovSec.Lib.Utf8

/-!
Streams with a list in front, and reading that list off again.

What is written line by line and then by a length is read by delimiter and then by length. The
bytes of a text hold the byte of an ASCII delimiter only where the text holds the character.
-/

namespace GovSec.Lib.Streams

open Stream'

variable {α : Type*}

/-- The list, and then the stream. -/
def front (l : List α) (s : Seq α) : Seq α := (Seq.ofList l).append s

variable {l : List α} {s : Seq α}

@[simp] lemma front_nil : front [] s = s := by simp [front]

@[simp] lemma front_cons (a : α) : front (a :: l) s = Seq.cons a (front l s) := by
  rw [front, Seq.ofList_cons, Seq.cons_append, front]

lemma front_append (l m : List α) (s : Seq α) : front (l ++ m) s = front l (front m s) := by
  rw [front, Seq.ofList_append, Seq.append_assoc, front, front]

@[simp] lemma take_front (l : List α) (s : Seq α) : (front l s).take l.length = l := by
  induction l with
  | nil => simp
  | cons a l ih => rw [front_cons, List.length_cons, Seq.take_succ_cons, ih]

@[simp] lemma drop_front (l : List α) (s : Seq α) : (front l s).drop l.length = s := by
  induction l with
  | nil => simp
  | cons a l ih => rw [front_cons, List.length_cons, Seq.drop_succ_cons, ih]

lemma take_front_of_le {n : ℕ} (h : n ≤ l.length) : (front l s).take n = l.take n := by
  rw [← Nat.min_eq_left h, ← take_take, take_front, Nat.min_eq_left h]

lemma drop_front_of_le {n : ℕ} (h : n ≤ l.length) :
    (front l s).drop n = front (l.drop n) s := by
  have hsplit : front l s = front (l.take n) (front (l.drop n) s) := by
    rw [← front_append, List.take_append_drop]
  have hdrop := drop_front (l.take n) (front (l.drop n) s)
  rwa [List.length_take_of_le h, ← hsplit] at hdrop

/-- **A line in front is read first.** -/
theorem firstLine_front [DecidableEq α] {d : α} {max : ℕ} {body : List α} (hd : d ∉ body)
    (hmax : body.length + 1 ≤ max) (s : Seq α) :
    firstLine d max (front (body ++ [d]) s) = some (body ++ [d]) := by
  refine firstLine_eq_some.mpr ⟨by simp, by simpa using hmax, take_front _ s, .inl ?_⟩
  exact ⟨body, rfl, hd⟩

end GovSec.Lib.Streams

namespace GovSec.Lib.Utf8

/-- A character outside ASCII has no byte of an ASCII character. -/
lemma toNat_of_mem_utf8EncodeChar {c : Char} {b : UInt8} (h : b ∈ String.utf8EncodeChar c)
    (hb : b.toNat < 128) : b.toNat = c.toNat := by
  have hc : c.toNat = c.val.toNat := rfl
  rw [hc]
  simp only [String.utf8EncodeChar] at h
  generalize c.val.toNat = v at h ⊢
  split_ifs at h with h1 h2 h3
  · obtain rfl := List.mem_singleton.mp h
    exact toNat_ofNat (by omega)
  all_goals
    -- every byte has its top bit set
    simp only [List.mem_cons, List.not_mem_nil, or_false] at h
    exfalso
  · rcases h with rfl | rfl <;> rw [toNat_ofNat (by omega)] at hb <;> omega
  · rcases h with rfl | rfl | rfl <;> rw [toNat_ofNat (by omega)] at hb <;> omega
  · rcases h with rfl | rfl | rfl | rfl <;> rw [toNat_ofNat (by omega)] at hb <;> omega

/-- **A delimiter is where its character is.** -/
theorem mem_encode_iff {c : Char} {t : List Char} (hc : c.toNat < 128) :
    UInt8.ofNat c.toNat ∈ t.flatMap String.utf8EncodeChar ↔ c ∈ t := by
  have hbyte : (UInt8.ofNat c.toNat).toNat = c.toNat := toNat_ofNat (by omega)
  rw [List.mem_flatMap]
  constructor
  · rintro ⟨d, hd, hmem⟩
    have heq := toNat_of_mem_utf8EncodeChar hmem (by omega)
    rwa [← Char.toNat_inj.mp (heq.symm.trans hbyte)]
  · intro hmem
    refine ⟨c, hmem, ?_⟩
    have hv : c.val.toNat ≤ 127 := Nat.le_of_lt_succ hc
    simp only [String.utf8EncodeChar, if_pos hv, List.mem_singleton]
    rfl

lemma length_flatMap_utf8EncodeChar (t : List Char) :
    (t.flatMap String.utf8EncodeChar).length = (t.map Char.utf8Size).sum := by
  simp only [List.length_flatMap, String.length_utf8EncodeChar]

end GovSec.Lib.Utf8
