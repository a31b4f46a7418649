import Mathlib
import GovSec.Platform

/-!
Texts that can be read back: decimal numbers, and texts written as the hexadecimal digits of
their bytes. Neither uses the separator `|` of the canonical texts.
-/

namespace GovSec

open GovSec.Lib.Text

/-! ### Decimal numbers -/

lemma natText_injective : Function.Injective natText := fun _ _ h =>
  Nat.repr_injective (String.toList_inj.mp h)

lemma intText_injective : Function.Injective intText := fun _ _ h =>
  Int.repr_injective (String.toList_inj.mp h)

/-- A number is written with digits and a sign. -/
lemma isDigit_of_mem_natText {n : ℕ} {c : Char} (hc : c ∈ natText n) : c.isDigit = true := by
  have hrepr : natText n = Nat.toDigits 10 n := Nat.toList_repr
  rw [hrepr] at hc
  exact Nat.isDigit_of_mem_toDigits (by decide) (by decide) hc

lemma mem_intText {n : ℤ} {c : Char} (hc : c ∈ intText n) : c = '-' ∨ c.isDigit = true := by
  cases n with
  | ofNat n => exact .inr (isDigit_of_mem_natText hc)
  | negSucc n =>
    have hsplit : intText (.negSucc n) = '-' :: natText (n + 1) := String.toList_append
    rw [hsplit] at hc
    exact (List.mem_cons.mp hc).imp id isDigit_of_mem_natText

lemma bar_notMem_natText (n : ℕ) : '|' ∉ natText n := fun h =>
  absurd (isDigit_of_mem_natText h) (by decide)

lemma bar_notMem_intText (n : ℤ) : '|' ∉ intText n := fun h =>
  absurd (mem_intText h) (by decide)

/-! ### Bytes in hexadecimal -/

/-- The UTF-8 bytes of a text. -/
def utf8 (t : Str) : List UInt8 := t.flatMap String.utf8EncodeChar

lemma utf8_injective : Function.Injective utf8 := by
  intro t u h
  have hbytes : t.utf8Encode = u.utf8Encode := congrArg List.toByteArray h
  have hdec := congrArg ByteArray.utf8Decode? hbytes
  rw [List.utf8Decode?_utf8Encode, List.utf8Decode?_utf8Encode] at hdec
  exact Array.mk.inj (Option.some.inj hdec)

def hexByte (b : UInt8) : Str :=
  [hexDigit (Fin.ofNat 16 (b.toNat / 16)), hexDigit (Fin.ofNat 16 (b.toNat % 16))]

/-- `hex::encode`. -/
def hexEncode (bytes : List UInt8) : Str := bytes.flatMap hexByte

lemma hexByte_injective : Function.Injective hexByte := by
  intro b c h
  have hb := b.toNat_lt
  have hc := c.toNat_lt
  simp only [hexByte, List.cons.injEq, and_true, hexDigit_injective.eq_iff, Fin.ext_iff,
    Fin.val_ofNat] at h
  exact UInt8.toNat_inj.mp (by omega)

lemma hexEncode_injective : Function.Injective hexEncode := by
  intro bs
  induction bs with
  | nil => intro cs h; cases cs <;> simp [hexEncode, hexByte] at h ⊢
  | cons b bs ih =>
    intro cs h
    cases cs with
    | nil => simp [hexEncode, hexByte] at h
    | cons c cs =>
      have happ : hexByte b ++ hexEncode bs = hexByte c ++ hexEncode cs := h
      obtain ⟨hhead, htail⟩ := List.append_inj happ rfl
      rw [hexByte_injective hhead, ih htail]

lemma bar_notMem_hexDigits (ds : List (Fin 16)) : '|' ∉ ds.map hexDigit := by
  have hdigit : ∀ d, hexDigit d ≠ '|' := by decide
  simp [hdigit]

lemma bar_notMem_hexEncode (bytes : List UInt8) : '|' ∉ hexEncode bytes := by
  have hdigit : ∀ d, '|' ≠ hexDigit d := by decide
  simp [hexEncode, hexByte, hdigit]

lemma Hex.bar_notMem_text {n : ℕ} (h : Hex n) : '|' ∉ h.text := bar_notMem_hexDigits h.digits

end GovSec
