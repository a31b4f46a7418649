import GovSec.Lib.Text

/-!
Standard base64 with padding, as far as a scan for it needs: how long an encoded text is and which
characters it has.
-/

namespace GovSec.Lib.Base64

open GovSec.Lib.Text

/-- The bytes of the UTF-8 encoding. -/
def utf8Bytes (t : Str) : List ℕ := t.flatMap fun c => (String.utf8EncodeChar c).map UInt8.toNat

lemma length_utf8Bytes (t : Str) : (utf8Bytes t).length = utf8Len t := by
  simp [utf8Bytes, utf8Len, List.length_flatMap]

def alphabet : Str := "ABCDEFGHIJKLMNOPQRSTUVWXYZabcdefghijklmnopqrstuvwxyz0123456789+/"

lemma length_alphabet : alphabet.length = 64 := by decide

/-- The character of six bits. -/
def digit (n : ℕ) : Char :=
  alphabet.get ⟨n % 64, length_alphabet ▸ Nat.mod_lt n (by decide)⟩

/-- Three bytes become four characters, and what is left is padded. -/
def encode : List ℕ → Str
  | [] => []
  | [a] => [digit (a / 4), digit (a % 4 * 16), '=', '=']
  | [a, b] => [digit (a / 4), digit (a % 4 * 16 + b / 16), digit (b % 16 * 4), '=']
  | a :: b :: c :: rest =>
    digit (a / 4) :: digit (a % 4 * 16 + b / 16) :: digit (b % 16 * 4 + c / 64) :: digit c ::
      encode rest

lemma length_encode (bytes : List ℕ) : (encode bytes).length = 4 * ((bytes.length + 2) / 3) := by
  induction bytes using encode.induct with
  | case1 => rfl
  | case2 a => simp [encode]
  | case3 a b => simp [encode]
  | case4 a b c rest ih =>
    rw [encode]
    simp only [List.length_cons, ih]
    omega

/-- Every encoded text is written in the alphabet and the padding. -/
lemma mem_encode {bytes : List ℕ} {c : Char} (h : c ∈ encode bytes) : c ∈ alphabet ∨ c = '=' := by
  have hdigit (n : ℕ) : digit n ∈ alphabet := List.get_mem _ _
  induction bytes using encode.induct with
  | case1 => simp [encode] at h
  | case2 a =>
    simp only [encode, List.mem_cons, List.not_mem_nil, or_false] at h
    rcases h with rfl | rfl | h | h
    · exact .inl (hdigit _)
    · exact .inl (hdigit _)
    · exact .inr h
    · exact .inr h
  | case3 a b =>
    simp only [encode, List.mem_cons, List.not_mem_nil, or_false] at h
    rcases h with rfl | rfl | rfl | h
    · exact .inl (hdigit _)
    · exact .inl (hdigit _)
    · exact .inl (hdigit _)
    · exact .inr h
  | case4 a b c rest ih =>
    simp only [encode, List.mem_cons] at h
    rcases h with rfl | rfl | rfl | rfl | h
    · exact .inl (hdigit _)
    · exact .inl (hdigit _)
    · exact .inl (hdigit _)
    · exact .inl (hdigit _)
    · exact ih h

example : encode (utf8Bytes "light work") = "bGlnaHQgd29yaw==" := by decide

end GovSec.Lib.Base64
