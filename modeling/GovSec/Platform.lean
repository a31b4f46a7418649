import Mathlib
import GovSec.Lib.Text

/-!
What the program takes from outside its own source: hashing, signatures, regular
expressions, base64, the Unicode tables, the clock and fresh identifiers.

Confidences and thresholds are exact rationals where the program uses `f32`. An instant is a
number of nanoseconds since the epoch.
-/

namespace GovSec

open GovSec.Lib.Text

/-! ### Hexadecimal texts -/

instance neZeroSixteen : NeZero 16 := ⟨by decide⟩

/-- `n` hexadecimal digits: a digest has 64, a signature 128, a UUID 32. -/
@[ext] structure Hex (n : ℕ) where
  digits : List (Fin 16)
  length_eq : digits.length = n
  deriving DecidableEq

def hexDigit (d : Fin 16) : Char := Char.ofNat (if d < 10 then 48 + d else 87 + d)

def Hex.text {n : ℕ} (h : Hex n) : Str := h.digits.map hexDigit

@[simp] lemma Hex.length_text {n : ℕ} (h : Hex n) : h.text.length = n := by
  simp [Hex.text, h.length_eq]

/-- The value of one digit, in either case. -/
def hexValue (c : Char) : Option (Fin 16) :=
  let n := c.toNat
  if 48 ≤ n ∧ n ≤ 57 then some (Fin.ofNat 16 (n - 48))
  else if 97 ≤ n ∧ n ≤ 102 then some (Fin.ofNat 16 (n - 87))
  else if 65 ≤ n ∧ n ≤ 70 then some (Fin.ofNat 16 (n - 55))
  else none

@[simp] lemma hexValue_hexDigit (d : Fin 16) : hexValue (hexDigit d) = some d := by
  revert d; decide

lemma hexDigit_injective : Function.Injective hexDigit := fun d d' h =>
  Option.some.inj (by rw [← hexValue_hexDigit d, h, hexValue_hexDigit])

lemma Hex.text_injective {n : ℕ} {a b : Hex n} (h : a.text = b.text) : a = b :=
  Hex.ext (List.map_injective_iff.mpr hexDigit_injective h)

/-- `hex::decode`: `none` for a character that is no digit or an odd number of digits. -/
def hexDecode (t : Str) : Option (List (Fin 16)) :=
  if t.length % 2 = 0 then t.mapM hexValue else none

@[simp] lemma mapM_hexValue_text {n : ℕ} (h : Hex n) : h.text.mapM hexValue = some h.digits := by
  unfold Hex.text
  induction h.digits with
  | nil => rfl
  | cons d ds ih => simp [ih]

abbrev Digest := Hex 64
abbrev Uuid := Hex 32

/-- `Uuid::simple`. -/
def Uuid.simple (u : Uuid) : Str := u.text

/-- The hyphenated form of a UUID. -/
def Uuid.hyphenated (u : Uuid) : Str :=
  let t := u.text
  t.take 8 ++ '-' :: (t.drop 8).take 4 ++ '-' :: (t.drop 12).take 4 ++ '-' :: (t.drop 16).take 4 ++
    '-' :: t.drop 20

/-! ### Time -/

abbrev DateTime := ℤ

def nanosPerSec : ℤ := 1000000000

/-- `timestamp()`: whole seconds. -/
def timestamp (t : DateTime) : ℤ := t / nanosPerSec

/-- `timestamp_nanos_opt().unwrap_or(0)`. -/
def timestampNanos (t : DateTime) : ℤ :=
  if -(2 ^ 63) ≤ t ∧ t < 2 ^ 63 then t else 0

/-- The first instant of the year -262143 and the last of the year 262142, the instants a
`DateTime<Utc>` can hold. -/
def minUtc : DateTime := -8334601228800 * nanosPerSec
def maxUtc : DateTime := 8210266876799 * nanosPerSec + 999999999

/-- `now + Duration::seconds(secs)`; `none` is the panic of an overflow, of the duration
(whose milliseconds must fit in an `i64`) or of the sum. -/
def addSeconds (now : DateTime) (secs : ℤ) : Option DateTime :=
  if secs < -((2 ^ 63 - 1) / 1000) ∨ (2 ^ 63 - 1) / 1000 < secs then none
  else
    let t := now + secs * nanosPerSec
    if minUtc ≤ t ∧ t ≤ maxUtc then some t else none

/-- `n as i64` for an unsigned 64-bit `n`. -/
def asI64 (n : ℕ) : ℤ := Int.bmod n (2 ^ 64)

/-- The clock readings and fresh identifiers that one call draws. A draw site is a path, so
that two sites of one call never share a reading. -/
structure Supply where
  clock : List ℕ → DateTime
  uuid : List ℕ → Uuid

namespace Supply

def now (e : Supply) : DateTime := e.clock []
def fresh (e : Supply) : Uuid := e.uuid []

/-- The draws of the `k`-th part of a call. -/
def part (e : Supply) (k : ℕ) : Supply where
  clock p := e.clock (k :: p)
  uuid p := e.uuid (k :: p)

end Supply

/-! ### Numbers as text -/

def natText (n : ℕ) : Str := (toString n).toList
def intText (n : ℤ) : Str := (toString n).toList

/-- The integer nearest to `q`, ties to even. -/
def roundEven (q : ℚ) : ℤ :=
  let f := ⌊q⌋
  if q - f < 1 / 2 then f
  else if 1 / 2 < q - f then f + 1
  else if f % 2 = 0 then f else f + 1

/-- `{:.d}` of a number. -/
def fixedText (d : ℕ) (q : ℚ) : Str :=
  let n := (roundEven (|q| * 10 ^ d)).toNat
  let frac := natText (n % 10 ^ d)
  let body := natText (n / 10 ^ d) ++ (if d = 0 then [] else
    '.' :: (List.replicate (d - frac.length) '0' ++ frac))
  if q < 0 then '-' :: body else body

/-! ### The platform -/

structure Platform where
  /-- SHA-256 of the UTF-8 bytes of a text. -/
  sha256 : Str → Digest
  /-- Ed25519 under the engine's signing key, and verification under its public key. -/
  sign : Str → Hex 128
  verify : Str → Hex 128 → Bool
  /-- `Regex::new(pattern)` succeeds. -/
  compiles : Str → Bool
  /-- `Regex::new(pattern).is_match(text)`. -/
  isMatch : Str → Str → Bool
  /-- `regex::escape`. -/
  regexEscape : Str → Str
  /-- Standard base64 decoding to bytes that are UTF-8. -/
  base64Text : Str → Option Str
  /-- The case mappings and case properties of the Unicode Character Database, used for the
  characters outside ASCII. -/
  lower : Char → List Char
  upper : Char → List Char
  cased : Char → Bool
  caseIgnorable : Char → Bool
  /-- `serde_json`'s rendering of a finite `f64`, given by its bits. -/
  floatText : BitVec 64 → Str
  /-- The `Display` form of an instant. -/
  timeText : DateTime → Str

namespace Platform

variable (P : Platform)

def lowerChar (c : Char) : List Char := if c.toNat < 128 then [c.toLower] else P.lower c
def upperChar (c : Char) : List Char := if c.toNat < 128 then [c.toUpper] else P.upper c

def caseIgnorableThenCased (t : Str) : Bool :=
  match t.dropWhile P.caseIgnorable with
  | c :: _ => P.cased c
  | [] => false

/-- A capital sigma is final when a cased letter precedes it and none follows. -/
def mapUppercaseSigma (beforeRev after : Str) : Char :=
  if P.caseIgnorableThenCased beforeRev && !P.caseIgnorableThenCased after then 'ς' else 'σ'

def lowerFrom : Str → Str → Str
  | _, [] => []
  | beforeRev, c :: rest =>
    (if c = 'Σ' then [P.mapUppercaseSigma beforeRev rest] else P.lowerChar c) ++
      lowerFrom (c :: beforeRev) rest

/-- `t.to_lowercase()`. -/
def toLowercase (t : Str) : Str := P.lowerFrom [] t

/-- `t.to_uppercase()`. -/
def toUppercase (t : Str) : Str := t.flatMap P.upperChar

@[simp] lemma toLowercase_nil : P.toLowercase [] = [] := rfl

lemma lowerFrom_ascii {t : Str} (ht : ∀ c ∈ t, c.toNat < 128) (b : Str) :
    P.lowerFrom b t = t.map Char.toLower := by
  induction t generalizing b with
  | nil => rfl
  | cons c t ih =>
    have hc : c.toNat < 128 := ht c (by simp)
    have hne : c ≠ 'Σ' := by rintro rfl; exact absurd hc (by decide)
    rw [lowerFrom, if_neg hne, ih (fun d hd => ht d (by simp [hd]))]
    simp [lowerChar, hc]

/-- On ASCII text lower-casing is character by character. -/
lemma toLowercase_ascii {t : Str} (ht : ∀ c ∈ t, c.toNat < 128) :
    P.toLowercase t = t.map Char.toLower := P.lowerFrom_ascii ht []

end Platform

/-! ### Fixed surroundings

For runs on fixed inputs: every signature is the same and verifies, every pattern compiles,
and no character outside ASCII has a case. -/

def Hex.repeated (n : ℕ) (d : Fin 16) : Hex n := ⟨List.replicate n d, List.length_replicate⟩

def fixedPlatform (sha256 : Str → Digest) (isMatch : Str → Str → Bool) : Platform where
  sha256
  sign _ := Hex.repeated 128 0
  verify _ _ := true
  compiles _ := true
  isMatch
  regexEscape t := t
  base64Text _ := none
  lower c := [c]
  upper c := [c]
  cased _ := false
  caseIgnorable _ := false
  floatText _ := []
  timeText t := intText t

/-- A platform on which no pattern matches. -/
def silentPlatform : Platform := fixedPlatform (fun _ => Hex.repeated 64 0) fun _ _ => false

/-- Every clock reading is `now`; every identifier repeats the digit `d`. -/
def fixedSupply (now : DateTime) (d : Fin 16) : Supply where
  clock _ := now
  uuid _ := Hex.repeated 32 d

/-- `t.to_ascii_lowercase()`. -/
def toAsciiLowercase (t : Str) : Str := t.map Char.toLower

end GovSec
