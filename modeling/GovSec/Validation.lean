import GovSec.Crypto

/-!
The errors of the two envelopes and the field checks they share.
-/

namespace GovSec

open GovSec.Lib.Text

/-! ### Limits -/

def sha256HexLen : ℕ := 64
def maxIdentifierBytes : ℕ := 256
def maxPolicyVersionBytes : ℕ := 128
def maxContextSegments : ℕ := 4096
def maxContextSegmentBytes : ℕ := 262144
def maxContextContentBytes : ℕ := 4194304
def maxAttachments : ℕ := 128
def maxMediaTypeBytes : ℕ := 256
def maxToolNameBytes : ℕ := 128
def maxResourceKindBytes : ℕ := 128
def maxResourceLocatorBytes : ℕ := 4096
def maxActionArgumentBytes : ℕ := 262144
def maxJsonDepth : ℕ := 32

/-! ### Errors -/

inductive EnvelopeError
  | missingField (field : Str)
  | invalidField (field : Str)
  | invalidDigest (field : Str)
  | limitExceeded (field : Str)
  | invalidContextSegment (ordinal : ℕ) (reason : Str)
  | duplicateAttachmentId (id : Str)
  | unknownAttachmentId (id : Str)
  | hashMismatch (field : Str)
  | canonicalization (reason : Str)
  deriving DecidableEq

/-- The `Display` form. -/
def EnvelopeError.text : EnvelopeError → Str
  | missingField field => "required field is empty: " ++ field
  | invalidField field => "invalid field: " ++ field
  | invalidDigest field => "invalid SHA-256 digest: " ++ field
  | limitExceeded field => "contract limit exceeded: " ++ field
  | invalidContextSegment ordinal reason =>
    "invalid context segment " ++ natText ordinal ++ ": " ++ reason
  | duplicateAttachmentId id => "duplicate attachment id: " ++ id
  | unknownAttachmentId id => "unknown attachment id: " ++ id
  | hashMismatch field => "hash mismatch: " ++ field
  | canonicalization reason => "canonicalization failed: " ++ reason

/-! ### Checks -/

/-- `if c { return Err(e) }`. -/
def failIf {ε : Type} (c : Prop) [Decidable c] (e : ε) : Except ε Unit :=
  if c then .error e else .ok ()

@[simp] lemma failIf_eq_ok {ε : Type} {c : Prop} [Decidable c] {e : ε} {u : Unit} :
    failIf c e = .ok u ↔ ¬c := by
  unfold failIf; split <;> simp [*]

/-- A sequence of checks passes when each of them does. -/
@[simp] lemma bind_eq_ok {ε α β : Type} {x : Except ε α} {f : α → Except ε β} {b : β} :
    (x >>= f) = .ok b ↔ ∃ a, x = .ok a ∧ f a = .ok b := by
  cases x <;> simp [Bind.bind, Except.bind]

/-- `o.ok_or(e)`. -/
def okOr {ε α : Type} (o : Option α) (e : ε) : Except ε α :=
  match o with
  | some a => .ok a
  | none => .error e

@[simp] lemma okOr_eq_ok {ε α : Type} {o : Option α} {e : ε} {a : α} :
    okOr o e = .ok a ↔ o = some a := by
  cases o <;> simp [okOr]

/-- The outcome of the first check that does not pass. -/
def firstRefusal {ο : Type} : List (Bool × ο) → Option ο
  | [] => none
  | (ok, o) :: cs => if ok then firstRefusal cs else some o

lemma firstRefusal_eq_none {ο : Type} {cs : List (Bool × ο)} :
    firstRefusal cs = none ↔ ∀ c ∈ cs, c.1 = true := by
  induction cs with
  | nil => simp [firstRefusal]
  | cons c cs ih =>
    obtain ⟨ok, o⟩ := c
    cases ok <;> simp [firstRefusal, ih]

lemma mem_of_firstRefusal {ο : Type} {cs : List (Bool × ο)} {o : ο}
    (h : firstRefusal cs = some o) : o ∈ cs.map (·.2) := by
  induction cs with
  | nil => simp [firstRefusal] at h
  | cons c cs ih =>
    obtain ⟨ok, o'⟩ := c
    cases ok
    · obtain rfl : o' = o := by simpa [firstRefusal] using h
      simp
    · simpa using .inr (by simpa using ih (by simpa [firstRefusal] using h))

lemma firstRefusal_append {ο : Type} (cs ds : List (Bool × ο)) :
    firstRefusal (cs ++ ds) = (firstRefusal cs).or (firstRefusal ds) := by
  induction cs with
  | nil => rfl
  | cons c cs ih =>
    obtain ⟨_ | _, o⟩ := c
    · rfl
    · exact ih

@[simp] lemma pure_eq_ok {ε α : Type} {a b : α} : (pure a : Except ε α) = .ok b ↔ a = b := by
  simp [pure, Except.pure]

/-- A hash that is compared after two checks is the one that is stored. -/
lemma of_compared {ε α : Type} [DecidableEq α] {validate check : Except ε Unit}
    {hash : Except ε α} {stored : α} {e : ε}
    (h : (validate >>= fun _ => check >>= fun _ => hash >>= fun h => failIf (h ≠ stored) e) =
      .ok ()) : validate = .ok () ∧ hash = .ok stored := by
  obtain ⟨_, hv, h⟩ := bind_eq_ok.mp h
  obtain ⟨_, -, h⟩ := bind_eq_ok.mp h
  obtain ⟨hash', hhash, h⟩ := bind_eq_ok.mp h
  obtain rfl : hash' = stored := not_not.mp (failIf_eq_ok.mp h)
  exact ⟨hv, hhash⟩

/-- What is made of a value that is computed after a check exists when the check passes and the
value does. -/
lemma exists_checked {ε α β : Type} {c : Prop} [Decidable c] {x : Except ε α} {f : α → β}
    {e : ε} :
    (∃ b, (failIf c e >>= fun _ => x >>= fun a => pure (f a)) = .ok b) ↔ ¬c ∧ ∃ a, x = .ok a := by
  simp only [bind_eq_ok, failIf_eq_ok, pure_eq_ok]
  constructor
  · rintro ⟨_, _, hc, a, ha, -⟩
    exact ⟨hc, a, ha⟩
  · rintro ⟨hc, a, ha⟩
    exact ⟨_, (), hc, a, ha, rfl⟩

def validateIdentifier (field value : Str) (maxBytes : ℕ) : Except EnvelopeError Unit := do
  failIf (trim value = []) (.missingField field)
  failIf (maxBytes < utf8Len value) (.limitExceeded field)
  failIf (value.any isControl = true) (.invalidField field)

def isToolNameChar (c : Char) : Bool :=
  c.isAlphanum || c == '_' || c == '-' || c == '.' || c == ':'

def validateToolName (value : Str) : Except EnvelopeError Unit := do
  validateIdentifier "tool_name" value maxToolNameBytes
  failIf (¬ value.all isToolNameChar = true) (.invalidField "tool_name")

def isLowerHexChar (c : Char) : Bool := c.isDigit || ('a' ≤ c && c ≤ 'f')

def validateSha256 (field value : Str) : Except EnvelopeError Unit :=
  failIf (utf8Len value ≠ sha256HexLen ∨ ¬ value.all isLowerHexChar = true) (.invalidDigest field)

def isSha256Hex (value : Str) : Bool := validateSha256 "external" value = .ok ()

lemma isLowerHexChar_hexDigit (d : Fin 16) : isLowerHexChar (hexDigit d) = true := by
  revert d; decide

lemma utf8Size_hexDigit (d : Fin 16) : (hexDigit d).utf8Size = 1 := by
  revert d; decide

lemma Hex.utf8Len_text {n : ℕ} (h : Hex n) : utf8Len h.text = n := by
  have hsize : h.text.map Char.utf8Size = List.replicate n 1 := by
    rw [Hex.text, List.map_map]
    exact List.eq_replicate_iff.mpr
      ⟨by simp [h.length_eq], by simp [utf8Size_hexDigit]⟩
  simp [utf8Len, hsize]

/-- Every digest the program computes passes its own digest check. -/
lemma validateSha256_computeHash (P : Platform) (field data : Str) :
    validateSha256 field (computeHash P data) = .ok () := by
  rw [validateSha256, failIf_eq_ok, not_or, not_not, not_not]
  refine ⟨Hex.utf8Len_text _, ?_⟩
  simp [computeHash, Hex.text, isLowerHexChar_hexDigit]

/-- A hash has no separator. -/
lemma bar_notMem_of_isSha256Hex {t : Str} (h : isSha256Hex t = true) : '|' ∉ t := by
  have hv : validateSha256 "external" t = .ok () := of_decide_eq_true h
  rw [validateSha256, failIf_eq_ok, not_or, not_not, not_not, List.all_eq_true] at hv
  exact fun hbar => absurd (hv.2 _ hbar) (by decide)

lemma isSha256Hex_of_validate {field t : Str} (h : validateSha256 field t = .ok ()) :
    isSha256Hex t = true := by
  have hext : validateSha256 "external" t = .ok () := by
    rw [validateSha256, failIf_eq_ok] at h ⊢
    exact h
  exact decide_eq_true hext

/-- A field error names the field that was checked. -/
theorem validateIdentifier_error {field value : Str} {maxBytes : ℕ} {e : EnvelopeError}
    (h : validateIdentifier field value maxBytes = .error e) :
    e ∈ [EnvelopeError.missingField field, .limitExceeded field, .invalidField field] := by
  simp only [validateIdentifier, failIf, Bind.bind, Except.bind] at h
  grind

end GovSec
