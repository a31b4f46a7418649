import GovSec.Platform

/-!
The crypto engine: signatures as hexadecimal text, and the hash chain that every signal and
audit entry extends.
-/

namespace GovSec

open GovSec.Lib.Text

variable (P : Platform)

/-- `CryptoEngine::compute_hash`. -/
def computeHash (data : Str) : Str := (P.sha256 data).text

@[simp] lemma length_computeHash (data : Str) : (computeHash P data).length = 64 := by
  simp [computeHash]

/-- What the signing key signs verifies under it. -/
def SignsCorrectly : Prop := ∀ data, P.verify data (P.sign data) = true

/-- The state of the engine; its keys are the platform's. -/
structure CryptoEngine where
  hashChain : List Str
  deriving DecidableEq

inductive CryptoError
  | hexDecode
  | invalidSignatureLength (bytes : ℕ)
  deriving DecidableEq

namespace CryptoEngine

def new (seed : Str) : CryptoEngine := ⟨[computeHash P seed]⟩

def sign (data : Str) : Str := (P.sign data).text

def verify (data signatureHex : Str) : Except CryptoError Bool :=
  match hexDecode signatureHex with
  | none => .error .hexDecode
  | some ds =>
    if h : ds.length = 128 then .ok (P.verify data ⟨ds, h⟩)
    else .error (.invalidSignatureLength (ds.length / 2))

/-- `verify(..).unwrap_or(false)`. -/
def verifies (data signatureHex : Str) : Bool :=
  match verify P data signatureHex with
  | .ok b => b
  | .error _ => false

/-- A signature the engine made verifies exactly when the scheme says so. -/
lemma verifies_sign (data data' : Str) :
    verifies P data (sign P data') = P.verify data (P.sign data') := by
  have hlen : (P.sign data').text.length % 2 = 0 := by simp
  have hd : hexDecode (sign P data') = some (P.sign data').digits := by
    rw [hexDecode, sign, if_pos hlen, mapM_hexValue_text]
  simp [verifies, verify, hd, (P.sign data').length_eq]

def getLatestHash (c : CryptoEngine) : Str := c.hashChain.getLast?.getD []

/-- `extend_chain`: the new head is the hash of the last head and the text. -/
def extendChain (c : CryptoEngine) (signalCanonical : Str) : Str × CryptoEngine :=
  let newHash := computeHash P (c.getLatestHash ++ signalCanonical)
  (newHash, ⟨c.hashChain ++ [newHash]⟩)

end CryptoEngine

/-- One entry of the audit log. -/
structure AuditEntry where
  eventId : Uuid
  timestamp : DateTime
  sessionId : Str
  source : Str
  direction : Str
  stateBefore : Str
  stateAfter : Str
  violationClass : Option Str
  policyRuleId : Option Str
  severity : Str
  confidence : ℚ
  constitutionalRef : Option Str
  payloadHash : Str
  prevChainHash : Str
  currentChainHash : Str
  signature : Str
  deriving DecidableEq

end GovSec
