import GovSec.CapabilityRuns
import GovSec.Encoding
import GovSec.EvidenceRuns

/-!
What the signature of a capability token binds.

The signed text joins the fields with `|`, and the fields of a request may have that character
themselves. Two tokens with one signed text are the same token exactly when no separator moved
from one field to another.
-/

namespace GovSec

open GovSec.Lib.Text

lemma ActionPlane.text_injective : Function.Injective ActionPlane.text := by
  intro a b h
  revert h
  cases a <;> cases b <;> decide

namespace CapabilityToken

/-- The texts that are joined for signing. -/
def signedFields (t : CapabilityToken) : List Str :=
  [t.tokenId, t.haapDecisionId, t.govTxId, t.sessionId, t.principalFingerprint, t.authority,
    t.backend, t.model, t.actionClass, t.sentinelVerdictId, t.policyHash,
    intText (timestamp t.issuedAt), intText (timestamp t.expiresAt), natText t.maxUses, t.runId,
    t.contextHash, t.policyVersion, t.actionHash, t.toolName, t.resourceKind, t.resourceLocator,
    t.toolCallId, t.actionPlane.text, t.normalizedAction,
    if t.requiredForSafeCompletion then "true" else "false"]

lemma canonical_eq (t : CapabilityToken) : t.canonical = joinWith '|' t.signedFields := rfl

/-- Two tokens agree on every field but the use count and the signature, on instants to the
second. -/
structure SignedAlike (t t' : CapabilityToken) : Prop where
  tokenId : t.tokenId = t'.tokenId
  haapDecisionId : t.haapDecisionId = t'.haapDecisionId
  scope : t.toCapabilityScope = t'.toCapabilityScope
  issuedAt : timestamp t.issuedAt = timestamp t'.issuedAt
  expiresAt : timestamp t.expiresAt = timestamp t'.expiresAt
  maxUses : t.maxUses = t'.maxUses

/-- Each field has as many `|` in one token as in the other. -/
def SameBars (t t' : CapabilityToken) : Prop :=
  t.signedFields.map (·.count '|') = t'.signedFields.map (·.count '|')

instance (t t' : CapabilityToken) : Decidable (SameBars t t') :=
  inferInstanceAs (Decidable (_ = _))

lemma requiredText_injective {a b : Bool}
    (h : (if a then ("true" : Str) else ("false" : Str)) = if b then ("true" : Str) else "false") :
    a = b := by
  revert h
  cases a <;> cases b <;> decide

/-- The signed fields are the fields. -/
lemma signedAlike_of_signedFields {t t' : CapabilityToken}
    (h : t.signedFields = t'.signedFields) : SignedAlike t t' := by
  simp only [signedFields, List.cons.injEq, and_true] at h
  obtain ⟨htoken, hdecision, htx, hsession, hprincipal, hauthority, hbackend, hmodel, hclass,
    hverdict, hpolicy, hissued, hexpires, huses, hrun, hcontext, hversion, haction, htool, hkind,
    hlocator, hcall, hplane, hnormalized, hrequired⟩ := h
  have hplane := ActionPlane.text_injective hplane
  have hrequired := requiredText_injective hrequired
  refine ⟨htoken, hdecision, ?_, intText_injective hissued, intText_injective hexpires,
    natText_injective huses⟩
  obtain ⟨scope, _⟩ := t
  obtain ⟨scope', _⟩ := t'
  cases scope
  cases scope'
  simp_all

lemma SignedAlike.signedFields_eq {t t' : CapabilityToken} (h : SignedAlike t t') :
    t.signedFields = t'.signedFields := by
  obtain ⟨htoken, hdecision, hscope, hissued, hexpires, huses⟩ := h
  unfold signedFields
  rw [htoken, hdecision, hscope, hissued, hexpires, huses]

lemma signedAlike_of_sameBars {t t' : CapabilityToken} (h : t.canonical = t'.canonical)
    (hbars : SameBars t t') : SignedAlike t t' :=
  signedAlike_of_signedFields (joinWith_inj_of_count hbars h)

/-- A token without `|` in its fields is the only one with its signed text. -/
lemma signedAlike_of_bar_notMem {t t' : CapabilityToken} (h : t.canonical = t'.canonical)
    (hbar : ∀ f ∈ t.signedFields, '|' ∉ f) : SignedAlike t t' := by
  have hbar' : ∀ f ∈ t'.signedFields, '|' ∉ f := sep_notMem_of_joinWith_eq hbar rfl h
  exact signedAlike_of_signedFields
    (joinWith_injOn hbar hbar' (List.cons_ne_nil _ _) (List.cons_ne_nil _ _) h)

/-- **What the signature binds.** Two tokens with one signed text agree exactly when each field
has as many `|` in one as in the other, as when one of them has none. Under a scheme whose
signatures verify for one text only, the same holds when the signature of one verifies for the
other. -/
theorem signedAlike_iff_sameBars (P : Platform) (t t' : CapabilityToken) :
    (t.canonical = t'.canonical → (SignedAlike t t' ↔ SameBars t t') ∧
      ((∀ f ∈ t.signedFields, '|' ∉ f) → SignedAlike t t')) ∧
    ((∀ data data', P.verify data (P.sign data') = true → data = data') →
      CryptoEngine.verifies P t'.canonical (CryptoEngine.sign P t.canonical) = true →
        (SignedAlike t t' ↔ SameBars t t')) := by
  have hiff : t.canonical = t'.canonical → (SignedAlike t t' ↔ SameBars t t') := fun h =>
    ⟨fun halike => congrArg (List.map (List.count '|')) halike.signedFields_eq,
      signedAlike_of_sameBars h⟩
  refine ⟨fun h => ⟨hiff h, signedAlike_of_bar_notMem h⟩, fun hone hverifies => hiff ?_⟩
  rw [CryptoEngine.verifies_sign] at hverifies
  exact (hone _ _ hverifies).symm

/-- A token of a request that is accepted, in which the transaction and the session are given. -/
def barToken (govTxId sessionId : Str) : CapabilityToken :=
  let scope : CapabilityScope :=
    { govTxId, sessionId, principalFingerprint := "fp"
      authority := authorityProviderExecute, backend := "groq", model := "llama"
      actionClass := "chat", sentinelVerdictId := "sv1", policyHash := List.replicate 64 'd'
      runId := "run1", contextHash := List.replicate 64 'c', policyVersion := "policy-v1"
      actionHash := [], toolName := [], resourceKind := [], resourceLocator := []
      toolCallId := [], actionPlane := .tool, normalizedAction := []
      requiredForSafeCompletion := true }
  let req : DecisionRequest :=
    { scope with authorizationBasis := "BelowRiskThreshold", agency := "L2", drs := 20 }
  CapabilityStore.newToken silentPlatform (fixedSupply 0 1)
    (CapabilityStore.newDecision (fixedSupply 0 0) req) 0 30000000000

lemma canonical_barToken :
    (barToken "tx" "s|1").canonical = (barToken "tx|s" "1").canonical := by decide +kernel

theorem signedAlike_iff_sameBars_barToken :
    SignedAlike (barToken "tx" "s|1") (barToken "tx|s" "1") ↔
      SameBars (barToken "tx" "s|1") (barToken "tx|s" "1") :=
  ((signedAlike_iff_sameBars silentPlatform _ _).1 canonical_barToken).1

/-- **A separator moves from the session to the transaction**: two accepted requests, two tokens,
one signed text, and a signature that verifies for both. -/
theorem not_signedAlike_of_canonical :
    (∃ req : DecisionRequest, req.validate = .ok () ∧
      (barToken "tx" "s|1").toCapabilityScope = req.toCapabilityScope) ∧
    (∃ req : DecisionRequest, req.validate = .ok () ∧
      (barToken "tx|s" "1").toCapabilityScope = req.toCapabilityScope) ∧
    (barToken "tx" "s|1").canonical = (barToken "tx|s" "1").canonical ∧
    (barToken "tx" "s|1").sessionId ≠ (barToken "tx|s" "1").sessionId ∧
    ¬ ∃ P : Platform, SignsCorrectly P ∧
      CryptoEngine.verifies P (barToken "tx|s" "1").canonical
        (CryptoEngine.sign P (barToken "tx" "s|1").canonical) = false := by
  refine ⟨⟨⟨(barToken "tx" "s|1").toCapabilityScope, [], [], 0⟩, by decide +kernel, rfl⟩,
    ⟨⟨(barToken "tx|s" "1").toCapabilityScope, [], [], 0⟩, by decide +kernel, rfl⟩,
    canonical_barToken,
    by decide +kernel, ?_⟩
  rintro ⟨P, hsign, hfalse⟩
  rw [CryptoEngine.verifies_sign, ← canonical_barToken, hsign] at hfalse
  cases hfalse

end CapabilityToken

end GovSec
