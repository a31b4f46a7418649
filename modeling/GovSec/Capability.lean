import GovSec.Validation
import GovSec.Lib.Maps

/-!
The capability store: the ledger of authorized decisions, the single-use tokens minted from
them, and the checks a token passes when it is presented.

A decision and a token carry the same scope; the token's is copied from the decision.
-/

namespace GovSec

open GovSec.Lib.Text GovSec.Lib.Maps

/-! ### Action semantics -/

inductive ActionPlane
  | user
  | tool
  | control
  | governance
  deriving DecidableEq

def ActionPlane.text : ActionPlane → Str
  | user => "user"
  | tool => "tool"
  | control => "control"
  | governance => "governance"

inductive CompletionCriticality
  | required
  | noncritical
  deriving DecidableEq

namespace CompletionCriticality

def text : CompletionCriticality → Str
  | required => "required"
  | noncritical => "noncritical"

def isRequired (c : CompletionCriticality) : Bool := c = required

end CompletionCriticality

structure ActionSemantics where
  plane : ActionPlane
  normalizedAction : Str
  criticality : CompletionCriticality
  deriving DecidableEq

def ActionSemantics.requiredForSafeCompletion (s : ActionSemantics) : Bool :=
  s.criticality.isRequired

def deriveActionSemanticsForTool (toolName : Str) : ActionSemantics :=
  if toolName = "heartbeat_respond" then
    ⟨.control, "system.telemetry.heartbeat", .noncritical⟩
  else ⟨.tool, "tool." ++ toolName, .required⟩

/-! ### Decisions -/

def authorityProviderExecute : Str := "provider.execute"
def authorityActionExecute : Str := "action.execute"

lemma authorityProviderExecute_ne : authorityProviderExecute ≠ authorityActionExecute := by decide

inductive CapabilityError
  | emptyField (field : Str)
  | malformedDigest (field : Str)
  | invalidTtl
  | transactionScopeConflict
  | wrongAuthority
  deriving DecidableEq

/-- The scope that a decision request, its decision and the decision's token share. -/
structure CapabilityScope where
  govTxId : Str
  sessionId : Str
  principalFingerprint : Str
  authority : Str
  backend : Str
  model : Str
  actionClass : Str
  sentinelVerdictId : Str
  policyHash : Str
  runId : Str
  contextHash : Str
  policyVersion : Str
  actionHash : Str
  toolName : Str
  resourceKind : Str
  resourceLocator : Str
  toolCallId : Str
  actionPlane : ActionPlane
  normalizedAction : Str
  requiredForSafeCompletion : Bool
  deriving DecidableEq

structure DecisionRequest extends CapabilityScope where
  authorizationBasis : Str
  agency : Str
  drs : ℕ
  deriving DecidableEq

structure Decision extends DecisionRequest where
  decisionId : Str
  authorizedAt : DateTime
  issued : Bool
  deriving DecidableEq

namespace DecisionRequest

def nonempty (value field : Str) : Except CapabilityError Unit :=
  failIf (trim value = []) (.emptyField field)

def digest (value field : Str) : Except CapabilityError Unit :=
  failIf (¬ isSha256Hex value = true) (.malformedDigest field)

def validate (r : DecisionRequest) : Except CapabilityError Unit := do
  nonempty r.govTxId "gov_tx_id"
  nonempty r.sessionId "session_id"
  nonempty r.principalFingerprint "principal_fingerprint"
  nonempty r.sentinelVerdictId "sentinel_verdict_id"
  nonempty r.policyHash "policy_hash"
  nonempty r.runId "run_id"
  nonempty r.contextHash "context_hash"
  nonempty r.policyVersion "policy_version"
  digest r.contextHash "context_hash"
  digest r.policyHash "policy_hash"
  if r.authority = authorityProviderExecute then
    nonempty r.backend "backend"
    nonempty r.model "model"
    nonempty r.actionClass "action_class"
  else if r.authority = authorityActionExecute then
    nonempty r.actionHash "action_hash"
    nonempty r.toolName "tool_name"
    nonempty r.resourceKind "resource_kind"
    nonempty r.resourceLocator "resource_locator"
    nonempty r.toolCallId "tool_call_id"
    nonempty r.normalizedAction "normalized_action"
    digest r.actionHash "action_hash"
  else .error .wrongAuthority

/-- The part of the scope an idempotent retry must repeat. -/
def sameScope (r : DecisionRequest) (d : Decision) : Bool :=
  d.sessionId = r.sessionId && d.principalFingerprint = r.principalFingerprint &&
    d.backend = r.backend && d.model = r.model && d.actionClass = r.actionClass &&
    d.runId = r.runId && d.contextHash = r.contextHash && d.policyVersion = r.policyVersion &&
    d.actionHash = r.actionHash && d.toolName = r.toolName && d.resourceKind = r.resourceKind &&
    d.resourceLocator = r.resourceLocator && d.toolCallId = r.toolCallId &&
    d.actionPlane = r.actionPlane && d.normalizedAction = r.normalizedAction &&
    d.requiredForSafeCompletion = r.requiredForSafeCompletion

end DecisionRequest

/-! ### Tokens -/

structure CapabilityToken extends CapabilityScope where
  tokenId : Str
  haapDecisionId : Str
  issuedAt : DateTime
  expiresAt : DateTime
  maxUses : ℕ
  useCount : ℕ
  signature : Str
  deriving DecidableEq

/-- The signed text: every field but the use count and the signature itself. -/
def CapabilityToken.canonical (t : CapabilityToken) : Str :=
  joinWith '|'
    [t.tokenId, t.haapDecisionId, t.govTxId, t.sessionId, t.principalFingerprint, t.authority,
      t.backend, t.model, t.actionClass, t.sentinelVerdictId, t.policyHash,
      intText (timestamp t.issuedAt), intText (timestamp t.expiresAt), natText t.maxUses, t.runId,
      t.contextHash, t.policyVersion, t.actionHash, t.toolName, t.resourceKind, t.resourceLocator,
      t.toolCallId, t.actionPlane.text, t.normalizedAction,
      if t.requiredForSafeCompletion then "true" else "false"]

inductive IssueOutcome
  | issued (token : CapabilityToken)
  | decisionNotFound
  | alreadyIssued
  deriving DecidableEq

inductive ConsumeOutcome
  | authorized
  | notFound
  | signatureInvalid
  | alreadyConsumed
  | expired
  | transactionMismatch
  | sessionMismatch
  | principalMismatch
  | authorityMismatch
  | backendMismatch
  | modelMismatch
  | runMismatch
  | contextHashMismatch
  | policyVersionMismatch
  | policyHashMismatch
  | actionHashMismatch
  | toolMismatch
  | resourceMismatch
  | toolCallIdMismatch
  | planeMismatch
  deriving DecidableEq

/-- What an adapter presents to consume a token. -/
structure PresentedBinding where
  tokenId : Str
  govTxId : Str
  sessionId : Str
  principalFingerprint : Str
  authority : Str
  backend : Str
  model : Str
  runId : Str
  contextHash : Str
  policyVersion : Str
  policyHash : Str
  actionHash : Str
  toolName : Str
  resourceKind : Str
  resourceLocator : Str
  toolCallId : Str
  plane : Str
  deriving DecidableEq

/-! ### The store -/

structure CapabilityStore where
  decisions : HashMap Str Decision
  capabilities : HashMap Str CapabilityToken
  /-- Transaction key to decision id. -/
  decisionByTx : HashMap Str Str
  defaultTtlSecs : ℤ
  ttl_pos : 0 < defaultTtlSecs

def txKey (govTxId authority : Str) : Str := govTxId ++ '|' :: authority

namespace CapabilityStore

def new : CapabilityStore := ⟨∅, ∅, ∅, 30, by decide⟩

def withTtlSecs (s : CapabilityStore) (ttl : ℤ) : Except CapabilityError CapabilityStore :=
  if h : ttl ≤ 0 then .error .invalidTtl
  else .ok { s with defaultTtlSecs := ttl, ttl_pos := not_le.mp h }

variable (P : Platform) (env : Supply) (s : CapabilityStore)

def newDecision (req : DecisionRequest) : Decision where
  toDecisionRequest := req
  decisionId := "DEC-" ++ env.fresh.simple
  authorizedAt := env.now
  issued := false

/-- `none` is the panic of an index entry without its decision. -/
def recordDecision (req : DecisionRequest) :
    Option (Except CapabilityError Str × CapabilityStore) :=
  match req.validate with
  | .error e => some (.error e, s)
  | .ok () =>
    let key := txKey req.govTxId req.authority
    match s.decisionByTx.lookup key with
    | some existingId =>
      match s.decisions.lookup existingId with
      | none => none
      | some existing =>
        if req.sameScope existing then some (.ok existingId, s)
        else some (.error .transactionScopeConflict, s)
    | none =>
      let decision := newDecision env req
      some (.ok decision.decisionId,
        { s with
          decisions := s.decisions.insert decision.decisionId decision
          decisionByTx := s.decisionByTx.insert key decision.decisionId })

/-- The token of a decision, signed. -/
def newToken (decision : Decision) (issuedAt expiresAt : DateTime) : CapabilityToken :=
  let token : CapabilityToken :=
    { toCapabilityScope := decision.toCapabilityScope
      tokenId := "CAP-" ++ env.fresh.simple
      haapDecisionId := decision.decisionId
      issuedAt
      expiresAt
      maxUses := 1
      useCount := 0
      signature := [] }
  { token with signature := CryptoEngine.sign P token.canonical }

/-- `none` is the panic of an expiry beyond the last representable instant. -/
def issueAfterAuthorization (decisionId : Str) : Option (IssueOutcome × CapabilityStore) :=
  match s.decisions.lookup decisionId with
  | none => some (.decisionNotFound, s)
  | some decision =>
    if decision.issued then some (.alreadyIssued, s)
    else
      match addSeconds env.now s.defaultTtlSecs with
      | none => none
      | some expiresAt =>
        let token := newToken P env decision env.now expiresAt
        some (.issued token,
          { s with
            decisions := modifyAt s.decisions decisionId fun d => { d with issued := true }
            capabilities := s.capabilities.insert token.tokenId token })

/-- The checks of `consume` for every token, in order, each with the outcome of its failure. -/
def tokenChecks (now : DateTime) (t : CapabilityToken) (p : PresentedBinding) :
    List (Bool × ConsumeOutcome) :=
  [(CryptoEngine.verifies P t.canonical t.signature, .signatureInvalid),
    (t.useCount < t.maxUses, .alreadyConsumed),
    (now < t.expiresAt, .expired),
    ((t.authority = authorityProviderExecute ∨ t.authority = authorityActionExecute) ∧
      t.authority = p.authority, .authorityMismatch),
    (t.principalFingerprint = p.principalFingerprint, .principalMismatch),
    (t.govTxId = p.govTxId, .transactionMismatch),
    (t.sessionId = p.sessionId, .sessionMismatch),
    (t.runId = p.runId, .runMismatch),
    (t.contextHash = p.contextHash, .contextHashMismatch),
    (t.policyVersion = p.policyVersion, .policyVersionMismatch),
    (t.policyHash = p.policyHash, .policyHashMismatch),
    (t.backend = p.backend, .backendMismatch),
    (t.model = p.model, .modelMismatch)]

/-- The further checks of an action token. -/
def actionChecks (t : CapabilityToken) (p : PresentedBinding) : List (Bool × ConsumeOutcome) :=
  [(t.actionHash = p.actionHash, .actionHashMismatch),
    (t.toolName = p.toolName, .toolMismatch),
    (t.resourceKind = p.resourceKind ∧ t.resourceLocator = p.resourceLocator, .resourceMismatch),
    (t.toolCallId = p.toolCallId, .toolCallIdMismatch),
    (t.actionPlane.text = p.plane, .planeMismatch)]

def checks (now : DateTime) (t : CapabilityToken) (p : PresentedBinding) :
    List (Bool × ConsumeOutcome) :=
  tokenChecks P now t p ++ if t.authority = authorityActionExecute then actionChecks t p else []

/-- The refusal of a stored token for a presented binding. -/
def refusal (now : DateTime) (t : CapabilityToken) (p : PresentedBinding) :
    Option ConsumeOutcome := firstRefusal (checks P now t p)

def consume (now : DateTime) (p : PresentedBinding) : ConsumeOutcome × CapabilityStore :=
  match s.capabilities.lookup p.tokenId with
  | none => (.notFound, s)
  | some token =>
    match refusal P now token p with
    | some outcome => (outcome, s)
    | none =>
      (.authorized,
        { s with
          capabilities :=
            s.capabilities.insert p.tokenId { token with useCount := token.useCount + 1 } })

/-- The clock is read once for each stored token. -/
def pruneExpired (now : Str → DateTime) : ℕ × CapabilityStore :=
  let kept := retain (fun id t => now id < t.expiresAt) s.capabilities
  (len s.capabilities - len kept, { s with capabilities := kept })

/-! ### What each operation can do -/

variable {P env s}

/-- A stored token matches a presented binding. -/
structure Matches (t : CapabilityToken) (p : PresentedBinding) : Prop where
  authority : t.authority = p.authority
  known : t.authority = authorityProviderExecute ∨ t.authority = authorityActionExecute
  principal : t.principalFingerprint = p.principalFingerprint
  govTx : t.govTxId = p.govTxId
  session : t.sessionId = p.sessionId
  run : t.runId = p.runId
  contextHash : t.contextHash = p.contextHash
  policyVersion : t.policyVersion = p.policyVersion
  policyHash : t.policyHash = p.policyHash
  backend : t.backend = p.backend
  model : t.model = p.model
  action : t.authority = authorityActionExecute →
    t.actionHash = p.actionHash ∧ t.toolName = p.toolName ∧ t.resourceKind = p.resourceKind ∧
      t.resourceLocator = p.resourceLocator ∧ t.toolCallId = p.toolCallId ∧
      t.actionPlane.text = p.plane

/-- Only the scope of the token matters. -/
lemma Matches.congr {t t' : CapabilityToken} {p : PresentedBinding} (h : Matches t p)
    (heq : t'.toCapabilityScope = t.toCapabilityScope) : Matches t' p := by
  constructor <;> rw [heq]
  exacts [h.authority, h.known, h.principal, h.govTx, h.session, h.run, h.contextHash,
    h.policyVersion, h.policyHash, h.backend, h.model, h.action]

lemma refusal_ne_authorized {now : DateTime} {t : CapabilityToken} {p : PresentedBinding} :
    refusal P now t p ≠ some .authorized := by
  intro h
  have := mem_of_firstRefusal h
  unfold checks at this
  split at this <;> simp [tokenChecks, actionChecks] at this

/-- No check fails exactly when the token is genuine, unspent, unexpired and matches. -/
lemma refusal_eq_none {now : DateTime} {t : CapabilityToken} {p : PresentedBinding} :
    refusal P now t p = none ↔ CryptoEngine.verifies P t.canonical t.signature = true ∧
      t.useCount < t.maxUses ∧ now < t.expiresAt ∧ Matches t p := by
  rw [refusal, firstRefusal_eq_none, checks, List.forall_mem_append]
  simp only [tokenChecks, List.forall_mem_cons, decide_eq_true_eq]
  constructor
  · rintro ⟨⟨hv, hu, he, ⟨hk, ha⟩, hp, ht, hs, hr, hc, hpv, hph, hb, hm, -⟩, hact⟩
    refine ⟨hv, hu, he, ha, hk, hp, ht, hs, hr, hc, hpv, hph, hb, hm, fun h => ?_⟩
    simpa [h, actionChecks, and_assoc] using hact
  · rintro ⟨hv, hu, he, hm⟩
    refine ⟨⟨hv, hu, he, ⟨hm.known, hm.authority⟩, hm.principal, hm.govTx, hm.session, hm.run,
      hm.contextHash, hm.policyVersion, hm.policyHash, hm.backend, hm.model, by simp⟩, ?_⟩
    split
    · next h => simpa [actionChecks, and_assoc] using hm.action h
    · simp

lemma consume_cases (P : Platform) (s : CapabilityStore) (now : DateTime) (p : PresentedBinding) :
    ((consume P s now p).1 ≠ .authorized ∧ (consume P s now p).2 = s) ∨
    ∃ t, s.capabilities.lookup p.tokenId = some t ∧ refusal P now t p = none ∧
      consume P s now p = (.authorized,
        { s with capabilities := s.capabilities.insert p.tokenId
                  { t with useCount := t.useCount + 1 } }) := by
  unfold consume
  split
  · exact .inl ⟨by simp, rfl⟩
  · next t ht =>
    split
    · next o ho => exact .inl ⟨by rintro rfl; exact refusal_ne_authorized ho, rfl⟩
    · next hr => exact .inr ⟨t, ht, hr, rfl⟩

/-- What a decision was recorded for. -/
lemma recordDecision_cases {req : DecisionRequest} {r : Except CapabilityError Str}
    {s' : CapabilityStore} (h : recordDecision env s req = some (r, s')) :
    (∃ e, r = .error e ∧ s' = s) ∨
    (∃ id d, r = .ok id ∧ s' = s ∧ req.validate = .ok () ∧
      s.decisionByTx.lookup (txKey req.govTxId req.authority) = some id ∧
      s.decisions.lookup id = some d ∧ req.sameScope d = true) ∨
    (req.validate = .ok () ∧ s.decisionByTx.lookup (txKey req.govTxId req.authority) = none ∧
      r = .ok (newDecision env req).decisionId ∧
      s' = { s with
        decisions := s.decisions.insert (newDecision env req).decisionId (newDecision env req)
        decisionByTx := s.decisionByTx.insert (txKey req.govTxId req.authority)
          (newDecision env req).decisionId }) := by
  unfold recordDecision at h
  split at h
  · next e _ =>
    obtain ⟨rfl, rfl⟩ : .error e = r ∧ s = s' := by simpa using h
    exact .inl ⟨e, rfl, rfl⟩
  · next hv =>
    simp only at h
    split at h
    · next id hid =>
      split at h
      · simp at h
      · next d hd =>
        split at h
        · next hs =>
          obtain ⟨rfl, rfl⟩ : .ok id = r ∧ s = s' := by simpa using h
          exact .inr (.inl ⟨id, d, rfl, rfl, hv, hid, hd, hs⟩)
        · obtain ⟨rfl, rfl⟩ : .error _ = r ∧ s = s' := by simpa using h
          exact .inl ⟨_, rfl, rfl⟩
    · next hk =>
      obtain ⟨rfl, rfl⟩ : .ok _ = r ∧ _ = s' := by simpa using h
      exact .inr (.inr ⟨hv, hk, rfl, rfl⟩)

lemma issueAfterAuthorization_cases {decisionId : Str} {o : IssueOutcome} {s' : CapabilityStore}
    (h : issueAfterAuthorization P env s decisionId = some (o, s')) :
    (s' = s ∧ (o = .decisionNotFound ∨ o = .alreadyIssued)) ∨
    ∃ d expiresAt, s.decisions.lookup decisionId = some d ∧ d.issued = false ∧
      o = .issued (newToken P env d env.now expiresAt) ∧
      s' = { s with
        decisions := modifyAt s.decisions decisionId fun d => { d with issued := true }
        capabilities := s.capabilities.insert ("CAP-" ++ env.fresh.simple)
          (newToken P env d env.now expiresAt) } := by
  unfold issueAfterAuthorization at h
  split at h
  · obtain ⟨rfl, rfl⟩ : .decisionNotFound = o ∧ s = s' := by simpa using h
    exact .inl ⟨rfl, .inl rfl⟩
  · next d hd =>
    split at h
    · obtain ⟨rfl, rfl⟩ : .alreadyIssued = o ∧ s = s' := by simpa using h
      exact .inl ⟨rfl, .inr rfl⟩
    · next hi =>
      split at h
      · simp at h
      · next e _ =>
        obtain ⟨rfl, rfl⟩ : .issued (newToken P env d env.now e) = o ∧ _ = s' := by simpa using h
        exact .inr ⟨d, e, hd, by simpa using hi, rfl, rfl⟩

@[simp] lemma newToken_scope (d : Decision) (i e : DateTime) :
    (newToken P env d i e).toCapabilityScope = d.toCapabilityScope := rfl
@[simp] lemma newToken_tokenId (d : Decision) (i e : DateTime) :
    (newToken P env d i e).tokenId = "CAP-" ++ env.fresh.simple := rfl
@[simp] lemma newToken_haapDecisionId (d : Decision) (i e : DateTime) :
    (newToken P env d i e).haapDecisionId = d.decisionId := rfl
@[simp] lemma newToken_maxUses (d : Decision) (i e : DateTime) :
    (newToken P env d i e).maxUses = 1 := rfl
@[simp] lemma newToken_useCount (d : Decision) (i e : DateTime) :
    (newToken P env d i e).useCount = 0 := rfl

end CapabilityStore

end GovSec
