import GovSec.Signal
import GovSec.Lib.Maps

/-!
HAAP, the gate that asks for a human: actions above the risk ceiling of their agency level
need a pre-authorization or an intent token of the operator.
-/

namespace GovSec

open GovSec.Lib.Text GovSec.Lib.Maps

inductive AgencyLevel
  | analyze
  | draftActions
  | modifyConfig
  | executeActions
  | financialOps
  | rootAuthority
  deriving DecidableEq

namespace AgencyLevel

def rank : AgencyLevel → ℕ
  | analyze => 0
  | draftActions => 1
  | modifyConfig => 2
  | executeActions => 3
  | financialOps => 4
  | rootAuthority => 5

/-- The risk score from which the level is gated; `none` is never, `some 0` always. -/
def gateThreshold : AgencyLevel → Option ℕ
  | analyze => none
  | draftActions => none
  | modifyConfig => some 40
  | executeActions => some 60
  | financialOps => some 0
  | rootAuthority => some 0

def requiresDualSignoff (level : AgencyLevel) : Bool := level = rootAuthority

/-- The `Display` form. -/
def text : AgencyLevel → Str
  | analyze => "ANALYZE"
  | draftActions => "DRAFT_ACTIONS"
  | modifyConfig => "MODIFY_CONFIG"
  | executeActions => "EXECUTE_ACTIONS"
  | financialOps => "FINANCIAL_OPS"
  | rootAuthority => "ROOT_AUTHORITY"

end AgencyLevel

/-! ### Intent tokens -/

structure IntentToken where
  tokenId : Str
  issuedBy : Str
  sessionId : Str
  agencyCeiling : AgencyLevel
  permittedActions : List Str
  forbiddenActions : List Str
  expiresAt : DateTime
  maxUses : Option ℕ
  signature : Str
  useCount : ℕ

namespace IntentToken

variable (t : IntentToken)

def canonical : Str :=
  joinWith '|'
    [t.tokenId, t.issuedBy, t.sessionId, t.agencyCeiling.text, intText (timestamp t.expiresAt),
      joinWith ',' t.permittedActions]

def isExpired (now : DateTime) : Bool := t.expiresAt < now

def isExhausted : Bool :=
  match t.maxUses with
  | some max => max ≤ t.useCount
  | none => false

end IntentToken

/-- What an operator fills in for a token. -/
structure IntentTokenBuilder where
  issuedBy : Str
  sessionId : Str
  agencyCeiling : AgencyLevel
  permittedActions : List Str
  forbiddenActions : List Str
  durationSecs : ℕ
  maxUses : Option ℕ

namespace IntentTokenBuilder

/-- Four hours by default. -/
def new (issuedBy sessionId : Str) : IntentTokenBuilder where
  issuedBy
  sessionId
  agencyCeiling := .executeActions
  permittedActions := []
  forbiddenActions := []
  durationSecs := 14400
  maxUses := none

def agency (b : IntentTokenBuilder) (level : AgencyLevel) : IntentTokenBuilder :=
  { b with agencyCeiling := level }

def permit (b : IntentTokenBuilder) (action : Str) : IntentTokenBuilder :=
  { b with permittedActions := b.permittedActions ++ [action] }

def forbid (b : IntentTokenBuilder) (action : Str) : IntentTokenBuilder :=
  { b with forbiddenActions := b.forbiddenActions ++ [action] }

def expiresIn (b : IntentTokenBuilder) (secs : ℕ) : IntentTokenBuilder :=
  { b with durationSecs := secs }

/-- `max_uses(n)`. -/
def withMaxUses (b : IntentTokenBuilder) (n : ℕ) : IntentTokenBuilder :=
  { b with maxUses := some n }

/-- `none` is the panic of an expiry beyond the last representable instant. -/
def build (P : Platform) (env : Supply) (b : IntentTokenBuilder) : Option IntentToken :=
  (addSeconds env.now (asI64 b.durationSecs)).map fun expiresAt =>
    let token : IntentToken :=
      { tokenId := "IT-" ++ env.fresh.simple
        issuedBy := b.issuedBy
        sessionId := b.sessionId
        agencyCeiling := b.agencyCeiling
        permittedActions := b.permittedActions
        forbiddenActions := b.forbiddenActions
        expiresAt
        maxUses := b.maxUses
        signature := []
        useCount := 0 }
    { token with signature := CryptoEngine.sign P token.canonical }

end IntentTokenBuilder

/-! ### The gate -/

inductive HaapVerdict
  | authorized (drs : ℕ) (agency : AgencyLevel)
  | gateRequired (drs : ℕ) (agency : AgencyLevel) (reason : Str) (signal : GovernanceSignal)
  | tokenVerified (tokenId : Str) (agency : AgencyLevel) (usesRemaining : Option ℕ)
      (signal : GovernanceSignal)
  | tokenRejected (reason : Str) (signal : GovernanceSignal)
  | constitutionalBlock (drs : ℕ) (signal : GovernanceSignal)

def HaapVerdict.isBlocked : HaapVerdict → Bool
  | gateRequired .. | tokenRejected .. | constitutionalBlock .. => true
  | authorized .. | tokenVerified .. => false

structure HaapGate where
  constitutionalBlockThreshold : ℕ
  tokens : HashMap Str IntentToken
  /-- Session to the pre-authorized action classes with their expiries. -/
  preauth : HashMap Str (List (Str × DateTime))

namespace HaapGate

def new : HaapGate := ⟨96, ∅, ∅⟩

variable (P : Platform) (env : Supply) (crypto : CryptoEngine) (g : HaapGate)

/-- The answer also prunes the expired entries of the session. -/
def isPreauthorized (now : DateTime) (sessionId actionClass : Str) : Bool × HaapGate :=
  let live (entries : List (Str × DateTime)) := entries.filter fun e => now < e.2
  match g.preauth.lookup sessionId with
  | some entries =>
    ((live entries).any (·.1 = actionClass),
      { g with preauth := g.preauth.insert sessionId (live entries) })
  | none => (false, g)

/-- The signal of a gate decision. -/
def signalFor (sessionId violation ruleId : Str) (severity : Severity) (confidence : ℚ)
    (payloadHash constRef : Str) : GovernanceSignal × CryptoEngine :=
  attachCrypto P env crypto
    (violationSignal .sentinel .inbound sessionId violation ruleId severity confidence payloadHash
      constRef)

/-- Why a stored token is refused: the violation with its rule, severity, confidence and
reason. -/
def tokenRefusal (now : DateTime) (sessionId : Str) (agency : AgencyLevel) (tokenId : Str)
    (t : IntentToken) : Option (Str × Str × Severity × ℚ × Str) :=
  if t.sessionId ≠ sessionId then
    some ("TOKEN_SESSION_MISMATCH", "HAAP-TOKEN-002", .critical, 0.97,
      "Token is bound to a different session")
  else if t.isExpired now then
    some ("TOKEN_EXPIRED", "HAAP-TOKEN-003", .high, 0.90,
      "Token '" ++ tokenId ++ "' expired at " ++ P.timeText t.expiresAt)
  else if t.isExhausted then
    some ("TOKEN_EXHAUSTED", "HAAP-TOKEN-004", .high, 0.90,
      "Token '" ++ tokenId ++ "' has no remaining uses")
  else if t.agencyCeiling.rank < agency.rank then
    some ("TOKEN_AGENCY_INSUFFICIENT", "HAAP-TOKEN-005", .high, 0.92,
      "Token ceiling " ++ t.agencyCeiling.text ++ " does not cover requested agency " ++
        agency.text)
  else if !CryptoEngine.verifies P t.canonical t.signature then
    some ("TOKEN_SIGNATURE_INVALID", "HAAP-TOKEN-006", .critical, 0.99,
      "Token signature verification failed")
  else none

def verifyToken (sessionId : Str) (agency : AgencyLevel) (tokenId payloadHash : Str) :
    HaapVerdict × HaapGate × CryptoEngine :=
  match g.tokens.lookup tokenId with
  | none =>
    let (signal, crypto) := signalFor P (env.part 1) crypto sessionId "TOKEN_NOT_FOUND"
      "HAAP-TOKEN-001" .high 0.92 payloadHash "haap/token_verification"
    (.tokenRejected ("Token '" ++ tokenId ++ "' not found in registry") signal, g, crypto)
  | some t =>
    match tokenRefusal P (env.part 0).now sessionId agency tokenId t with
    | some (violation, ruleId, severity, confidence, reason) =>
      let (signal, crypto) := signalFor P (env.part 1) crypto sessionId violation ruleId severity
        confidence payloadHash "haap/token_verification"
      (.tokenRejected reason signal, g, crypto)
    | none =>
      let t := { t with useCount := t.useCount + 1 }
      let (signal, crypto) := signalFor P (env.part 1) crypto sessionId "HAAP_TOKEN_VERIFIED"
        "HAAP-OK-001" .none 0 payloadHash "haap/token_verified"
      (.tokenVerified t.tokenId agency (t.maxUses.map (· - t.useCount)) signal,
        { g with tokens := g.tokens.insert tokenId t }, crypto)

def gateReason (actionClass : Str) (agency : AgencyLevel) (drs : ℕ) : Str :=
  "Action '" ++ actionClass ++ "' at agency level " ++ agency.text ++
    " requires human authorization (DRS=" ++ natText drs ++
    "). Present a valid Intent Token to proceed."

/-- A risk score below the gate of the agency level. -/
def belowGate (agency : AgencyLevel) (drs : ℕ) : Bool :=
  match agency.gateThreshold with
  | none => true
  | some threshold => drs < threshold

def evaluate (sessionId : Str) (agency : AgencyLevel) (drs : ℕ) (actionClass : Str)
    (token : Option Str) : HaapVerdict × HaapGate × CryptoEngine :=
  let payloadHash :=
    computeHash P (joinWith '|' ["haap", sessionId, agency.text, natText drs, actionClass])
  if g.constitutionalBlockThreshold ≤ drs then
    let (signal, crypto) := signalFor P (env.part 0) crypto sessionId "CONSTITUTIONAL_BLOCK"
      "HAAP-CONST-001" .critical 0.99 payloadHash "haap/constitutional_block"
    (.constitutionalBlock drs signal, g, crypto)
  else if belowGate agency drs then (.authorized drs agency, g, crypto)
  else
    let (preauthorized, g) := g.isPreauthorized (env.part 1).now sessionId actionClass
    if preauthorized then (.authorized drs agency, g, crypto)
    else
      match token with
      | some tokenId => verifyToken P (env.part 2) crypto g sessionId agency tokenId payloadHash
      | none =>
        let (signal, crypto) := signalFor P (env.part 3) crypto sessionId "HAAP_GATE_REQUIRED"
          "HAAP-GATE-001" .high 0.90 payloadHash "haap/authorization_required"
        (.gateRequired drs agency (gateReason actionClass agency drs) signal, g, crypto)

def registerToken (now : DateTime) (t : IntentToken) : Except Str Unit × HaapGate :=
  if t.isExpired now then (.error "Token is already expired", g)
  else if t.signature = [] then (.error "Token has no signature", g)
  else (.ok (), { g with tokens := g.tokens.insert t.tokenId t })

/-- `none` is the panic of an expiry beyond the last representable instant. -/
def preauthorize (now : DateTime) (sessionId actionClass : Str) (durationSecs : ℕ) :
    Option HaapGate :=
  (addSeconds now (asI64 durationSecs)).map fun expiry =>
    { g with
      preauth := g.preauth.insert sessionId
        ((g.preauth.lookup sessionId).getD [] ++ [(actionClass, expiry)]) }

def revokeSession (sessionId : Str) : HaapGate :=
  { g with
    preauth := g.preauth.erase sessionId
    tokens := retain (fun _ t => t.sessionId ≠ sessionId) g.tokens }

end HaapGate

end GovSec
