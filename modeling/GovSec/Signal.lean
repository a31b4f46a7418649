import Mathlib
import GovSec.Crypto

/-!
The signal schema every layer emits, its builder, and the chain linkage that every emitted
signal receives.
-/

namespace GovSec

open GovSec.Lib.Text

inductive Severity
  | none
  | low
  | medium
  | high
  | critical
  deriving DecidableEq

namespace Severity

def rank : Severity → ℕ
  | none => 0
  | low => 1
  | medium => 2
  | high => 3
  | critical => 4

lemma rank_injective : Function.Injective rank := by
  intro a b h; cases a <;> cases b <;> simp [rank] at h ⊢

/-- The order of the derived `Ord`. -/
instance : LinearOrder Severity := LinearOrder.lift' rank rank_injective

lemma le_iff {a b : Severity} : a ≤ b ↔ a.rank ≤ b.rank := Iff.rfl
lemma lt_iff {a b : Severity} : a < b ↔ a.rank < b.rank := Iff.rfl

def text : Severity → Str
  | none => "NONE"
  | low => "LOW"
  | medium => "MEDIUM"
  | high => "HIGH"
  | critical => "CRITICAL"

end Severity

inductive SignalSource
  | sentinel
  | corridor
  | overWatch
  | oim
  | arbiter
  deriving DecidableEq

def SignalSource.text : SignalSource → Str
  | sentinel => "Sentinel"
  | corridor => "Corridor"
  | overWatch => "OverWatch"
  | oim => "OIM"
  | arbiter => "Arbiter"

inductive Direction
  | inbound
  | outbound
  deriving DecidableEq

def Direction.text : Direction → Str
  | inbound => "inbound"
  | outbound => "outbound"

structure GovernanceSignal where
  id : Uuid
  source : SignalSource
  direction : Direction
  violationClass : Option Str
  policyRuleId : Option Str
  severity : Severity
  confidence : ℚ
  payloadHash : Str
  timestamp : DateTime
  previousHash : Option Str
  currentHash : Option Str
  signature : Option Str
  constitutionalRef : Option Str
  sessionId : Str
  deriving DecidableEq

namespace GovernanceSignal

/-- The text that is hashed and signed. -/
def canonical (s : GovernanceSignal) : Str :=
  joinWith '|'
    [s.id.hyphenated, s.source.text, s.direction.text, s.violationClass.getD "NONE",
      s.severity.text, fixedText 6 s.confidence, s.payloadHash,
      intText (timestampNanos s.timestamp)]

def isClean (s : GovernanceSignal) : Bool := s.severity = .none

end GovernanceSignal

structure SignalBuilder where
  source : SignalSource
  direction : Direction
  sessionId : Str
  violationClass : Option Str
  policyRuleId : Option Str
  severity : Severity
  confidence : ℚ
  payloadHash : Str
  constitutionalRef : Option Str

namespace SignalBuilder

def new (source : SignalSource) (direction : Direction) (sessionId : Str) : SignalBuilder where
  source
  direction
  sessionId
  violationClass := none
  policyRuleId := none
  severity := .none
  confidence := 0
  payloadHash := []
  constitutionalRef := none

def violation (b : SignalBuilder) (cls ruleId : Str) : SignalBuilder :=
  { b with violationClass := some cls, policyRuleId := some ruleId }

/-- `severity(s, c)`: the confidence is clamped to the unit interval. -/
def withSeverity (b : SignalBuilder) (severity : Severity) (confidence : ℚ) : SignalBuilder :=
  { b with severity, confidence := max 0 (min 1 confidence) }

def withPayloadHash (b : SignalBuilder) (hash : Str) : SignalBuilder :=
  { b with payloadHash := hash }

def withConstitutionalRef (b : SignalBuilder) (ref : Str) : SignalBuilder :=
  { b with constitutionalRef := some ref }

def build (env : Supply) (b : SignalBuilder) : GovernanceSignal where
  id := env.fresh
  source := b.source
  direction := b.direction
  violationClass := b.violationClass
  policyRuleId := b.policyRuleId
  severity := b.severity
  confidence := b.confidence
  payloadHash := b.payloadHash
  timestamp := env.now
  previousHash := none
  currentHash := none
  signature := none
  constitutionalRef := b.constitutionalRef
  sessionId := b.sessionId

end SignalBuilder

/-- The `build` helper of every layer: a signal with a violation. -/
def violationSignal (source : SignalSource) (direction : Direction) (sessionId violation ruleId : Str)
    (severity : Severity) (confidence : ℚ) (payloadHash constRef : Str) : SignalBuilder :=
  ((((SignalBuilder.new source direction sessionId).violation violation ruleId).withSeverity
    severity confidence).withPayloadHash payloadHash).withConstitutionalRef constRef

/-- The `clean` helper of every layer: a signal that reports nothing. -/
def cleanSignal (source : SignalSource) (direction : Direction) (sessionId payloadHash : Str) :
    SignalBuilder :=
  (SignalBuilder.new source direction sessionId).withPayloadHash payloadHash

/-- What a check of a layer reports. -/
structure Finding where
  violation : Str
  ruleId : Str
  severity : Severity
  confidence : ℚ
  constitutionalRef : Str
  deriving DecidableEq

/-- What holds of the reports of two checks holds of the first report. -/
lemma Finding.of_or {Q : Finding → Prop} {x y : Option Finding} (hx : ∀ f, x = some f → Q f)
    (hy : ∀ f, y = some f → Q f) : ∀ f, x.or y = some f → Q f := by
  cases x with
  | none => simpa using hy
  | some f => simpa using hx f rfl

/-- The severity of a report, and `NONE` where there is no report. -/
def reportSeverity : Option Finding → Severity
  | some f => f.severity
  | none => .none

lemma reportSeverity_or {x y : Option Finding} (hx : ∀ f, x = some f → f.severity ≠ .none) :
    reportSeverity (x.or y) =
      if reportSeverity x = .none then reportSeverity y else reportSeverity x := by
  cases x with
  | none => rfl
  | some f => exact (if_neg (hx f rfl)).symm

/-- The signal of a layer: its first finding, or a clean one. -/
def layerSignal (source : SignalSource) (direction : Direction) (sessionId payloadHash : Str) :
    Option Finding → SignalBuilder
  | some f =>
    violationSignal source direction sessionId f.violation f.ruleId f.severity f.confidence
      payloadHash f.constitutionalRef
  | none => cleanSignal source direction sessionId payloadHash

/-- `attach_crypto` on a freshly built signal: link it to the chain, extend the chain with its
canonical text and sign that text. -/
def attachCrypto (P : Platform) (env : Supply) (crypto : CryptoEngine) (b : SignalBuilder) :
    GovernanceSignal × CryptoEngine :=
  let sig := b.build env
  let canonical := sig.canonical
  let previousHash := crypto.getLatestHash
  let (currentHash, crypto) := crypto.extendChain P canonical
  ({ sig with
      previousHash := some previousHash
      currentHash := some currentHash
      signature := some (CryptoEngine.sign P canonical) }, crypto)

section AttachCrypto

variable (P : Platform) (env : Supply) (crypto : CryptoEngine) (b : SignalBuilder)

@[simp] lemma attachCrypto_source : (attachCrypto P env crypto b).1.source = b.source := rfl
@[simp] lemma attachCrypto_direction :
    (attachCrypto P env crypto b).1.direction = b.direction := rfl
@[simp] lemma attachCrypto_violationClass :
    (attachCrypto P env crypto b).1.violationClass = b.violationClass := rfl
@[simp] lemma attachCrypto_policyRuleId :
    (attachCrypto P env crypto b).1.policyRuleId = b.policyRuleId := rfl
@[simp] lemma attachCrypto_severity : (attachCrypto P env crypto b).1.severity = b.severity := rfl
@[simp] lemma attachCrypto_confidence :
    (attachCrypto P env crypto b).1.confidence = b.confidence := rfl
@[simp] lemma attachCrypto_sessionId :
    (attachCrypto P env crypto b).1.sessionId = b.sessionId := rfl

end AttachCrypto

section Builders

variable (source : SignalSource) (direction : Direction) (sessionId violation ruleId : Str)
  (severity : Severity) (confidence : ℚ) (payloadHash constRef : Str)

@[simp] lemma violationSignal_severity :
    (violationSignal source direction sessionId violation ruleId severity confidence payloadHash
      constRef).severity = severity := rfl
@[simp] lemma violationSignal_confidence :
    (violationSignal source direction sessionId violation ruleId severity confidence payloadHash
      constRef).confidence = max 0 (min 1 confidence) := rfl
@[simp] lemma violationSignal_sessionId :
    (violationSignal source direction sessionId violation ruleId severity confidence payloadHash
      constRef).sessionId = sessionId := rfl
@[simp] lemma violationSignal_direction :
    (violationSignal source direction sessionId violation ruleId severity confidence payloadHash
      constRef).direction = direction := rfl
@[simp] lemma violationSignal_violationClass :
    (violationSignal source direction sessionId violation ruleId severity confidence payloadHash
      constRef).violationClass = some violation := rfl
@[simp] lemma cleanSignal_severity :
    (cleanSignal source direction sessionId payloadHash).severity = .none := rfl
@[simp] lemma cleanSignal_sessionId :
    (cleanSignal source direction sessionId payloadHash).sessionId = sessionId := rfl
@[simp] lemma cleanSignal_direction :
    (cleanSignal source direction sessionId payloadHash).direction = direction := rfl
@[simp] lemma cleanSignal_violationClass :
    (cleanSignal source direction sessionId payloadHash).violationClass = none := rfl

variable {P : Platform} {env : Supply} {crypto : CryptoEngine} {source direction sessionId}

/-- A layer whose findings have a severity signals a finding exactly when it has one. -/
lemma isClean_layerSignal {f : Option Finding} (hf : ∀ g, f = some g → g.severity ≠ .none) :
    (attachCrypto P env crypto (layerSignal source direction sessionId payloadHash f)).1.isClean =
      true ↔ f = none := by
  cases f with
  | none => simp [GovernanceSignal.isClean, layerSignal]
  | some g =>
    have hg := hf g rfl
    simp [GovernanceSignal.isClean, layerSignal, hg]

/-- The signal of a layer is as severe as its report. -/
lemma severity_layerSignal {f : Option Finding} :
    (attachCrypto P env crypto (layerSignal source direction sessionId payloadHash f)).1.severity =
      reportSeverity f := by
  cases f <;> rfl

end Builders

end GovSec
