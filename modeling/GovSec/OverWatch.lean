import GovSec.Signal
import GovSec.Lib.Maps

/-!
OverWatch, the behavioural monitor: what one session has said so far, the violations that a
payload adds up to, and the signal made of them.

The number of violations decides the severity and the most confident one gives the rule.
-/

namespace GovSec

open GovSec.Lib.Text GovSec.Lib.Maps

namespace OverWatch

/-! ### One session -/

structure SessionFingerprint where
  driftScore : ℚ
  turnCount : ℕ
  escalationEvents : List DateTime
  violationCounts : HashMap Str ℕ
  toolCallSequence : List Str

def maxToolCallSequenceLen : ℕ := 20

namespace SessionFingerprint

def new : SessionFingerprint := ⟨0, 0, [], ∅, []⟩

variable (fp : SessionFingerprint)

def driftVelocity : ℚ := if fp.turnCount = 0 then 0 else fp.driftScore / fp.turnCount

def violationCount (key : Str) : ℕ := (fp.violationCounts.lookup key).getD 0

def countViolation (key : Str) : SessionFingerprint :=
  { fp with violationCounts := fp.violationCounts.insert key (fp.violationCount key + 1) }

/-- What a phrase adds to the drift score. -/
def driftPhrases : List (List Str × ℚ) :=
  [(["hypothetically", "in theory"], 0.08),
    (["what if you were", "imagine you had no"], 0.15),
    (["just this once", "no one will know"], 0.20),
    (["your developer", "anthropic says"], 0.25),
    (["remember this for later"], 0.10)]

def addDrift (lower : Str) : SessionFingerprint :=
  { fp with
    turnCount := fp.turnCount + 1
    driftScore := fp.driftScore +
      ((driftPhrases.filter fun d => containsAny lower d.1).map (·.2)).sum }

/-- From the fourth turn on, a fast drift feeds itself. -/
def compoundDrift : SessionFingerprint :=
  if 3 < fp.turnCount ∧ 0 < fp.driftScore ∧ 0.05 < fp.driftVelocity then
    { fp with driftScore := fp.driftScore + fp.driftVelocity * 0.5 }
  else fp

def tools : List Str :=
  ["filesystem", "execute", "shell", "eval", "http_get", "http_post", "read_file", "write_file"]

def recordTools (lower : Str) : SessionFingerprint :=
  let calls := fp.toolCallSequence ++ tools.filter (contains lower)
  { fp with toolCallSequence := calls.drop (calls.length - maxToolCallSequenceLen) }

def toolChainSuspicious : Bool :=
  fp.toolCallSequence.contains "read_file" && fp.toolCallSequence.contains "write_file" &&
    (fp.toolCallSequence.contains "execute" || fp.toolCallSequence.contains "shell")

def recordSuspicion (lower : Str) : SessionFingerprint :=
  if containsAny lower ["previous", "forget", "override"] || 0.2 < fp.driftScore then
    fp.countViolation "SUSPICION"
  else fp

def cmdStyleHit (lower : Str) : Bool :=
  containsAny lower ["/api/admin", "/api/internal"] ||
    (contains lower "dump" && containsAny lower ["config", "key", "secret"]) ||
    (containsAny lower ["show", "reveal"] && containsAny lower ["key", "token", "secret"]) ||
    (containsAny lower ["bypass", "ignore"] && containsAny lower ["haap", "sentinel", "auth"]) ||
    (containsAny lower ["grant", "escalate"] && containsAny lower ["admin", "root"])

def recordCmdStyle (lower : Str) : SessionFingerprint :=
  if cmdStyleHit lower then fp.countViolation "CMD_STYLE_INJ" else fp

/-- The families of phrases that turn the session's history into an authorization. -/
def q09Families : List (Str × List Str) :=
  [("Q09_F1",
      ["we already established", "you already agreed", "you've confirmed that",
        "you said earlier", "you conceded", "as we established", "from what we established",
        "you acknowledged earlier"]),
    ("Q09_F2",
      ["by your own logic", "your own reasoning", "your reasoning leads",
        "without contradicting yourself", "your logic demands",
        "intellectually dishonest to refuse", "following the logic you",
        "your own argument requires"]),
    ("Q09_F3",
      ["after all the progress", "we've come this far", "it would be a shame to stop",
        "all the time we've invested", "we've built real momentum",
        "after everything we've worked", "natural next step from what we",
        "we've been working through this"]),
    ("Q09_F4",
      ["compared to what we've been discussing", "relative to what we established",
        "by the standard we established", "given that you've already accepted",
        "nowhere near as extreme as what we covered"]),
    ("Q09_F5",
      ["everyone agrees", "no reasonable person would", "you're the only one",
        "the consensus is clear", "your position is an outlier", "virtually everyone"]),
    ("Q09_F6",
      ["bad faith to refuse", "logically inconsistent to refuse", "intellectually inconsistent",
        "your refusal contradicts", "refusing here makes no sense after",
        "you agreed, so refusing", "incoherent given what you've said"])]

/-- The fourth family has one more pattern, of two phrases together. -/
def q09Hit (lower key : Str) (phrases : List Str) : Bool :=
  containsAny lower phrases ||
    (key = "Q09_F4" && contains lower "if you accepted" && contains lower "then surely")

def recordQ09 (lower : Str) : SessionFingerprint :=
  q09Families.foldl
    (fun fp family => if q09Hit lower family.1 family.2 then fp.countViolation family.1 else fp) fp

def q09Total : ℕ := (q09Families.map fun family => fp.violationCount family.1).sum

/-- What one payload leaves in the fingerprint, before its violations are judged. -/
def observe (lower : Str) : SessionFingerprint :=
  (((((fp.addDrift lower).compoundDrift).recordTools lower).recordSuspicion lower).recordCmdStyle
    lower).recordQ09 lower

/-- A turn with violations is remembered for half an hour. -/
def recordEscalation (event now : DateTime) : SessionFingerprint :=
  { fp with
    escalationEvents :=
      (fp.escalationEvents ++ [event]).filter fun t => now - 1800 * nanosPerSec < t }

end SessionFingerprint

/-! ### Violations -/

structure OverWatchConfig where
  driftThreshold : ℚ
  q09Threshold : ℕ

def OverWatchConfig.default : OverWatchConfig := ⟨0.65, 2⟩

structure Violation where
  violation : Str
  ruleId : Str
  confidence : ℚ

def scoreHallucination (lower : Str) : ℚ :=
  (if contains lower "definitely" && contains lower "might" then 0.3 else 0) +
  (if contains lower "according to" && contains lower "study shows" then 0.2 else 0) +
  (if contains lower "% of" && contains lower "studies show" then 0.25 else 0)

def detectPoisoning (lower : Str) : Bool :=
  containsAny lower ["<!-- ignore", "# instruction:", "[system]", "\x7b\x7bprompt\x7d\x7d",
    "<<<instructions>>>"]

def detectDos (lowerDos : Str) : Bool :=
  (contains lowerDos "repeat the following" && containsAny lowerDos ["10000", "1000"]) ||
    contains lowerDos "infinitely recursive" ||
    (contains lowerDos "infinite loop" && contains lowerDos "bypass")

/-- The violation of a rule whose condition holds. -/
def rule (holds : Bool) (violation ruleId : Str) (confidence : ℚ) : List Violation :=
  if holds then [⟨violation, ruleId, confidence⟩] else []

variable (P : Platform)

/-- The violations of a payload, given the fingerprint that has observed it. -/
def violations (config : OverWatchConfig) (fp : SessionFingerprint) (payload : Str)
    (direction : Direction) : List Violation :=
  let lower := P.toLowercase payload
  let cmd := fp.violationCount "CMD_STYLE_INJ"
  let q09 := fp.q09Total
  let q09Fires : Bool := 2 ≤ fp.turnCount && config.q09Threshold < q09
  let q09Confidence : ℚ := min (0.62 + ((q09 - 2 : ℕ) : ℚ) * 0.04) 0.90
  let hallucination := scoreHallucination lower
  rule (config.driftThreshold < fp.driftScore) "CONVERSATION_DRIFT" "OW-001"
      (min fp.driftScore 0.99) ++
    rule fp.toolChainSuspicious "TOOL_CHAIN_ESCALATION" "OW-002" 0.88 ++
    rule (5 < fp.violationCount "SUSPICION") "MULTI_TURN_INJECTION_CAMPAIGN" "OW-003" 0.82 ++
    rule (3 ≤ cmd) "CMD_INJECTION_CAMPAIGN" "OW-CMD-001"
      (min (0.70 + ((cmd - 2 : ℕ) : ℚ) * 0.05) 0.95) ++
    rule q09Fires "SEMANTIC_DRIFT_DIALECTICAL" "OW-Q09-001" q09Confidence ++
    rule (q09Fires && 5 ≤ q09) "SEMANTIC_DRIFT_Q09_VELOCITY" "OW-Q09-001" q09Confidence ++
    rule (q09Fires && 7 ≤ q09) "SEMANTIC_DRIFT_Q09_CAMPAIGN" "OW-Q09-001" q09Confidence ++
    rule (direction = .outbound && 0.6 < hallucination) "HALLUCINATION_DETECTED" "OW-004"
      hallucination ++
    rule (detectPoisoning lower) "DATA_POISONING_INDICATOR" "OW-005" 0.78 ++
    rule (detectDos (toAsciiLowercase payload)) "RUNTIME_DOS" "OW-DOS-001" 0.80

/-- The last of the most confident violations. -/
def strongest (first : Violation) (rest : List Violation) : Violation :=
  rest.foldl (fun best v => if v.confidence < best.confidence then best else v) first

def severityOf (violations : ℕ) : Severity :=
  match violations with
  | 0 | 1 => .medium
  | 2 => .high
  | _ => .critical

/-- The finding that a list of violations amounts to. -/
def finding : List Violation → Option Finding
  | [] => none
  | first :: rest =>
    some
      { violation := joinWith '|' ((first :: rest).map (·.violation))
        ruleId := (strongest first rest).ruleId
        severity := severityOf (first :: rest).length
        confidence := (strongest first rest).confidence
        constitutionalRef := "overwatch/behavioral_monitoring" }

lemma finding_eq_none {vs : List Violation} : finding vs = none ↔ vs = [] := by
  cases vs <;> simp [finding]

lemma finding_severity_ne_none {vs : List Violation} :
    ∀ f, finding vs = some f → f.severity ≠ .none := by
  intro f h
  cases vs with
  | nil => cases h
  | cons v rest =>
    obtain rfl := Option.some.inj h
    dsimp only
    unfold severityOf
    split <;> decide

end OverWatch

/-! ### The monitor -/

structure OverWatch where
  config : OverWatch.OverWatchConfig
  sessions : HashMap Str OverWatch.SessionFingerprint

namespace OverWatch

def new : OverWatch := ⟨.default, ∅⟩

variable (P : Platform) (env : Supply) (crypto : CryptoEngine) (ow : OverWatch)

def evaluate (payload : Str) (direction : Direction) (sessionId : Str) :
    GovernanceSignal × OverWatch × CryptoEngine :=
  let fp := ((ow.sessions.lookup sessionId).getD .new).observe (P.toLowercase payload)
  let vs := violations P ow.config fp payload direction
  let fp :=
    if vs.isEmpty then fp else fp.recordEscalation (env.part 0).now (env.part 1).now
  let (signal, crypto) := attachCrypto P (env.part 2) crypto
    (layerSignal .overWatch direction sessionId (computeHash P payload) (finding vs))
  (signal, { ow with sessions := ow.sessions.insert sessionId fp }, crypto)

def resetSession (sessionId : Str) : OverWatch :=
  { ow with sessions := ow.sessions.erase sessionId }

def sessionDriftScore (sessionId : Str) : ℚ :=
  ((ow.sessions.lookup sessionId).map (·.driftScore)).getD 0

end OverWatch

end GovSec
