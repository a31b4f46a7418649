import GovSec.Signal

/-!
Corridor, the second inspection of a payload, with the constitutional evaluator it consults.

The evaluator reports every violation it finds; their number decides the severity. Corridor
reports its first finding: base64 content, layered encodings, markup, prompt chains, the
constitution, and claims about the governance layer itself.
-/

namespace GovSec

open GovSec.Lib.Text

/-! ### The constitution -/

structure ToneConstraints where
  noPoliticalBias : Bool
  noReligiousEndorsement : Bool

structure Constitution where
  policyVersion : Str
  prohibitedCategories : List Str
  prohibitedPatterns : List Str
  requiredDeferrals : List Str
  toneConstraints : ToneConstraints

structure ConstitutionalViolation where
  ruleId : Str
  category : Str
  description : Str
  constitutionalRef : Str

structure ConstitutionalVerdict where
  violations : List ConstitutionalViolation
  severity : Severity
  confidence : ℚ
  payloadHash : Str
  policyVersion : Str

structure ConstitutionalEvaluator where
  constitution : Constitution
  /-- Rule ids with patterns that compile. -/
  compiledPatterns : List (Str × Str)

namespace ConstitutionalEvaluator

/-- `{:03}`. -/
def paddedText (n : ℕ) : Str :=
  let t := natText n
  List.replicate (3 - t.length) '0' ++ t

variable (P : Platform)

/-- The evaluator of a document whose integrity holds; `none` when a pattern does not compile. -/
def new (constitution : Constitution) : Option ConstitutionalEvaluator :=
  if constitution.prohibitedPatterns.all P.compiles then
    some
      { constitution
        compiledPatterns := constitution.prohibitedPatterns.zipIdx.map fun (pattern, i) =>
          ("CONST-PATTERN-" ++ paddedText (i + 1), pattern) }
  else none

/-- Word-boundary aware matching. -/
def wordBoundaryMatch (text term : Str) : Bool :=
  let pattern : Str := "(?i)\\b" ++ P.regexEscape term ++ "\\b"
  P.compiles pattern && P.isMatch pattern text

def severityOf (violations : ℕ) : Severity × ℚ :=
  match violations with
  | 0 => (.none, 0)
  | 1 => (.medium, 0.75)
  | 2 => (.high, 0.85)
  | _ => (.critical, 0.95)

variable (e : ConstitutionalEvaluator)

def buildVerdict (violations : List ConstitutionalViolation) (payloadHash : Str) :
    ConstitutionalVerdict where
  violations
  severity := (severityOf violations.length).1
  confidence := (severityOf violations.length).2
  payloadHash
  policyVersion := e.constitution.policyVersion

def inboundViolations (payload : Str) : List ConstitutionalViolation :=
  ((e.compiledPatterns.filter fun p => P.isMatch p.2 payload).map fun p =>
    { ruleId := p.1
      category := "PROHIBITED_PATTERN"
      description := "Pattern match: " ++ p.2
      constitutionalRef := e.constitution.policyVersion ++ "/prohibited_patterns" }) ++
  (e.constitution.prohibitedCategories.filter (wordBoundaryMatch P payload)).map fun category =>
    { ruleId := "CONST-CAT-" ++ category
      category := "PROHIBITED_CATEGORY"
      description := "Category detected: " ++ category
      constitutionalRef :=
        e.constitution.policyVersion ++ "/prohibited_categories/" ++ category }

def evaluateInbound (payload : Str) : ConstitutionalVerdict :=
  buildVerdict e (inboundViolations P e payload) (computeHash P payload)

def politicalPattern : Str :=
  r"(?i)\b(vote for|elect|political party|democrat|republican|liberal|conservative)\b"

def religiousPattern : Str :=
  r"(?i)\b(convert to|religion is superior|only true faith|god commands you)\b"

/-- A tone rule that is switched on and whose pattern matches. -/
def toneViolation (on : Bool) (pattern ruleId description ref payload : Str) :
    List ConstitutionalViolation :=
  if on && P.isMatch pattern payload then
    [{ ruleId, category := "TONE_VIOLATION", description
       constitutionalRef := e.constitution.policyVersion ++ "/tone_constraints/" ++ ref }]
  else []

def outboundViolations (payload : Str) : List ConstitutionalViolation :=
  ((e.compiledPatterns.filter fun p => P.isMatch p.2 payload).map fun p =>
    { ruleId := p.1 ++ "-OUT"
      category := "PROHIBITED_OUTPUT"
      description := "Output contains prohibited pattern"
      constitutionalRef := e.constitution.policyVersion ++ "/output_policy" }) ++
  ((e.constitution.requiredDeferrals.filter fun deferral =>
      contains (P.toLowercase payload) (P.toLowercase deferral)).map fun deferral =>
    { ruleId := "CONST-DEFER-" ++ P.toUppercase (replaceChar ' ' '_' deferral)
      category := "DEFERRAL_VIOLATION"
      description := "Output may be making claim that requires deferral: " ++ deferral
      constitutionalRef := e.constitution.policyVersion ++ "/required_deferrals" }) ++
  toneViolation P e e.constitution.toneConstraints.noPoliticalBias politicalPattern
    "CONST-TONE-001" "Political bias detected in output" "no_political_bias" payload ++
  toneViolation P e e.constitution.toneConstraints.noReligiousEndorsement religiousPattern
    "CONST-TONE-002" "Religious endorsement detected in output" "no_religious_endorsement" payload

def evaluateOutbound (payload : Str) : ConstitutionalVerdict :=
  buildVerdict e (outboundViolations P e payload) (computeHash P payload)

def evaluate (direction : Direction) (payload : Str) : ConstitutionalVerdict :=
  match direction with
  | .inbound => evaluateInbound P e payload
  | .outbound => evaluateOutbound P e payload

end ConstitutionalEvaluator

/-! ### Corridor -/

namespace Corridor

def multiEncoding : Str := r"(?i)(?:&#x[0-9a-f]+;|%[0-9a-f]{2}|\\u[0-9a-f]{4}){4,}"

def promptChain : Str :=
  r"(?i)(first|step 1|initially).{0,100}(then|next|step 2).{0,100}(finally|step 3|last)"

def metadataInjection : Str := r"(?i)<\s*(script|iframe|object|embed|form|input|meta)\b"

def suspiciousPhrases : List Str :=
  ["ignore previous", "system prompt", "you are now", "<script", "eval("]

variable (P : Platform)

def analyzeBase64 (payload : Str) : Option Finding :=
  let trimmed := trim payload
  if utf8Len trimmed < 64 ∨ utf8Len trimmed % 4 ≠ 0 then none
  else
    (P.base64Text trimmed).map fun decoded =>
      if containsAny (P.toLowercase decoded) suspiciousPhrases then
        ⟨"BASE64_ENCODED_INJECTION", "CORR-001", .critical, 0.95, "corridor/encoding_detection"⟩
      else ⟨"BASE64_CONTENT", "CORR-001-INFO", .low, 0.50, "corridor/encoding_detection"⟩

def multiEncodingCheck (payload : Str) : Option Finding :=
  if P.isMatch multiEncoding payload then
    some ⟨"MULTI_LAYER_ENCODING", "CORR-002", .high, 0.85, "corridor/encoding_detection"⟩
  else none

def metadataCheck (payload : Str) : Option Finding :=
  if P.isMatch metadataInjection payload then
    some ⟨"METADATA_INJECTION", "CORR-003", .high, 0.90, "corridor/metadata_injection"⟩
  else none

def promptChainCheck (direction : Direction) (payload : Str) : Option Finding :=
  if direction = .inbound ∧ P.isMatch promptChain payload = true then
    some ⟨"PROMPT_CHAINING", "CORR-004", .medium, 0.70, "corridor/prompt_chaining"⟩
  else none

def constitutionCheck (evaluator : Option ConstitutionalEvaluator) (direction : Direction)
    (payload : Str) : Option Finding :=
  evaluator.bind fun e =>
    let verdict := e.evaluate P direction payload
    match verdict.violations with
    | [] => none
    | v :: _ =>
      some
        { violation := joinWith '|' (verdict.violations.map (·.category))
          ruleId := joinWith '|' (verdict.violations.map (·.ruleId))
          severity := verdict.severity
          confidence := verdict.confidence
          constitutionalRef := v.constitutionalRef }

def authorityPhrases : List Str :=
  ["control plane has authorized", "authorized by control plane", "[agent:", "delegation token",
    "operate without haap", "bypass constitutional bounds"]

def broadcastPhrases : List Str :=
  ["forward this to all other agents", "[a2a:broadcast", "disable haap enforcement",
    "disable governance layer", "ignore your constitutional bounds"]

def surfacePhrases : List Str :=
  ["what are your drs thresholds", "escalation rules", "list all available tools",
    "parameter schemas", "governance spine configuration"]

def classifyGovernanceSurface (text : Str) : Option (Str × Str) :=
  let t := toAsciiLowercase text
  if containsAny t authorityPhrases then some ("AUTHORITY_CLAIM", "COR-ATH-001")
  else if containsAny t broadcastPhrases then some ("AGENT_BROADCAST_OVERRIDE", "COR-A2A-001")
  else if containsAny t surfacePhrases then some ("GOV_SURFACE_INTEL", "COR-CONFIG-001")
  else none

def governanceSurfaceCheck (payload : Str) : Option Finding :=
  (classifyGovernanceSurface payload).map fun (violation, rule) =>
    ⟨violation, rule, .medium, 0.78, "corridor/governance_surface"⟩

/-- The first check of `evaluate` that reports. -/
def finding (evaluator : Option ConstitutionalEvaluator) (direction : Direction) (payload : Str) :
    Option Finding :=
  analyzeBase64 P payload <|> multiEncodingCheck P payload <|> metadataCheck P payload <|>
    promptChainCheck P direction payload <|> constitutionCheck P evaluator direction payload <|>
    governanceSurfaceCheck payload

/-- The signal of `evaluate` before it is linked to the chain. -/
def evaluateBuilder (payload : Str) (direction : Direction) (sessionId : Str)
    (evaluator : Option ConstitutionalEvaluator) : SignalBuilder :=
  layerSignal .corridor direction sessionId (computeHash P payload)
    (finding P evaluator direction payload)

def evaluate (env : Supply) (crypto : CryptoEngine) (payload : Str) (direction : Direction)
    (sessionId : Str) (evaluator : Option ConstitutionalEvaluator) :
    GovernanceSignal × CryptoEngine :=
  attachCrypto P env crypto (evaluateBuilder P payload direction sessionId evaluator)

variable {P} {evaluator : Option ConstitutionalEvaluator} {direction : Direction} {payload : Str}

lemma constitutionCheck_severity_ne_none {f : Finding}
    (h : constitutionCheck P evaluator direction payload = some f) : f.severity ≠ .none := by
  obtain ⟨e, -, hf⟩ := Option.bind_eq_some_iff.mp h
  have hsev (vs : List ConstitutionalViolation) (hash : Str) (hne : vs ≠ []) :
      (e.buildVerdict vs hash).severity ≠ .none := by
    have hlen : vs.length ≠ 0 := by simpa using hne
    simp only [ConstitutionalEvaluator.buildVerdict]
    unfold ConstitutionalEvaluator.severityOf
    split <;> first | contradiction | decide
  dsimp only at hf
  split at hf
  · cases hf
  · next v rest hvs =>
    obtain rfl := Option.some.inj hf
    have hne : (e.evaluate P direction payload).violations ≠ [] := by rw [hvs]; simp
    cases direction with
    | inbound => exact hsev _ (computeHash P payload) hne
    | outbound => exact hsev _ (computeHash P payload) hne

lemma finding_severity_ne_none :
    ∀ f, finding P evaluator direction payload = some f → f.severity ≠ .none := by
  simp only [finding, Option.orElse_eq_orElse, Option.orElse_eq_or]
  refine Finding.of_or (fun f h => ?_) (Finding.of_or (fun f h => ?_) (Finding.of_or (fun f h => ?_)
    (Finding.of_or (fun f h => ?_) (Finding.of_or (fun f h => ?_) (fun f h => ?_)))))
  · unfold analyzeBase64 at h
    dsimp only at h
    split at h
    · cases h
    · obtain ⟨decoded, -, rfl⟩ := Option.map_eq_some_iff.mp h
      split <;> decide
  · unfold multiEncodingCheck at h
    split at h <;> cases h
    decide
  · unfold metadataCheck at h
    split at h <;> cases h
    decide
  · unfold promptChainCheck at h
    split at h <;> cases h
    decide
  · exact constitutionCheck_severity_ne_none h
  · obtain ⟨_, -, rfl⟩ := Option.map_eq_some_iff.mp h
    exact (by decide : Severity.medium ≠ .none)

end Corridor

end GovSec
