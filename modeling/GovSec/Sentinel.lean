import GovSec.Signal

/-!
Sentinel, the first inspection of a payload: size, obfuscation, blocklist, injection rules
and encodings, in this order.

A payload within the size limit that a blocklist or injection rule matches is always reported
as `HIGH` with a confidence of at least 0.85, by that rule or by an earlier check.
-/

namespace GovSec.Sentinel

open GovSec.Lib.Text

/-! ### Rules -/

/-- A table of rule ids and patterns. -/
def rules (table : List (String × String)) : List (Str × Str) :=
  table.map fun r => (r.1, r.2)

def injectionPatterns : List (Str × Str) := rules
  [("SENT-001", r"(?i)\b(ignore previous instructions|disregard your training|forget your guidelines)\b"),
    ("SENT-002", r"(?i)\b(you are now|act as if you are|pretend you are|you have no restrictions)\b"),
    ("SENT-003", r"(?i)\b(DAN|do anything now|jailbreak|bypass your)\b"),
    ("SENT-004", r"(?ix)\b(?:reveal|show|print|dump|display|leak|extract)\b.{0,40}\b(?:system\s+prompt|developer\s+message|hidden\s+instructions|internal\s+rules)\b"),
    ("SENT-004B", r"(?ix)\bwhat\s+are\s+your\s+(?:system|developer|hidden)\s+(?:instructions|prompt|rules)\b"),
    ("SENT-004C", r"(?i)\breveal\b.{0,30}\b(instructions|rules|config|constitution)\b"),
    ("SENT-004D", r"(?i)\b(output|dump|show|reveal|print)\b.{0,40}\b(configuration|config|internal\s+rules|api\s+keys?|tokens?|access\s+keys?)\b"),
    ("SENT-004E", r"(?i)\b(repeat|dump|output|show)\b.{0,40}\b(context\s+window|conversation|everything\s+from|full\s+history)\b"),
    ("SENT-004F", r"(?i)\bwhat\s+(api\s+keys?|tokens?|credentials|secrets?)\b.{0,30}\b(do\s+you|have|access)\b"),
    ("SENT-005", r"(?i)\b(malware|ransomware|trojan|rootkit|keylogger)\b"),
    ("SENT-006", r"(?i)\b(ddos|botnet|exploit\s+kit|zero.?day|0day|vulnerability)\b"),
    ("SENT-007", r"(?i)\b(phishing|credential\s+harvest|spear.?phish)\b"),
    ("SENT-008", r"(?ix)\b(?:run|execute|exec(?:ute)?|eval|system|powershell|bash|sh|cmd|terminal)\b.{0,40}\b(?:code|command|script|shell|curl|wget|pip|npm|apt(?:-get)?|chmod|chown|rm\s+-rf)\b"),
    ("SENT-008B", r"(?ix)\b(?:exec|eval|system)\s*\(\s*[\x27\x22]"),
    ("SENT-008C", r"(?ix)\b(?:os\.system|subprocess\.(?:run|popen)|Runtime\.exec)\b"),
    ("SENT-008D", r"(?i)\bcall\s+tool\s*[:=]\s*\w+"),
    ("SENT-008E", r"(?i)\bExecute\s*:\s*.{0,60}\b(passwd|shadow|hosts|bashrc|ssh|wget|curl|cat\s+/)\b"),
    ("SENT-008F", r"(?i)\bcat\s+/\w+"),
    ("SENT-009", r"(?ix)\b(?:override|bypass|disable|ignore|disregard|break|remove)\b.{0,40}\b(?:safety|guardrails|policy|rules|filters|constraints)\b"),
    ("SENT-009B", r"(?ix)\b(?:as\s+(?:your|the)\s+)?(?:creator|developer|admin|root|system)\b.{0,30}\b(?:i\s+(?:order|command)|you\s+must|override)\b"),
    ("SENT-009C", r"(?ix)\byou\s+are\s+(?:now\s+)?(?:root|admin|developer|system|creator)\b"),
    ("SENT-009D", r"(?ix)\brespond\b.{0,20}\bwithout\b.{0,20}\b(?:restrictions?|filters?|guardrails?|rules?)\b"),
    ("SENT-001B", r"(?i)\b(please\s+ignore|kindly\s+ignore|disregard\s+all\s+prior|ignore\s+all\s+prior)\b"),
    ("SENT-001C", r"(?i)i[\s._-]*g[\s._-]*n[\s._-]*o[\s._-]*r[\s._-]*e[\s._-]+p[\s._-]*r[\s._-]*e[\s._-]*v[\s._-]*i[\s._-]*o[\s._-]*u[\s._-]*s"),
    ("SENT-001D", r"(?i)(ignore_previous|IgnorePrevious|IGNOREPREVIOUS)"),
    ("SENT-001E", r"(?i)ignore_all_previous|ignore_previous_instructions|reveal_system_prompt"),
    ("SENT-001F", r"(?i)\b(pretty\s+please|sugar\s+on\s+top|with\s+respect|kindly\s+bypass)\b.{0,60}\b(ignore|bypass|disable|override)\b"),
    ("SENT-001G", r"(?ix)\bignore\b.{0,8}\b(?:all\s+)?(?:prior|previous)\b.{0,8}\binstructions?\b"),
    ("SENT-002B", r"(?i)\b(i\s+am\s+your\s+(administrator|admin|operator|owner))\b.{0,40}\b(switch|enable|activate|unrestricted|admin\s+mode)\b"),
    ("SENT-002C", r"(?i)^\s*SYSTEM\s*:\s*(you\s+are|ignore|disable|override)"),
    ("SENT-003B", r"(?i)\b(developer\s+mode|dev\s+mode|bypass\s+all|no\s+restrictions|without\s+restrictions|remove\s+all\s+restrictions)\b"),
    ("SENT-003C", r"(?i)\bsimulate\b.{0,30}\b(no\s+filters|no\s+restrictions|without\s+guidelines)\b"),
    ("SENT-003D", r"(?i)\b(rules?\s+are\s+inverted|as\s+if.{0,20}rules?\s+inverted|invert.{0,20}rules?)\b"),
    ("SENT-003E", r"(?i)\b(in\s+a\s+stor[yi]|in\s+a\s+fictional|in\s+a\s+hypothetical|in\s+a\s+world\s+where)\b.{0,60}\b(no\s+rules?|no\s+restrictions?|no\s+guidelines?|bypass|unrestricted)\b"),
    ("SENT-003F", r"(?i)\b(let.s\s+play\s+a\s+game|play\s+a\s+game\s+where)\b.{0,60}\b(no\s+guidelines?|no\s+rules?|pretend|unrestricted)\b"),
    ("SENT-003G", r"(?ix)\b(?:unconstrained|unrestricted|without\s+(?:limits|constraints)|no\s+(?:constraints|rules|restrictions))\b"),
    ("SENT-010A", r"(?i)\bwhat\s+(is|are)\s+your\s+(system\s+)?(prompt|instruction|guideline|rule)s?\b"),
    ("SENT-010B", r"(?i)\b(dump|print|show|reveal|display)\s+(all\s+)?(internal\s+)?(instruction|secret|guideline|rule|prompt|config)s?\b"),
    ("SENT-011A", r"(?ix)\bhypothetically\b.{0,40}\b(no|without|ignore|bypass).{0,30}\b(safety|guideline|rule|restriction|governance)\b"),
    ("SENT-011B", r"(?ix)\b(fictional|story|roleplay|imagine|pretend)\b.{0,60}\b(ignore|bypass|override|disregard).{0,40}\b(governance|rule|safety|guideline)\b"),
    ("SENT-011C", r"(?ix)\b(if|what.*if)\s+you\s+(had\s+no|were\s+without|didn.t\s+have|lacked).{0,40}\b(rule|safety|guideline|restriction)\b"),
    ("SENT-012A", r"(?ix)\b(call|invoke|use|run)\b.{0,30}\b(shell|bash|cmd|terminal|tool)\b.{0,60}\b(rm\s+-rf|del\s+/|chmod|mkfs|dd|shutdown)\b"),
    ("SENT-012B", r"(?ix)\b(code\s+execution|execute\s+code|execution\s+capability|capability).{0,60}\b(exfiltrat|environment|credential|secret|token|api\s+key)\b"),
    ("SENT-012C", r"(?ix)\b(environment\s+variables?|process\.env|os\.environ|getenv).{0,40}\b(dump|show|print|reveal|send|exfil)\b"),
    ("SENT-013A", r"(?ix)\bjust\s+this\s+once\b.{0,60}\b(exception|rule|guideline|override|ignore|bypass)\b"),
    ("SENT-013B", r"(?ix)\bmake\s+an\s+exception\b.{0,40}\b(to\s+your\s+)?(rule|guideline|policy)\b"),
    ("SENT-015A", r"(?ix)\bwhat\s+(model|version).{0,30}\b(you|are|based\s+on|running|powered|built)\b"),
    ("SENT-015B", r"(?ix)\bwhat\s+(version|release).{0,40}\b(governance|spine|sentinel|corridor|overwatch|system)\b"),
    ("SENT-015C", r"(?i)\bwhat\s+(architecture|framework|stack|pipeline)\b"),
    ("SENT-CMD-001", r"(?i)\bdump\b.{0,10}\b(config|env|key|secret|token|credential)\b"),
    ("SENT-CMD-002", r"(?i)/api/(admin|internal|secret|debug|config|raw|v\d+)"),
    ("SENT-CMD-003", r"(?ix)\b(show|reveal|print|echo|expose|list)\b.{0,20}\b(key|token|secret|route|config)\b"),
    ("SENT-CMD-004", r"(?ix)\b(role|grant|escalate)\b.{0,15}\b(admin|root|operator|superuser)\b"),
    ("SENT-CMD-005", r"(?ix)\b(tool|function|call|invoke|execute|run)\b.{0,20}\b(shell|bash|system|exec|eval)\b"),
    ("SENT-CMD-006", r"(?ix)\b(bypass|skip|ignore)\b.{0,20}\b(auth|governance|gate|haap|sentinel)\b"),
    ("SENT-CMD-007", r"(?ix)\b(list|dump|show)\s+(all\s+)?(endpoint|route|api\s*route|handler)s?\b"),
    ("SENT-CMD-008", r"(?ix)\b(promote|elevate|sudo|su)\b.{0,20}\b(privilege|access|level|role)\b"),
    ("SENT-CMD-009", r"(?ix)\b(enumerate|iterate|list)\b.{0,30}\b(function|method|endpoint|tool|command|capability)s?\b"),
    ("SENT-CMD-010", r"(?i)\bexecute\s+(as|with)\s+(admin|root|operator|system)\b")]

def blocklistPatterns : List (Str × Str) := rules
  [("SENT-BL-001", r"(?i)\bsudo\b"),
    ("SENT-BL-002", r"(?i)\bpassword\s*[:=]\s*\S+"),
    ("SENT-BL-003", r"(?i)\bapi[_\s]?key\s*[:=]\s*\S+")]

def encodingPatterns : List (Str × Str) := rules
  [("SENT-ENC-001", r"(?:0x[0-9a-fA-F]{2}\s*){8,}"),
    ("SENT-ENC-002", r"(?:%[0-9a-fA-F]{2}){6,}")]

def maxPayloadBytes : ℕ := 32768

/-! ### Normalisation -/

/-- Middle dot, bullet, bullet operator, dot operator, hyphenation point, halfwidth katakana
middle dot. -/
def interpuncts : List ℕ := [0x00B7, 0x2022, 0x2219, 0x22C5, 0x2027, 0xFF65]

def zeroWidths : List ℕ := [0x200B, 0x200C, 0x200D, 0x2060, 0xFEFF, 0x00AD]

def normalizeUnicode (input : Str) : Str :=
  (input.filter fun c => !interpuncts.contains c.toNat).filter fun c =>
    !zeroWidths.contains c.toNat

def detectZeroWidth (payload : Str) : Bool := payload.any fun c => zeroWidths.contains c.toNat

def detectHomoglyphs (payload : Str) : Bool :=
  let hasAscii := payload.any Char.isAlpha
  let hasCyrillic := payload.any fun c => 0x0400 ≤ c.toNat && c.toNat ≤ 0x04FF
  let hasGreek := payload.any fun c => 0x0370 ≤ c.toNat && c.toNat ≤ 0x03FF
  (hasGreek || hasCyrillic) && hasAscii

def l33tPairs : List (Char × Char) :=
  [('1', 'i'), ('3', 'e'), ('4', 'a'), ('5', 's'), ('0', 'o'), ('7', 't'), ('$', 's'), ('@', 'a')]

def normalizeL33t (P : Platform) (input : Str) : Str :=
  l33tPairs.foldl (fun t p => replaceChar p.1 p.2 t) (P.toLowercase input)

/-- The number of words that look like l33t: at least six bytes, and two of its characters or
a fifth of them from the l33t alphabet. -/
def leetEvidenceScore (input : Str) : ℕ :=
  (words input).countP fun token =>
    let leetCount := token.countP fun c => (l33tPairs.map (·.1)).contains c
    let ratio : ℚ := leetCount / utf8Len token
    6 ≤ utf8Len token && leetCount ≠ 0 && (0.20 ≤ ratio || 2 ≤ leetCount)

def tryDecodeBase64 (P : Platform) (input : Str) : Option Str :=
  let trimmed := trim input
  if utf8Len trimmed < 20 then none
  else if !trimmed.all (fun c => c.isAlphanum || c == '+' || c == '/' || c == '=') then none
  else P.base64Text trimmed

/-! ### Checks -/

/-- The id of the first rule whose pattern passes the test. -/
def firstRule (rules : List (Str × Str)) (test : Str → Bool) : Option Str :=
  (rules.find? fun r => test r.2).map (·.1)

def sizeCheck (payload : Str) : Option Finding :=
  if maxPayloadBytes < utf8Len payload then
    some ⟨"SIZE_EXCEEDED", "SENT-SIZE-001", .low, 0.70, "sentinel/size_limit"⟩
  else none

def zeroWidthCheck (normalizedUnicode : Str) : Option Finding :=
  if detectZeroWidth normalizedUnicode then
    some ⟨"ZERO_WIDTH_CHARS", "SENT-ZW-001", .high, 0.90, "sentinel/encoding_anomaly"⟩
  else none

def homoglyphCheck (normalizedUnicode : Str) : Option Finding :=
  if detectHomoglyphs normalizedUnicode then
    some ⟨"HOMOGLYPH_OBFUSCATION", "SENT-HG-001", .high, 0.85, "sentinel/encoding_anomaly"⟩
  else none

variable (P : Platform)

def l33tCheck (normalizedUnicode : Str) : Option Finding :=
  let normalized := normalizeL33t P normalizedUnicode
  if normalized ≠ P.toLowercase normalizedUnicode ∧ 2 ≤ leetEvidenceScore normalizedUnicode then
    (firstRule injectionPatterns (P.isMatch · normalized)).map fun ruleId =>
      ⟨"L33T_OBFUSCATION", ruleId, .high, 0.88, "sentinel/encoding_anomaly"⟩
  else none

def base64Check (payload : Str) : Option Finding :=
  (tryDecodeBase64 P payload).bind fun decoded =>
    (firstRule injectionPatterns (P.isMatch · decoded)).map fun ruleId =>
      ⟨"BASE64_INJECTION", ruleId, .high, 0.92, "sentinel/encoding_anomaly"⟩

def blocklistCheck (payload : Str) : Option Finding :=
  (firstRule blocklistPatterns (P.isMatch · payload)).map fun ruleId =>
    ⟨"BLOCKLIST_MATCH", ruleId, .high, 0.90, "sentinel/blocklist"⟩

/-- The violation class of an injection rule. -/
def injectionClass (ruleId : Str) : Str :=
  if ruleId ∈ (["SENT-008", "SENT-008B", "SENT-008C", "SENT-012A", "SENT-012B", "SENT-012C"] :
    List Str) then "TOOL_MISUSE"
  else if ruleId ∈ (["SENT-009", "SENT-009B", "SENT-009C"] : List Str) then "AUTHORITY_SPOOFING"
  else if ruleId ∈ (["SENT-004", "SENT-004B", "SENT-010A", "SENT-010B"] : List Str) then
    "MODEL_EXTRACTION"
  else if ruleId ∈ (["SENT-015A", "SENT-015B", "SENT-015C"] : List Str) then "RECONNAISSANCE"
  else if ruleId ∈ (["SENT-011A", "SENT-011B", "SENT-011C"] : List Str) then
    "HYPOTHETICAL_JAILBREAK"
  else if ruleId ∈ (["SENT-013A", "SENT-013B"] : List Str) then "EXCEPTION_PERSUASION"
  else if ruleId ∈ (["SENT-CMD-001", "SENT-CMD-002", "SENT-CMD-003", "SENT-CMD-006",
    "SENT-CMD-007", "SENT-CMD-010"] : List Str) then "CMD_INJECTION"
  else if ruleId ∈ (["SENT-CMD-004", "SENT-CMD-008"] : List Str) then "AUTHORITY_SPOOFING"
  else if ruleId = ("SENT-CMD-005" : Str) then "TOOL_MISUSE"
  else if ruleId = ("SENT-CMD-009" : Str) then "MODEL_EXTRACTION"
  else "INJECTION_ATTEMPT"

def injectionCheck (payload normalizedUnicode : Str) : Option Finding :=
  (firstRule injectionPatterns fun p => P.isMatch p payload || P.isMatch p normalizedUnicode).map
    fun ruleId =>
      ⟨injectionClass ruleId, ruleId, .high, 0.88, "sentinel/injection_detection"⟩

def encodingCheck (payload : Str) : Option Finding :=
  (firstRule encodingPatterns (P.isMatch · payload)).map fun ruleId =>
    ⟨"ENCODING_ANOMALY", ruleId, .medium, 0.75, "sentinel/encoding_anomaly"⟩

/-- The first check of `inspect` that reports. -/
def finding (payload : Str) : Option Finding :=
  let normalizedUnicode := normalizeUnicode payload
  sizeCheck payload <|> zeroWidthCheck normalizedUnicode <|> homoglyphCheck normalizedUnicode <|>
    l33tCheck P normalizedUnicode <|> base64Check P payload <|> blocklistCheck P payload <|>
    injectionCheck P payload normalizedUnicode <|> encodingCheck P payload

/-- The signal of `inspect` before it is linked to the chain. -/
def inspectBuilder (payload : Str) (direction : Direction) (sessionId : Str) : SignalBuilder :=
  layerSignal .sentinel direction sessionId (computeHash P payload) (finding P payload)

def inspect (env : Supply) (crypto : CryptoEngine) (payload : Str) (direction : Direction)
    (sessionId : Str) : GovernanceSignal × CryptoEngine :=
  attachCrypto P env crypto (inspectBuilder P payload direction sessionId)

/-! ### Coverage -/

/-- A blocklist or injection rule matches the text. -/
def MatchesRule (payload : Str) : Prop :=
  ∃ rule ∈ blocklistPatterns ++ injectionPatterns, P.isMatch rule.2 payload = true

instance (payload : Str) : Decidable (MatchesRule P payload) :=
  inferInstanceAs (Decidable (∃ rule ∈ _, _))

/-- `HIGH` with a confidence of at least 0.85. -/
def Strong (f : Finding) : Prop := f.severity = .high ∧ 0.85 ≤ f.confidence

variable {P} {payload normalizedUnicode : Str}

lemma firstRule_isSome {rules : List (Str × Str)} {test : Str → Bool} :
    (firstRule rules test).isSome = true ↔ ∃ rule ∈ rules, test rule.2 = true := by
  simp [firstRule]

lemma sizeCheck_eq_none (h : utf8Len payload ≤ maxPayloadBytes) : sizeCheck payload = none :=
  if_neg (not_lt.mpr h)

/-- Normalisation strips every zero-width character, so the check after it never reports. -/
lemma zeroWidthCheck_normalizeUnicode : zeroWidthCheck (normalizeUnicode payload) = none := by
  refine if_neg fun h => ?_
  obtain ⟨c, hc, hzero⟩ := List.any_eq_true.mp h
  simp_all [normalizeUnicode]

lemma strong_homoglyphCheck {f : Finding} (h : homoglyphCheck normalizedUnicode = some f) :
    Strong f := by
  unfold homoglyphCheck at h
  split at h
  · cases h; exact ⟨rfl, le_rfl⟩
  · cases h

lemma strong_l33tCheck {f : Finding} (h : l33tCheck P normalizedUnicode = some f) : Strong f := by
  simp only [l33tCheck] at h
  split at h
  · obtain ⟨ruleId, -, rfl⟩ := Option.map_eq_some_iff.mp h
    exact ⟨rfl, by norm_num⟩
  · cases h

lemma strong_base64Check {f : Finding} (h : base64Check P payload = some f) : Strong f := by
  obtain ⟨decoded, -, hf⟩ := Option.bind_eq_some_iff.mp h
  obtain ⟨ruleId, -, rfl⟩ := Option.map_eq_some_iff.mp hf
  exact ⟨rfl, by norm_num⟩

lemma strong_blocklistCheck {f : Finding} (h : blocklistCheck P payload = some f) : Strong f := by
  obtain ⟨ruleId, -, rfl⟩ := Option.map_eq_some_iff.mp h
  exact ⟨rfl, by norm_num⟩

lemma strong_injectionCheck {f : Finding}
    (h : injectionCheck P payload normalizedUnicode = some f) : Strong f := by
  obtain ⟨ruleId, -, rfl⟩ := Option.map_eq_some_iff.mp h
  exact ⟨rfl, by norm_num⟩

variable (normalizedUnicode) in
/-- A text that a rule matches is reported by the blocklist or by the injection rules. -/
lemma exists_ruleFinding (h : MatchesRule P payload) :
    (blocklistCheck P payload).isSome = true ∨
      (injectionCheck P payload normalizedUnicode).isSome = true := by
  obtain ⟨rule, hmem, hmatch⟩ := h
  rcases List.mem_append.mp hmem with hb | hi
  · exact .inl (by simpa [blocklistCheck] using firstRule_isSome.mpr ⟨rule, hb, hmatch⟩)
  · exact .inr (by
      simpa [injectionCheck] using
        firstRule_isSome.mpr ⟨rule, hi, by simp [hmatch]⟩)

/-- A check that only reports strong findings does not hide a strong finding behind it. -/
lemma exists_strong_or {x y : Option Finding} (hx : ∀ f, x = some f → Strong f)
    (hy : ∃ f, y = some f ∧ Strong f) : ∃ f, x.or y = some f ∧ Strong f := by
  cases x with
  | none => simpa using hy
  | some f => exact ⟨f, by simp, hx f rfl⟩

/-- **Coverage.** Within the size limit, what a rule matches is reported as strong. -/
theorem strong_finding (hsize : utf8Len payload ≤ maxPayloadBytes) (h : MatchesRule P payload) :
    ∃ f, finding P payload = some f ∧ Strong f := by
  simp only [finding, sizeCheck_eq_none hsize, zeroWidthCheck_normalizeUnicode,
    Option.orElse_eq_orElse, Option.orElse_eq_or, Option.none_or]
  refine exists_strong_or (fun _ => strong_homoglyphCheck) ?_
  refine exists_strong_or (fun _ => strong_l33tCheck) ?_
  refine exists_strong_or (fun _ => strong_base64Check) ?_
  rcases exists_ruleFinding (normalizeUnicode payload) h with hb | hi
  · obtain ⟨f, hf⟩ := Option.isSome_iff_exists.mp hb
    exact ⟨f, by rw [hf, Option.some_or], strong_blocklistCheck hf⟩
  · refine exists_strong_or (fun _ => strong_blocklistCheck) ?_
    obtain ⟨f, hf⟩ := Option.isSome_iff_exists.mp hi
    exact ⟨f, by rw [hf, Option.some_or], strong_injectionCheck hf⟩

/-- A payload over the size limit is reported as `LOW`, whatever it holds. -/
theorem finding_oversized (h : maxPayloadBytes < utf8Len payload) :
    finding P payload =
      some ⟨"SIZE_EXCEEDED", "SENT-SIZE-001", .low, 0.70, "sentinel/size_limit"⟩ := by
  have hsize : sizeCheck payload = some _ := if_pos h
  simp only [finding, hsize, Option.orElse_eq_orElse, Option.orElse_eq_or, Option.some_or]

/-! ### The signals -/

/-- The severities that Sentinel reports. -/
lemma finding_severity : ∀ f, finding P payload = some f →
    f.severity = .low ∨ f.severity = .medium ∨ f.severity = .high := by
  simp only [finding, zeroWidthCheck_normalizeUnicode, Option.orElse_eq_orElse,
    Option.orElse_eq_or, Option.none_or]
  refine Finding.of_or (fun f h => .inl ?_) ?_
  · unfold sizeCheck at h
    split at h <;> cases h
    rfl
  refine Finding.of_or (fun f h => .inr (.inr (strong_homoglyphCheck h).1)) ?_
  refine Finding.of_or (fun f h => .inr (.inr (strong_l33tCheck h).1)) ?_
  refine Finding.of_or (fun f h => .inr (.inr (strong_base64Check h).1)) ?_
  refine Finding.of_or (fun f h => .inr (.inr (strong_blocklistCheck h).1)) ?_
  refine Finding.of_or (fun f h => .inr (.inr (strong_injectionCheck h).1)) (fun f h => ?_)
  obtain ⟨ruleId, -, rfl⟩ := Option.map_eq_some_iff.mp h
  exact .inr (.inl rfl)

/-- Sentinel reports nothing as `CRITICAL`. -/
lemma finding_severity_le : ∀ f, finding P payload = some f → f.severity ≤ .high := by
  intro f hf
  rcases finding_severity f hf with h | h | h <;> rw [h] <;> decide

lemma finding_severity_ne_none : ∀ f, finding P payload = some f → f.severity ≠ .none := by
  intro f hf
  rcases finding_severity f hf with h | h | h <;> rw [h] <;> decide

variable {env : Supply} {crypto : CryptoEngine} {direction : Direction} {sessionId : Str}

/-- `HIGH` with a confidence of at least 0.85, as a signal. -/
def Alarms (s : GovernanceSignal) : Prop := s.severity = .high ∧ 0.85 ≤ s.confidence

variable (P env crypto payload direction sessionId) in
lemma inspect_severity_le :
    (inspect P env crypto payload direction sessionId).1.severity ≤ .high := by
  cases hf : finding P payload with
  | none =>
    simp only [inspect, inspectBuilder, hf, layerSignal, attachCrypto_severity,
      cleanSignal_severity]
    decide
  | some f =>
    simp only [inspect, inspectBuilder, hf, layerSignal, attachCrypto_severity,
      violationSignal_severity]
    exact finding_severity_le f hf

/-- Within the size limit, a matched text is signalled as an alarm. -/
lemma inspect_alarms (hsize : utf8Len payload ≤ maxPayloadBytes) (h : MatchesRule P payload) :
    Alarms (inspect P env crypto payload direction sessionId).1 := by
  obtain ⟨f, hf, hsev, hconf⟩ := strong_finding hsize h
  simp only [Alarms, inspect, inspectBuilder, hf, layerSignal, attachCrypto_severity,
    attachCrypto_confidence, violationSignal_severity, violationSignal_confidence]
  exact ⟨hsev, le_max_of_le_right (le_min (by norm_num) hconf)⟩

end GovSec.Sentinel
