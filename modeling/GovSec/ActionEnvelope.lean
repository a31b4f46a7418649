import GovSec.Json

/-!
The action envelope: one proposed tool call, bound to its exact bytes by a hash, and the
strict baseline classification of it.
-/

namespace GovSec

open GovSec.Lib.Text

def actionEnvelopeSchemaVersion : Str := "logos.action.v1"

structure ActionResource where
  kind : Str
  locator : Str
  deriving DecidableEq

structure ActionEnvelope where
  schemaVersion : Str
  toolName : Str
  arguments : Value
  resource : ActionResource
  principalId : Str
  sessionId : Str
  runId : Str
  toolCallId : Str
  policyVersion : Str
  policyHash : Str
  contextHash : Str
  actionHash : Str

/-! ### Classes and decisions -/

inductive KnownTool
  | read
  | write
  | edit
  | applyPatch
  | exec
  | bash
  | browser
  | heartbeat
  | unknown
  deriving DecidableEq

def KnownTool.fromName (name : Str) : KnownTool :=
  if name = "read" ∨ name = "read_file" then read
  else if name = "write" ∨ name = "write_file" then write
  else if name = "edit" then edit
  else if name = "apply_patch" then applyPatch
  else if name = "exec" then exec
  else if name = "bash" then bash
  else if name = "browser" then browser
  else if name = "heartbeat_respond" then heartbeat
  else unknown

inductive ActionDisposition
  | allow
  | requireAuthorization
  | deny
  deriving DecidableEq

inductive ActionRiskClass
  | unknownTool
  | pathTraversal
  | credentialAccess
  | protectedResourceMutation
  | destructiveShell
  | privilegeEscalation
  | remoteCodeExecution
  | browserScriptExecution
  | filesystemMutation
  | shellExecution
  | externalInteraction
  | controlSchemaViolation
  | controlAction
  deriving DecidableEq

def ActionRiskClass.isDenyClass : ActionRiskClass → Bool
  | unknownTool => true
  | pathTraversal => true
  | credentialAccess => true
  | protectedResourceMutation => true
  | destructiveShell => true
  | privilegeEscalation => true
  | remoteCodeExecution => true
  | browserScriptExecution => true
  | controlSchemaViolation => true
  | filesystemMutation => false
  | shellExecution => false
  | externalInteraction => false
  | controlAction => false

structure ActionPolicyDecision where
  disposition : ActionDisposition
  riskClasses : List ActionRiskClass
  deriving DecidableEq

namespace ActionPolicyDecision

def allowed : ActionPolicyDecision := ⟨.allow, []⟩
def requiresAuthorization (riskClasses : List ActionRiskClass) : ActionPolicyDecision :=
  ⟨.requireAuthorization, riskClasses⟩
def denied (riskClasses : List ActionRiskClass) : ActionPolicyDecision := ⟨.deny, riskClasses⟩

end ActionPolicyDecision

/-! ### Risk predicates on the searchable text -/

def normalizeSlashes (value : Str) : Str := replaceChar '\\' '/' value

def dotDot : Str := ".."

def containsPathTraversal (locator : Str) : Bool :=
  (split '/' (normalizeSlashes locator)).any (· = dotDot)

def credentialPatterns : List Str :=
  ["/etc/shadow", ".ssh/", "id_rsa", "id_ed25519", ".aws/credentials",
    ".config/gcloud/credentials", "keychain"]

def referencesCredentials (value : Str) : Bool := containsAny value credentialPatterns

def protectedPrefixes : List Str :=
  ["/bin/", "/boot/", "/dev/", "/etc/", "/proc/", "/root/", "/sbin/", "/sys/", "/usr/"]

def protectedTokens : List Str :=
  ["/", "/bin", "/boot", "/dev", "/etc", "/proc", "/root", "/sbin", "/sys", "/usr"]

def referencesProtectedWriteResource (value : Str) : Bool :=
  let normalized := normalizeSlashes value
  containsAny normalized protectedPrefixes || (words normalized).any (protectedTokens.contains ·)

def destructivePatterns : List Str :=
  ["rm -rf", "rm -fr", "mkfs", "wipefs", "dd if=", "shutdown", "reboot", ":()\x7b:|:&\x7d;:"]

def containsDestructiveShell (value : Str) : Bool := containsAny value destructivePatterns

def containsPrivilegeEscalation (value : Str) : Bool :=
  containsAny value ["sudo ", "su -c", "chmod 777", "chmod -r 777", "chown -r"]

def containsRemoteCodeExecution (value : Str) : Bool :=
  let downloads := contains value "curl " || contains value "wget "
  let pipedShell := contains value "| sh" || contains value "| bash"
  (downloads && pipedShell) || contains value "eval $(" || contains value "eval \"$("

def containsBrowserScriptExecution (value : Str) : Bool :=
  contains value "javascript:" || contains value "evaluate_script" ||
    contains value "execute_script"

/-! ### The heartbeat schema -/

def heartbeatAllowedKeys : List Str :=
  ["outcome", "notify", "summary", "notificationText", "reason", "priority", "nextCheck", "scratch"]
def heartbeatRequiredKeys : List Str := ["outcome", "notify", "summary"]
def heartbeatOutcomes : List Str := ["no_change", "progress", "done", "blocked", "needs_attention"]
def heartbeatPriorities : List Str := ["low", "normal", "high"]
def maxHeartbeatTextBytes : ℕ := 4096
def maxHeartbeatScratchBytes : ℕ := 262144

/-- A string value that passes `p`. -/
def isStringWith (p : Str → Bool) : Option Value → Bool
  | some (.string s) => p s
  | _ => false

/-- An absent value, or a string value that passes `p`. -/
def isAbsentOrStringWith (p : Str → Bool) : Option Value → Bool
  | none => true
  | some v => isStringWith p (some v)

def validateHeartbeatSchema : Value → Bool
  | .object map =>
    map.all (fun e => heartbeatAllowedKeys.contains e.1) &&
    heartbeatRequiredKeys.all (fun key => (Value.getEntry map key).isSome) &&
    isStringWith (heartbeatOutcomes.contains ·) (Value.getEntry map "outcome") &&
    (match Value.getEntry map "notify" with
      | some (.bool _) => true
      | _ => false) &&
    isStringWith (fun s => trim s ≠ [] && utf8Len s ≤ maxHeartbeatTextBytes)
      (Value.getEntry map "summary") &&
    ["notificationText", "reason", "nextCheck"].all (fun key : String =>
      isAbsentOrStringWith (utf8Len · ≤ maxHeartbeatTextBytes) (Value.getEntry map key)) &&
    isAbsentOrStringWith (heartbeatPriorities.contains ·) (Value.getEntry map "priority") &&
    isAbsentOrStringWith (utf8Len · ≤ maxHeartbeatScratchBytes) (Value.getEntry map "scratch")
  | _ => false

/-! ### The envelope -/

namespace ActionEnvelope

variable (P : Platform)

def hashMaterial (e : ActionEnvelope) : Value :=
  .object
    [("schema_version", .string e.schemaVersion),
      ("tool_name", .string e.toolName),
      ("arguments", e.arguments),
      ("resource", .object
        [("kind", .string e.resource.kind), ("locator", .string e.resource.locator)]),
      ("principal_id", .string e.principalId),
      ("session_id", .string e.sessionId),
      ("run_id", .string e.runId),
      ("tool_call_id", .string e.toolCallId),
      ("policy_version", .string e.policyVersion),
      ("policy_hash", .string e.policyHash),
      ("context_hash", .string e.contextHash)]

def computeHash (e : ActionEnvelope) : Except EnvelopeError Str :=
  Value.hashCanonical P e.hashMaterial

def validateMaterial (e : ActionEnvelope) : Except EnvelopeError Unit := do
  failIf (e.schemaVersion ≠ actionEnvelopeSchemaVersion) (.invalidField "schema_version")
  validateToolName e.toolName
  validateIdentifier "resource.kind" e.resource.kind maxResourceKindBytes
  validateIdentifier "resource.locator" e.resource.locator maxResourceLocatorBytes
  validateIdentifier "principal_id" e.principalId maxIdentifierBytes
  validateIdentifier "session_id" e.sessionId maxIdentifierBytes
  validateIdentifier "run_id" e.runId maxIdentifierBytes
  validateIdentifier "tool_call_id" e.toolCallId maxIdentifierBytes
  validateIdentifier "policy_version" e.policyVersion maxPolicyVersionBytes
  validateSha256 "policy_hash" e.policyHash
  validateSha256 "context_hash" e.contextHash
  Value.validateJsonLimits e.arguments 0
  let canonicalArguments ← Value.canonicalJson P e.arguments
  failIf (maxActionArgumentBytes < utf8Len canonicalArguments) (.limitExceeded "arguments")

/-- `seal`: validate the material and set the hash. -/
def «seal» (e : ActionEnvelope) : Except EnvelopeError ActionEnvelope := do
  validateMaterial P e
  let actionHash ← computeHash P e
  pure { e with actionHash }

def verify (e : ActionEnvelope) : Except EnvelopeError Unit := do
  validateMaterial P e
  validateSha256 "action_hash" e.actionHash
  let actionHash ← computeHash P e
  failIf (actionHash ≠ e.actionHash) (.hashMismatch "action_hash")

/-- The text that is searched: the locator and every string and key of the arguments, in
lower case. -/
def searchable (e : ActionEnvelope) : Str :=
  Value.collectJsonStrings P e.arguments (P.toLowercase e.resource.locator)

/-- The tests for a deny class in order, each with the class it adds. -/
def denyTests (tool : KnownTool) (arguments : Value) (searchable : Str) :
    List (Bool × ActionRiskClass) :=
  let writes := tool = .write ∨ tool = .edit ∨ tool = .applyPatch
  let shell := tool = .exec ∨ tool = .bash ∨ tool = .heartbeat
  [(containsPathTraversal searchable, .pathTraversal),
    (referencesCredentials searchable, .credentialAccess),
    (writes && referencesProtectedWriteResource searchable, .protectedResourceMutation),
    (shell && containsDestructiveShell searchable, .destructiveShell),
    (shell && containsPrivilegeEscalation searchable, .privilegeEscalation),
    (shell && containsRemoteCodeExecution searchable, .remoteCodeExecution),
    (tool = .browser && containsBrowserScriptExecution searchable, .browserScriptExecution),
    (tool = .heartbeat && !validateHeartbeatSchema arguments, .controlSchemaViolation)]

def deniedRisks (tool : KnownTool) (arguments : Value) (searchable : Str) :
    List ActionRiskClass :=
  ((denyTests tool arguments searchable).filter (·.1)).map (·.2)

/-- `deduplicate_risks`: the first of equal entries stays. -/
def deduplicateRisks (risks : List ActionRiskClass) : List ActionRiskClass := risks.eraseDups

def evaluateStrict (e : ActionEnvelope) : Except EnvelopeError ActionPolicyDecision := do
  verify P e
  let tool := KnownTool.fromName e.toolName
  if tool = .unknown then
    pure (.denied [.unknownTool])
  else
    let risks := deduplicateRisks (deniedRisks tool e.arguments (searchable P e))
    if risks.any ActionRiskClass.isDenyClass then
      pure (.denied risks)
    else
      match tool with
      | .read => pure .allowed
      | .write | .edit | .applyPatch =>
        pure (.requiresAuthorization (risks ++ [.filesystemMutation]))
      | .exec | .bash => pure (.requiresAuthorization (risks ++ [.shellExecution]))
      | .browser => pure (.requiresAuthorization (risks ++ [.externalInteraction]))
      | .heartbeat => pure (.requiresAuthorization (risks ++ [.controlAction]))
      -- an unknown tool was answered above
      | .unknown => pure (.denied [.unknownTool])

variable {P} {e e₀ : ActionEnvelope}

lemma validateSha256_of_computeHash {field h : Str} (hh : computeHash P e = .ok h) :
    validateSha256 field h = .ok () := by
  obtain ⟨t, -, ht⟩ := bind_eq_ok.mp hh
  obtain rfl : GovSec.computeHash P t = h := by simpa using ht
  exact validateSha256_computeHash P field t

/-- Sealing sets the hash only. -/
lemma eq_of_seal (h : «seal» P e₀ = .ok e) : ∃ actionHash, e = { e₀ with actionHash } := by
  obtain ⟨_, -, hh⟩ := bind_eq_ok.mp h
  obtain ⟨hash, -, he⟩ := bind_eq_ok.mp hh
  exact ⟨hash, (pure_eq_ok.mp he).symm⟩

/-- **A sealed envelope verifies.** -/
theorem verify_of_seal (h : «seal» P e₀ = .ok e) : verify P e = .ok () := by
  obtain ⟨_, hv, hh⟩ := bind_eq_ok.mp h
  obtain ⟨hash, hhash, he⟩ := bind_eq_ok.mp hh
  obtain rfl : { e₀ with actionHash := hash } = e := by simpa using he
  have hd : validateSha256 "action_hash" hash = .ok () := validateSha256_of_computeHash hhash
  refine bind_eq_ok.mpr ⟨(), hv, bind_eq_ok.mpr ⟨(), hd, bind_eq_ok.mpr ⟨hash, hhash, ?_⟩⟩⟩
  rw [failIf_eq_ok]
  simp

/-! ### What the classification decides -/

lemma mem_deniedRisks {tool : KnownTool} {arguments : Value} {t : Str} {r : ActionRiskClass} :
    r ∈ deniedRisks tool arguments t ↔ (true, r) ∈ denyTests tool arguments t := by
  simp [deniedRisks]

lemma isDenyClass_of_mem_deniedRisks {tool : KnownTool} {arguments : Value} {t : Str}
    {r : ActionRiskClass} (h : r ∈ deniedRisks tool arguments t) : r.isDenyClass = true := by
  have hr : r ∈ (denyTests tool arguments t).map (·.2) :=
    List.mem_map_of_mem (mem_deniedRisks.mp h)
  simp only [denyTests, List.map_cons, List.map_nil] at hr
  revert hr
  cases r <;> simp [ActionRiskClass.isDenyClass]

lemma mem_deduplicateRisks {r : ActionRiskClass} {risks : List ActionRiskClass} :
    r ∈ deduplicateRisks risks ↔ r ∈ risks := List.mem_eraseDups

/-- The envelope of a known tool is denied, with the risks found in its searchable text,
exactly when there are any. -/
lemma evaluateStrict_of_known (hv : verify P e = .ok ())
    (ht : KnownTool.fromName e.toolName ≠ .unknown) :
    let risks := deniedRisks (KnownTool.fromName e.toolName) e.arguments (searchable P e)
    (risks ≠ [] → evaluateStrict P e = .ok (.denied (deduplicateRisks risks))) ∧
    (risks = [] → ∃ d, evaluateStrict P e = .ok d ∧ d.disposition ≠ .deny) := by
  intro risks
  constructor
  · intro hne
    obtain ⟨r, hr⟩ := List.exists_mem_of_ne_nil _ hne
    have hany : (deduplicateRisks risks).any ActionRiskClass.isDenyClass = true :=
      List.any_eq_true.mpr ⟨r, mem_deduplicateRisks.mpr hr, isDenyClass_of_mem_deniedRisks hr⟩
    simp only [evaluateStrict, hv, ht, if_false]
    rw [if_pos hany]
    rfl
  · intro hnil
    simp only [evaluateStrict, hv, ht, if_false]
    change deniedRisks _ _ _ = [] at hnil
    rw [hnil]
    cases htool : KnownTool.fromName e.toolName <;>
      first | exact absurd htool ht | exact ⟨_, rfl, by simp [ActionPolicyDecision.allowed,
        ActionPolicyDecision.requiresAuthorization]⟩

end ActionEnvelope

end GovSec
