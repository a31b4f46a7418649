import GovSec.Json

/-!
The model-context envelope: the ordered, source-labelled segments of one model run, bound to
their exact bytes by a hash.
-/

namespace GovSec

open GovSec.Lib.Text

def modelContextSchemaVersion : Str := "logos.model-context.v1"

inductive ContextRole
  | system
  | user
  | assistant
  | toolResult
  deriving DecidableEq

def ContextRole.name : ContextRole → Str
  | system => "system"
  | user => "user"
  | assistant => "assistant"
  | toolResult => "tool_result"

inductive ContextSource
  | externalUser
  | conversationHistory
  | toolResult
  | attachment
  | hookInjection
  | runtimeInjection
  | compactionSummary
  deriving DecidableEq

namespace ContextSource

def name : ContextSource → Str
  | externalUser => "external_user"
  | conversationHistory => "conversation_history"
  | toolResult => "tool_result"
  | attachment => "attachment"
  | hookInjection => "hook_injection"
  | runtimeInjection => "runtime_injection"
  | compactionSummary => "compaction_summary"

def requiresContentInspection : ContextSource → Bool
  | externalUser => true
  | conversationHistory => true
  | toolResult => true
  | attachment => true
  | hookInjection => true
  | runtimeInjection => true
  | compactionSummary => true

@[simp] lemma requiresContentInspection_eq (s : ContextSource) :
    s.requiresContentInspection = true := by cases s <;> rfl

end ContextSource

structure ContextSegment where
  ordinal : ℕ
  role : ContextRole
  source : ContextSource
  content : Str
  toolName : Option Str
  attachmentId : Option Str
  deriving DecidableEq

structure ContextAttachment where
  attachmentId : Str
  mediaType : Str
  byteLength : ℕ
  sha256 : Str
  deriving DecidableEq

structure ModelContextEnvelope where
  schemaVersion : Str
  sessionId : Str
  runId : Str
  principalId : Str
  providerId : Str
  modelId : Str
  policyVersion : Str
  policyHash : Str
  providerContextHash : Str
  systemPromptHash : Str
  toolSchemaHash : Str
  workspaceManifestHash : Str
  segments : List ContextSegment
  attachments : List ContextAttachment
  contextHash : Str
  deriving DecidableEq

namespace ContextSegment

def invalid (s : ContextSegment) (reason : Str) : EnvelopeError :=
  .invalidContextSegment s.ordinal reason

/-- `validate_segment`. -/
def validate (s : ContextSegment) (attachmentIds : List Str) : Except EnvelopeError Unit := do
  failIf (trim s.content = [] ∧ s.source ≠ .attachment) (s.invalid "content is required")
  match s.source with
  | .externalUser =>
    failIf (s.role ≠ .user) (s.invalid "external_user source requires user role")
  | .toolResult =>
    failIf (s.role ≠ .toolResult) (s.invalid "tool_result source requires tool_result role")
    match s.toolName with
    | none => .error (s.invalid "tool_result source requires tool_name")
    | some toolName =>
      failIf (validateToolName toolName ≠ .ok ()) (s.invalid "invalid tool_name")
  | .attachment =>
    match s.attachmentId with
    | none => .error (s.invalid "attachment source requires attachment_id")
    | some attachmentId =>
      failIf (attachmentId ∉ attachmentIds) (.unknownAttachmentId attachmentId)
  | _ => .ok ()
  failIf (s.source ≠ .toolResult ∧ s.toolName.isSome)
    (s.invalid "tool_name is only valid for tool_result source")
  failIf (s.source ≠ .attachment ∧ s.attachmentId.isSome)
    (s.invalid "attachment_id is only valid for attachment source")

/-- `insert_optional_string`: the entry of an optional field. -/
def optionalString (key : Str) (value : Option Str) : List (Str × Value) :=
  match value with
  | some v => [(key, .string v)]
  | none => []

def material (s : ContextSegment) : Value :=
  let required : List (Str × Value) :=
    [("ordinal", .number (.int s.ordinal)), ("role", .string s.role.name),
      ("source", .string s.source.name), ("content", .string s.content)]
  .object (required ++ optionalString "tool_name" s.toolName ++
    optionalString "attachment_id" s.attachmentId)

end ContextSegment

namespace ContextAttachment

def validate (a : ContextAttachment) : Except EnvelopeError Unit := do
  validateIdentifier "attachment_id" a.attachmentId maxIdentifierBytes
  validateIdentifier "media_type" a.mediaType maxMediaTypeBytes
  validateSha256 "attachment.sha256" a.sha256

def material (a : ContextAttachment) : Value :=
  .object
    [("attachment_id", .string a.attachmentId), ("media_type", .string a.mediaType),
      ("byte_length", .number (.int a.byteLength)), ("sha256", .string a.sha256)]

end ContextAttachment

namespace ModelContextEnvelope

variable (P : Platform)

def hashMaterial (e : ModelContextEnvelope) : Value :=
  .object
    [("schema_version", .string e.schemaVersion),
      ("session_id", .string e.sessionId),
      ("run_id", .string e.runId),
      ("principal_id", .string e.principalId),
      ("provider_id", .string e.providerId),
      ("model_id", .string e.modelId),
      ("policy_version", .string e.policyVersion),
      ("policy_hash", .string e.policyHash),
      ("provider_context_hash", .string e.providerContextHash),
      ("system_prompt_hash", .string e.systemPromptHash),
      ("tool_schema_hash", .string e.toolSchemaHash),
      ("workspace_manifest_hash", .string e.workspaceManifestHash),
      ("segments", .array (e.segments.map ContextSegment.material)),
      ("attachments", .array (e.attachments.map ContextAttachment.material))]

def computeHash (e : ModelContextEnvelope) : Except EnvelopeError Str :=
  Value.hashCanonical P e.hashMaterial

/-- The attachment ids, each checked and new. -/
def validateAttachments : List ContextAttachment → List Str → Except EnvelopeError (List Str)
  | [], seen => .ok seen
  | a :: rest, seen => do
    a.validate
    failIf (a.attachmentId ∈ seen) (.duplicateAttachmentId a.attachmentId)
    validateAttachments rest (a.attachmentId :: seen)

/-- The segments from position `index`, after `total` bytes of content. -/
def validateSegments (attachmentIds : List Str) :
    List ContextSegment → ℕ → ℕ → Except EnvelopeError Unit
  | [], _, _ => .ok ()
  | s :: rest, index, total => do
    failIf (s.ordinal ≠ index) (s.invalid "ordinal must equal its zero-based vector position")
    failIf (maxContextSegmentBytes < utf8Len s.content) (.limitExceeded "segment.content")
    let total := total + utf8Len s.content
    failIf (maxContextContentBytes < total) (.limitExceeded "context content")
    s.validate attachmentIds
    validateSegments attachmentIds rest (index + 1) total

def validateMaterial (e : ModelContextEnvelope) : Except EnvelopeError Unit := do
  failIf (e.schemaVersion ≠ modelContextSchemaVersion) (.invalidField "schema_version")
  validateIdentifier "session_id" e.sessionId maxIdentifierBytes
  validateIdentifier "run_id" e.runId maxIdentifierBytes
  validateIdentifier "principal_id" e.principalId maxIdentifierBytes
  validateIdentifier "provider_id" e.providerId maxIdentifierBytes
  validateIdentifier "model_id" e.modelId maxIdentifierBytes
  validateIdentifier "policy_version" e.policyVersion maxPolicyVersionBytes
  validateSha256 "policy_hash" e.policyHash
  validateSha256 "provider_context_hash" e.providerContextHash
  validateSha256 "system_prompt_hash" e.systemPromptHash
  validateSha256 "tool_schema_hash" e.toolSchemaHash
  validateSha256 "workspace_manifest_hash" e.workspaceManifestHash
  failIf (e.segments = []) (.missingField "segments")
  failIf (maxContextSegments < e.segments.length) (.limitExceeded "segments")
  failIf (maxAttachments < e.attachments.length) (.limitExceeded "attachments")
  let attachmentIds ← validateAttachments e.attachments []
  validateSegments attachmentIds e.segments 0 0

/-- `seal`: validate the material and set the hash. -/
def «seal» (e : ModelContextEnvelope) : Except EnvelopeError ModelContextEnvelope := do
  validateMaterial e
  let contextHash ← computeHash P e
  pure { e with contextHash }

def verify (e : ModelContextEnvelope) : Except EnvelopeError Unit := do
  validateMaterial e
  validateSha256 "context_hash" e.contextHash
  let contextHash ← computeHash P e
  failIf (contextHash ≠ e.contextHash) (.hashMismatch "context_hash")

def segmentsRequiringInspection (e : ModelContextEnvelope) : List ContextSegment :=
  e.segments.filter (·.source.requiresContentInspection)

@[simp] lemma segmentsRequiringInspection_eq (e : ModelContextEnvelope) :
    e.segmentsRequiringInspection = e.segments := by
  simp [segmentsRequiringInspection]

variable {P} {e e₀ : ModelContextEnvelope}

/-- **A sealed envelope verifies.** -/
theorem verify_of_seal (h : «seal» P e₀ = .ok e) : verify P e = .ok () := by
  obtain ⟨_, hv, hh⟩ := bind_eq_ok.mp h
  obtain ⟨hash, hhash, he⟩ := bind_eq_ok.mp hh
  obtain rfl : { e₀ with contextHash := hash } = e := by simpa using he
  obtain ⟨t, -, ht⟩ := bind_eq_ok.mp hhash
  obtain rfl : GovSec.computeHash P t = hash := by simpa using ht
  have hd := validateSha256_computeHash P "context_hash" t
  refine bind_eq_ok.mpr ⟨(), hv, bind_eq_ok.mpr ⟨(), hd, bind_eq_ok.mpr ⟨_, hhash, ?_⟩⟩⟩
  rw [failIf_eq_ok]
  simp

lemma validateSegments_content {ids : List Str} {segments : List ContextSegment} {index total : ℕ}
    (h : validateSegments ids segments index total = .ok ()) :
    ∀ s ∈ segments, utf8Len s.content ≤ maxContextSegmentBytes ∧ s.validate ids = .ok () := by
  induction segments generalizing index total with
  | nil => simp
  | cons s rest ih =>
    simp only [validateSegments, bind_eq_ok, failIf_eq_ok] at h
    obtain ⟨-, -, -, hlen, -, -, u, hs, hrest⟩ := h
    intro s' hs'
    rcases List.mem_cons.mp hs' with rfl | hs'
    · exact ⟨not_lt.mp hlen, hs⟩
    · exact ih hrest s' hs'

/-- What a verified envelope guarantees: segments, each within the limits and valid. -/
theorem segments_of_verify (h : verify P e = .ok ()) :
    e.segments ≠ [] ∧ ∀ s ∈ e.segments, utf8Len s.content ≤ maxContextSegmentBytes := by
  obtain ⟨_, hm, -⟩ := bind_eq_ok.mp h
  simp only [validateMaterial, bind_eq_ok, failIf_eq_ok] at hm
  obtain ⟨-, -, -, -, -, -, -, -, -, -, -, -, -, -, -, -, -, -, -, -, -, -, -, -, hm⟩ := hm
  obtain ⟨-, hne, -, -, -, -, ids, -, hs⟩ := hm
  exact ⟨hne, fun s hmem => (validateSegments_content hs s hmem).1⟩

/-- The context hash of a verified envelope has the form of a hash. -/
lemma isSha256Hex_of_verify (h : verify P e = .ok ()) : isSha256Hex e.contextHash = true := by
  unfold verify at h
  simp only [bind_eq_ok] at h
  obtain ⟨_, -, _, hhash, -⟩ := h
  exact isSha256Hex_of_validate hhash

end ModelContextEnvelope

end GovSec
