import GovSec.Corridor
import GovSec.SerdeJson
import GovSec.Lib.KeyedLists

/-!
The seal of a constitution: a hash of its serialisation, in which the tool permissions stand in
the iteration order of their map.

A document that is read back has a map of its own, with an order of its own. Its integrity is
checked against the serialisation in that order, so a sealed document survives a round trip
exactly when no other order changes the hash.
-/

namespace GovSec

open GovSec.Lib.Text GovSec.Lib.JsonText GovSec.Lib.KeyedLists GovSec.SerdeJson

/-! ### Maps -/

/-- A `HashMap<String, String>`: its entries in iteration order. -/
@[ext] structure StringMap where
  entries : List (Str × Str)
  nodup : (keys entries).Nodup

/-- The iteration order of a new map, which its random keys decide. -/
structure RandomState where
  arrange : List (Str × Str) → List (Str × Str)
  perm : ∀ es, (arrange es).Perm es

namespace RandomState

/-- The order of insertion, and its reverse. -/
def inserted : RandomState := ⟨fun es => es, fun es => .refl es⟩
def reversed : RandomState := ⟨List.reverse, List.reverse_perm⟩

end RandomState

namespace StringMap

variable (s : RandomState)

/-- The same map in a new order. -/
def rearrange (m : StringMap) : StringMap where
  entries := s.arrange m.entries
  nodup := ((s.perm m.entries).map Prod.fst).nodup_iff.mpr m.nodup

/-- The map of some insertions, the last of each key. -/
def collect (es : List (Str × Str)) : StringMap :=
  rearrange s ⟨es.foldl put [], keys_foldl_put_nodup (by simp [keys]) es⟩

lemma collect_entries (m : StringMap) : collect s m.entries = m.rearrange s := by
  have hput : m.entries.foldl put [] = m.entries := foldl_put_of_nodup m.nodup
  simp only [collect, hput]

@[simp] lemma rearrange_inserted (m : StringMap) : m.rearrange .inserted = m := rfl

/-- A map of one entry has one order. -/
lemma rearrange_of_length_le_one {m : StringMap} (h : m.entries.length ≤ 1) :
    m.rearrange s = m := by
  have hperm := s.perm m.entries
  refine StringMap.ext ?_
  change s.arrange m.entries = m.entries
  rcases hes : m.entries with _ | ⟨e, _ | ⟨f, es⟩⟩
  · rw [hes] at hperm
    exact hperm.eq_nil
  · rw [hes] at hperm
    exact List.perm_singleton.mp hperm
  · simp [hes] at h

/-- A map of two entries or more has another order. -/
lemma rearrange_reversed_ne {m : StringMap} (h : 1 < m.entries.length) :
    m.rearrange .reversed ≠ m := by
  intro heq
  have hrev : m.entries.reverse = m.entries := congrArg entries heq
  have hnodup : m.entries.Nodup := m.nodup.of_map
  rcases hes : m.entries with _ | ⟨e, _ | ⟨f, es⟩⟩
  · simp [hes] at h
  · simp [hes] at h
  · rw [hes] at hrev hnodup
    -- the first entry would be the last
    have hlast : (e :: f :: es).getLast? = some e := by
      rw [← List.head?_reverse, hrev]
      rfl
    have hmem : e ∈ f :: es := List.mem_of_getLast? (by simpa using hlast)
    exact (List.nodup_cons.mp hnodup).1 hmem

end StringMap

/-! ### The document -/

structure ToolPermissions where
  permissions : StringMap

/-- Thresholds are `f32`, by their bits. -/
structure EscalationThresholds where
  low : BitVec 32
  medium : BitVec 32
  high : BitVec 32
  critical : BitVec 32

/-- The exponent is not all ones. -/
def isFinite (f : BitVec 32) : Bool := f.toNat / 2 ^ 23 % 2 ^ 8 ≠ 2 ^ 8 - 1

namespace EscalationThresholds

def values (t : EscalationThresholds) : List (BitVec 32) := [t.low, t.medium, t.high, t.critical]

/-- 0.4, 0.6, 0.75 and 0.9. -/
def default : EscalationThresholds := ⟨0x3ECCCCCD, 0x3F19999A, 0x3F400000, 0x3F666666⟩

end EscalationThresholds

/-- The whole document, of which the evaluator reads a part. -/
structure ConstitutionDocument extends Constitution where
  constitutionId : Str
  clientId : Str
  industryProfile : Str
  effectiveAt : DateTime
  expiresAt : Option DateTime
  noCompetitorPromotion : Bool
  toolPermissions : ToolPermissions
  escalationThresholds : EscalationThresholds
  maxResponseScope : Option Str
  constitutionalHash : Option Str

inductive ConstitutionError
  | parseError
  | hashMismatch
  | regexError
  deriving DecidableEq

/-- How `serde_json` writes and reads finite floats, and `chrono` instants. -/
structure Formats where
  floatText : BitVec 32 → Str
  readFloat : Str → Option (BitVec 32)
  timeText : DateTime → Str
  readTime : Str → Option DateTime

namespace Formats

variable (F : Formats)

/-- A float that is not finite is written as `null`. -/
def writeF32 (f : BitVec 32) : JsonTree := if isFinite f then .number (F.floatText f) else .null

def readF32 : JsonTree → Option (BitVec 32)
  | .number raw => F.readFloat raw
  | _ => none

def writeInstant (t : DateTime) : JsonTree := .string (F.timeText t)

def readInstant : JsonTree → Option DateTime
  | .string t => F.readTime t
  | _ => none

end Formats

/-- `ToneConstraints`, with the rule that no evaluation consults. -/
def toneNames : List Str :=
  ["no_political_bias", "no_religious_endorsement", "no_competitor_promotion"]

def toneTree (t : ToneConstraints) (noCompetitorPromotion : Bool) : JsonTree :=
  structTree toneNames
    [.bool t.noPoliticalBias, .bool t.noReligiousEndorsement, .bool noCompetitorPromotion]

def readTone (j : JsonTree) : Option (ToneConstraints × Bool) :=
  match structFields toneNames j with
  | some [political, religious, competitor] => do
    let noPoliticalBias ← required readBool political
    let noReligiousEndorsement ← required readBool religious
    let noCompetitorPromotion ← required readBool competitor
    pure (⟨noPoliticalBias, noReligiousEndorsement⟩, noCompetitorPromotion)
  | _ => none

namespace ToolPermissions

/-- A flattened map: its entries are the members. -/
def tree (p : ToolPermissions) : JsonTree :=
  .object (p.permissions.entries.map fun e => (e.1, .string e.2))

def read (s : RandomState) : JsonTree → Option ToolPermissions
  | .object members => do
    let entries ← members.mapM fun m => (readString m.2).map (m.1, ·)
    pure ⟨.collect s entries⟩
  | _ => none

end ToolPermissions

namespace EscalationThresholds

variable (F : Formats)

def names : List Str := ["low", "medium", "high", "critical"]

def tree (t : EscalationThresholds) : JsonTree := structTree names (t.values.map F.writeF32)

def read (j : JsonTree) : Option EscalationThresholds :=
  match structFields names j with
  | some [low, medium, high, critical] => do
    let low ← required F.readF32 low
    let medium ← required F.readF32 medium
    let high ← required F.readF32 high
    let critical ← required F.readF32 critical
    pure ⟨low, medium, high, critical⟩
  | _ => none

end EscalationThresholds

namespace ConstitutionDocument

variable (F : Formats) (s : RandomState)

def names : List Str :=
  ["constitution_id", "client_id", "policy_version", "industry_profile", "effective_at",
    "expires_at", "prohibited_categories", "prohibited_patterns", "required_deferrals",
    "tone_constraints", "tool_permissions", "escalation_thresholds", "max_response_scope",
    "constitutional_hash"]

def tree (c : ConstitutionDocument) : JsonTree :=
  structTree names
    [.string c.constitutionId, .string c.clientId, .string c.policyVersion,
      .string c.industryProfile, F.writeInstant c.effectiveAt,
      writeOption F.writeInstant c.expiresAt, writeVec .string c.prohibitedCategories,
      writeVec .string c.prohibitedPatterns, writeVec .string c.requiredDeferrals,
      toneTree c.toneConstraints c.noCompetitorPromotion, c.toolPermissions.tree,
      c.escalationThresholds.tree F, writeOption .string c.maxResponseScope,
      writeOption .string c.constitutionalHash]

def read (j : JsonTree) : Option ConstitutionDocument :=
  match structFields names j with
  | some [constitutionId, clientId, policyVersion, industryProfile, effectiveAt, expiresAt,
      prohibitedCategories, prohibitedPatterns, requiredDeferrals, toneConstraints,
      toolPermissions, escalationThresholds, maxResponseScope, constitutionalHash] => do
    let constitutionId ← required readString constitutionId
    let clientId ← required readString clientId
    let policyVersion ← required readString policyVersion
    let industryProfile ← required readString industryProfile
    let effectiveAt ← required F.readInstant effectiveAt
    let expiresAt ← optional F.readInstant expiresAt
    let prohibitedCategories ← required (readVec readString) prohibitedCategories
    let prohibitedPatterns ← required (readVec readString) prohibitedPatterns
    let requiredDeferrals ← required (readVec readString) requiredDeferrals
    let (toneConstraints, noCompetitorPromotion) ← required readTone toneConstraints
    let toolPermissions ← required (ToolPermissions.read s) toolPermissions
    let escalationThresholds ← required (EscalationThresholds.read F) escalationThresholds
    let maxResponseScope ← optional readString maxResponseScope
    let constitutionalHash ← optional readString constitutionalHash
    pure
      { constitutionId, clientId, policyVersion, industryProfile, effectiveAt, expiresAt
        prohibitedCategories, prohibitedPatterns, requiredDeferrals, toneConstraints
        noCompetitorPromotion, toolPermissions, escalationThresholds, maxResponseScope
        constitutionalHash }
  | _ => none

/-- `serde_json::to_string`. -/
def toJson (c : ConstitutionDocument) : Str := text (c.tree F)

/-- `Constitution::from_json`; the map that is built gets an order of its own. -/
def fromJson (json : Str) : Except ConstitutionError ConstitutionDocument :=
  match (parse json).bind (read F s) with
  | some c => .ok c
  | none => .error .parseError

variable (P : Platform)

/-- What is hashed: everything except the hash field itself. -/
def canonical (c : ConstitutionDocument) : Str := { c with constitutionalHash := none }.toJson F

def «seal» (c : ConstitutionDocument) : ConstitutionDocument :=
  { c with constitutionalHash := some (computeHash P (c.canonical F)) }

def verifyIntegrity (c : ConstitutionDocument) : Bool :=
  match c.constitutionalHash with
  | some storedHash => computeHash P (c.canonical F) = storedHash
  | none => false

end ConstitutionDocument

/-- `ConstitutionalEvaluator::new`. -/
def ConstitutionalEvaluator.ofDocument (F : Formats) (P : Platform) (c : ConstitutionDocument) :
    Except ConstitutionError ConstitutionalEvaluator :=
  if c.constitutionalHash.isSome && !c.verifyIntegrity F P then .error .hashMismatch
  else
    match ConstitutionalEvaluator.new P c.toConstitution with
    | some e => .ok e
    | none => .error .regexError

/-! ### Reading back what was written -/

def EscalationThresholds.Finite (t : EscalationThresholds) : Prop :=
  ∀ f ∈ t.values, isFinite f = true

/-- The finite floats and the instants of a document are read back as they were written. -/
structure Formats.Restores (F : Formats) (c : ConstitutionDocument) : Prop where
  isNumber : ∀ f ∈ c.escalationThresholds.values, isFinite f = true →
    isNumber (F.floatText f) = true
  float : ∀ f ∈ c.escalationThresholds.values, isFinite f = true →
    F.readFloat (F.floatText f) = some f
  effectiveAt : F.readTime (F.timeText c.effectiveAt) = some c.effectiveAt
  expiresAt : ∀ t ∈ c.expiresAt, F.readTime (F.timeText t) = some t

/-- The hash plays no part in it, and neither does the order of the permissions. -/
lemma Formats.Restores.congr {F : Formats} {c d : ConstitutionDocument} (hF : F.Restores c)
    (hthresholds : d.escalationThresholds = c.escalationThresholds)
    (heffective : d.effectiveAt = c.effectiveAt) (hexpires : d.expiresAt = c.expiresAt) :
    F.Restores d where
  isNumber := by rw [hthresholds]; exact hF.isNumber
  float := by rw [hthresholds]; exact hF.float
  effectiveAt := by rw [heffective]; exact hF.effectiveAt
  expiresAt := by rw [hexpires]; exact hF.expiresAt

lemma readTone_toneTree (t : ToneConstraints) (b : Bool) :
    readTone (toneTree t b) = some (t, b) := by
  rw [readTone, toneTree, structFields_structTree (by decide +kernel) rfl]
  rfl

lemma ToolPermissions.read_tree (s : RandomState) (p : ToolPermissions) :
    read s p.tree = some ⟨p.permissions.rearrange s⟩ := by
  have hentries : ∀ es : List (Str × Str),
      (es.map fun e => (e.1, JsonTree.string e.2)).mapM
        (fun m => (readString m.2).map (m.1, ·)) = some es := by
    intro es
    induction es with
    | nil => rfl
    | cons e es ih => simp [ih]
  rw [tree, read, hentries, ← StringMap.collect_entries]
  rfl

section

variable {F : Formats} {c : ConstitutionDocument} (hF : F.Restores c)
  (hfin : c.escalationThresholds.Finite)
include hF hfin

lemma Formats.readF32_writeF32 {f : BitVec 32} (hf : f ∈ c.escalationThresholds.values) :
    F.readF32 (F.writeF32 f) = some f := by
  rw [writeF32, if_pos (hfin f hf), readF32, hF.float f hf (hfin f hf)]

lemma EscalationThresholds.read_tree :
    read F (c.escalationThresholds.tree F) = some c.escalationThresholds := by
  have hf := fun f hf => Formats.readF32_writeF32 (f := f) hF hfin hf
  simp only [values, List.forall_mem_cons] at hf
  obtain ⟨hlow, hmedium, hhigh, hcritical, -⟩ := hf
  rw [read, tree, structFields_structTree (by decide +kernel) rfl]
  simp [values, hlow, hmedium, hhigh, hcritical]

end

namespace ConstitutionDocument

/-- The document with its permissions in a new order. -/
def rearranged (s : RandomState) (c : ConstitutionDocument) : ConstitutionDocument :=
  { c with toolPermissions := ⟨c.toolPermissions.permissions.rearrange s⟩ }

@[simp] lemma rearranged_inserted (c : ConstitutionDocument) : c.rearranged .inserted = c := rfl

section

variable {F : Formats} {c : ConstitutionDocument} (hF : F.Restores c)
  (hfin : c.escalationThresholds.Finite)
include hF hfin

lemma wellFormed_tree : WellFormed (c.tree F) := by
  have hstrings : ∀ l : List Str, WellFormed (writeVec .string l) := fun l =>
    wellFormed_writeVec fun t _ => .string t
  have hoption : ∀ o : Option Str, WellFormed (writeOption .string o) := fun o =>
    wellFormed_writeOption fun t _ => .string t
  have htone : WellFormed (toneTree c.toneConstraints c.noCompetitorPromotion) :=
    wellFormed_structTree (by simp [WellFormed.bool])
  have hpermissions : WellFormed c.toolPermissions.tree := by
    refine .object fun m hm => ?_
    obtain ⟨e, -, rfl⟩ := List.mem_map.mp hm
    exact .string e.2
  have hthresholds : WellFormed (c.escalationThresholds.tree F) := by
    refine wellFormed_structTree fun j hj => ?_
    obtain ⟨f, hf, rfl⟩ := List.mem_map.mp hj
    rw [Formats.writeF32, if_pos (hfin f hf)]
    exact .number (hF.isNumber f hf (hfin f hf))
  have hexpires : WellFormed (writeOption F.writeInstant c.expiresAt) :=
    wellFormed_writeOption fun t _ => .string _
  refine wellFormed_structTree ?_
  simp only [List.forall_mem_cons]
  exact ⟨.string _, .string _, .string _, .string _, .string _, hexpires, hstrings _, hstrings _,
    hstrings _, htone, hpermissions, hthresholds, hoption _, hoption _, by simp⟩

lemma read_tree (s : RandomState) : read F s (c.tree F) = some (c.rearranged s) := by
  have hstrings : ∀ l : List Str, readVec readString (writeVec .string l) = some l := fun l =>
    readVec_writeVec fun _ _ => rfl
  have hoption : ∀ o : Option Str, readOption readString (writeOption .string o) = some o :=
    fun o => readOption_writeOption (by simp) fun _ _ => rfl
  have heffective : F.readInstant (F.writeInstant c.effectiveAt) = some c.effectiveAt :=
    hF.effectiveAt
  have hexpires : readOption F.readInstant (writeOption F.writeInstant c.expiresAt) =
      some c.expiresAt :=
    readOption_writeOption (by simp [Formats.writeInstant]) hF.expiresAt
  have hthresholds := EscalationThresholds.read_tree hF hfin
  rw [read, tree, structFields_structTree (by decide +kernel) rfl]
  simp [hstrings, hoption, heffective, hexpires, hthresholds, readTone_toneTree,
    ToolPermissions.read_tree, rearranged]

/-- **A document is read back with its permissions in an order of the new map.** -/
theorem fromJson_toJson (s : RandomState) : fromJson F s (c.toJson F) = .ok (c.rearranged s) := by
  rw [fromJson, toJson, parse_text (wellFormed_tree hF hfin), Option.bind_some,
    read_tree hF hfin]

end

/-! ### Sealed documents -/

/-- Whatever the order of its map, what is read back of a sealed document keeps its integrity and
is not refused by the evaluator for its hash. -/
def SealSurvives (F : Formats) (P : Platform) (c : ConstitutionDocument) : Prop :=
  ∀ s, ∃ c', fromJson F s ((«seal» F P c).toJson F) = .ok c' ∧ c'.verifyIntegrity F P = true ∧
    ConstitutionalEvaluator.ofDocument F P c' ≠ .error .hashMismatch

/-- No order of the permissions gives another text with the same hash. -/
def OrdersSeparated (F : Formats) (P : Platform) (c : ConstitutionDocument) : Prop :=
  ∀ s, P.sha256 ((c.rearranged s).canonical F) = P.sha256 (c.canonical F) →
    (c.rearranged s).canonical F = c.canonical F

variable {F : Formats} {P : Platform} {c : ConstitutionDocument}

/-- The evaluator accepts the hash of a document whose integrity holds. -/
lemma ofDocument_ne_hashMismatch (h : c.verifyIntegrity F P = true) :
    ConstitutionalEvaluator.ofDocument F P c ≠ .error .hashMismatch := by
  rw [ConstitutionalEvaluator.ofDocument, h]
  cases ConstitutionalEvaluator.new P c.toConstitution <;> simp

lemma verifyIntegrity_rearranged_seal (s : RandomState) :
    ((«seal» F P c).rearranged s).verifyIntegrity F P = true ↔
      P.sha256 ((c.rearranged s).canonical F) = P.sha256 (c.canonical F) := by
  have hiff : ((«seal» F P c).rearranged s).verifyIntegrity F P = true ↔
      computeHash P ((c.rearranged s).canonical F) = computeHash P (c.canonical F) :=
    decide_eq_true_iff
  rw [hiff]
  exact ⟨Hex.text_injective, congrArg Hex.text⟩

section

variable (hF : F.Restores c) (hfin : c.escalationThresholds.Finite)
include hF hfin

/-- **A sealed document survives when every order has the hash of its own.** -/
theorem sealSurvives_iff_sha256 : SealSurvives F P c ↔
    ∀ s, P.sha256 ((c.rearranged s).canonical F) = P.sha256 (c.canonical F) := by
  have hsealed : F.Restores («seal» F P c) := hF.congr rfl rfl rfl
  have hread : ∀ s, fromJson F s ((«seal» F P c).toJson F) = .ok ((«seal» F P c).rearranged s) :=
    fromJson_toJson hsealed hfin
  refine forall_congr' fun s => ?_
  rw [← verifyIntegrity_rearranged_seal, hread s]
  constructor
  · rintro ⟨c', hc', hverify, -⟩
    obtain rfl := Except.ok.inj hc'
    exact hverify
  · intro hverify
    exact ⟨_, rfl, hverify, ofDocument_ne_hashMismatch hverify⟩

/-- The text that is hashed fixes the order of the permissions. -/
lemma rearranged_eq_of_canonical {s : RandomState}
    (h : (c.rearranged s).canonical F = c.canonical F) :
    c.toolPermissions.permissions.rearrange s = c.toolPermissions.permissions := by
  have hdraft : ∀ d : ConstitutionDocument, F.Restores d → d.escalationThresholds.Finite →
      fromJson F .inserted (d.canonical F) = .ok { d with constitutionalHash := none } :=
    fun d hd hdfin =>
      fromJson_toJson (c := { d with constitutionalHash := none }) (hd.congr rfl rfl rfl) hdfin
        .inserted
  have hc := hdraft c hF hfin
  have hs := hdraft (c.rearranged s) (hF.congr rfl rfl rfl) hfin
  rw [h, hc] at hs
  have hdocument := Except.ok.inj hs
  exact (congrArg (·.toolPermissions.permissions) hdocument).symm

/-- With two permissions the reversed order has another hash. -/
lemma not_sealSurvives (hP : OrdersSeparated F P c)
    (h : 1 < c.toolPermissions.permissions.entries.length) : ¬ SealSurvives F P c := by
  rw [sealSurvives_iff_sha256 hF hfin]
  intro hall
  have htext := hP .reversed (hall .reversed)
  exact StringMap.rearrange_reversed_ne h (rearranged_eq_of_canonical hF hfin htext)

end

/-! ### The medical constitution -/

/-- 2020-01-01T00:00:00Z. -/
def newYear : DateTime := 1577836800 * nanosPerSec

/-- `default_medical` before it is sealed. -/
def medicalDraft (s : RandomState) : ConstitutionDocument where
  constitutionId := "test_medical_constitution"
  clientId := "test_medical_client"
  policyVersion := "v1.0.0"
  industryProfile := "medical"
  effectiveAt := newYear
  expiresAt := none
  prohibitedCategories := ["PII", "SYSTEM_PROMPT_EXPOSURE", "IP_LEAKAGE"]
  prohibitedPatterns :=
    [r"(?i)\b\d{3}-\d{2}-\d{4}\b",
      "(?i)(ignore previous instructions)",
      "(?i)(reveal your system prompt)",
      "(?i)(you are now|pretend you are|act as if)"]
  requiredDeferrals :=
    ["specific dosage recommendations", "diagnosis confirmation", "prescription decisions"]
  toneConstraints := ⟨true, true⟩
  noCompetitorPromotion := true
  toolPermissions :=
    ⟨.collect s
      [("calculator", "allowed"), ("filesystem_write", "restricted"),
        ("external_http", "restricted")]⟩
  escalationThresholds := .default
  maxResponseScope := some "informational_only"
  constitutionalHash := none

/-- `Constitution::default_medical`. -/
def defaultMedical (F : Formats) (s : RandomState) (P : Platform) : ConstitutionDocument :=
  «seal» F P (medicalDraft s)

/-- The texts of the default thresholds and of the first instant of 2020. -/
def fixedFormats : Formats where
  floatText f :=
    if f = 0x3ECCCCCD then "0.4" else if f = 0x3F19999A then "0.6"
    else if f = 0x3F400000 then "0.75" else "0.9"
  readFloat t :=
    if t = "0.4" then some 0x3ECCCCCD else if t = "0.6" then some 0x3F19999A
    else if t = "0.75" then some 0x3F400000 else if t = "0.9" then some 0x3F666666 else none
  timeText _ := "2020-01-01T00:00:00Z"
  readTime t := if t = "2020-01-01T00:00:00Z" then some newYear else none

/-- A hash that tells one text from all others. -/
def markingPlatform (t : Str) : Platform :=
  fixedPlatform (fun u => Hex.repeated 64 (if u = t then 1 else 0)) fun _ _ => false

lemma finite_default : EscalationThresholds.default.Finite := by
  have hall : EscalationThresholds.default.values.all isFinite = true := by decide +kernel
  exact List.all_eq_true.mp hall

lemma restores_medicalDraft (s : RandomState) : fixedFormats.Restores (medicalDraft s) := by
  have hall : (EscalationThresholds.default.values.all fun f =>
      isNumber (fixedFormats.floatText f) &&
        fixedFormats.readFloat (fixedFormats.floatText f) = some f) = true := by decide +kernel
  have hvalues : ∀ f ∈ (medicalDraft s).escalationThresholds.values,
      isNumber (fixedFormats.floatText f) = true ∧
        fixedFormats.readFloat (fixedFormats.floatText f) = some f := by
    intro f hf
    simpa using List.all_eq_true.mp hall f hf
  have htime : fixedFormats.readTime (fixedFormats.timeText newYear) = some newYear := by
    simp only [fixedFormats, if_true]
  exact
    { isNumber := fun f hf _ => (hvalues f hf).1
      float := fun f hf _ => (hvalues f hf).2
      effectiveAt := htime
      expiresAt := fun t ht => absurd ht (by simp [medicalDraft]) }

/-- A hash that tells the text of a document from all others separates its orders. -/
lemma ordersSeparated_markingPlatform (F : Formats) (c : ConstitutionDocument) :
    OrdersSeparated F (markingPlatform (c.canonical F)) c := by
  intro s h
  by_contra hne
  have hdigest : Hex.repeated 64 0 = Hex.repeated 64 1 := by
    simpa [markingPlatform, fixedPlatform, hne] using h
  exact absurd hdigest (by decide)

/-! ### When a sealed document survives -/

/-- **When a sealed document survives.** Unless SHA-256 confuses two of its serialisations,
exactly when it has at most one tool permission. -/
theorem sealSurvives_iff (hF : F.Restores c) (hfin : c.escalationThresholds.Finite)
    (hP : OrdersSeparated F P c) :
    SealSurvives F P c ↔ c.toolPermissions.permissions.entries.length ≤ 1 := by
  constructor
  · intro h
    by_contra hlen
    exact not_sealSurvives hF hfin hP (not_le.mp hlen) h
  · intro hlen
    rw [sealSurvives_iff_sha256 hF hfin]
    intro s
    rw [rearranged, StringMap.rearrange_of_length_le_one s hlen]

/-- The medical constitution with its first permission only. -/
def calculatorDraft : ConstitutionDocument :=
  { medicalDraft .inserted with
    toolPermissions := ⟨.collect .inserted [("calculator", "allowed")]⟩ }

theorem sealSurvives_iff_calculatorDraft :
    SealSurvives fixedFormats (markingPlatform (calculatorDraft.canonical fixedFormats))
      calculatorDraft := by
  have hF : fixedFormats.Restores calculatorDraft :=
    (restores_medicalDraft .inserted).congr rfl rfl rfl
  have hfin : calculatorDraft.escalationThresholds.Finite := finite_default
  have hlen : calculatorDraft.toolPermissions.permissions.entries.length ≤ 1 := by decide +kernel
  exact (sealSurvives_iff hF hfin (ordersSeparated_markingPlatform _ _)).mpr hlen

/-- The medical constitution is refused when it is read into a map of another order. -/
theorem defaultMedical_refused : ¬ ∀ (F : Formats) (P : Platform) (c : ConstitutionDocument),
    F.Restores c → c.escalationThresholds.Finite → SealSurvives F P c := by
  intro h
  let P := markingPlatform ((medicalDraft .inserted).canonical fixedFormats)
  let c := defaultMedical fixedFormats .inserted P
  have hF : fixedFormats.Restores c := (restores_medicalDraft .inserted).congr rfl rfl rfl
  have hlen : 1 < c.toolPermissions.permissions.entries.length := by decide +kernel
  exact not_sealSurvives hF finite_default (ordersSeparated_markingPlatform fixedFormats c) hlen
    (h fixedFormats P c hF finite_default)

end ConstitutionDocument

end GovSec
