import GovSec.Encoding
import GovSec.EnvelopeBinding
import GovSec.Lib.JsonSound
import GovSec.SerdeJson

/-!
How `serde` reads a model-context envelope.

A structure is an object with its fields in any order among other members, or the array of its
first fields; the variant of an enumeration is its name, or the object of its name and `null`. The
relation of a value to its spellings says which texts are accepted.
-/

namespace GovSec

open GovSec.Lib.Text GovSec.Lib.JsonText

/-! ### Derived structures -/

namespace SerdeJson

/-- The fields of a structure, of which the last ones may be left out of an array. -/
def derivedFields (names : List Str) : JsonTree → Option (List (Option JsonTree))
  | .array items =>
    if items.length ≤ names.length then
      some (items.map some ++ List.replicate (names.length - items.length) none)
    else none
  | j => structFields names j

/-- `#[serde(default)]`. -/
def defaulted {α : Type} (default : α) (read : JsonTree → Option α) : Option JsonTree → Option α
  | none => some default
  | some j => read j

/-- The value of decimal digits. -/
def digitsValue (digits : Str) : ℕ :=
  digits.foldl (fun n c => 10 * n + (c.toNat - '0'.toNat)) 0

/-- An unsigned integer; a number with a fraction or an exponent is none. -/
def readUnsigned (bits : ℕ) : JsonTree → Option ℕ
  | .number raw =>
    if raw.all Char.isDigit ∧ digitsValue raw < 2 ^ bits then some (digitsValue raw) else none
  | _ => none

/-- A variant without a value. -/
def readVariant {α : Type} (name : α → Str) (variants : List α) : JsonTree → Option α
  | .string s => variants.find? (name · = s)
  | .object [(s, .null)] => variants.find? (name · = s)
  | _ => none

/-! ### Spellings of structures -/

/-- The members of the fields that are there. -/
def present (names : List Str) (fields : List (Option JsonTree)) : List (Str × JsonTree) :=
  (names.zip fields).filterMap fun f => f.2.map (Prod.mk f.1)

/-- The tree has these fields under these names. -/
inductive SpellsStruct (names : List Str) (fields : List (Option JsonTree)) : JsonTree → Prop
  | object {members foreign : List (Str × JsonTree)}
      (h : members.Perm (present names fields ++ foreign)) (hforeign : ∀ m ∈ foreign, m.1 ∉ names) :
      SpellsStruct names fields (.object members)
  | array {items : List JsonTree} (hle : items.length ≤ names.length)
      (h : fields = items.map some ++ List.replicate (names.length - items.length) none) :
      SpellsStruct names fields (.array items)

variable {names : List Str} {fields : List (Option JsonTree)} {members : List (Str × JsonTree)}
  {key : Str} {j : JsonTree}

lemma mem_present : (key, j) ∈ present names fields ↔ (key, some j) ∈ names.zip fields := by
  unfold present
  rw [List.mem_filterMap]
  constructor
  · rintro ⟨⟨name, o⟩, hmem, heq⟩
    obtain ⟨j', rfl, heq⟩ := Option.map_eq_some_iff.mp heq
    cases heq
    exact hmem
  · exact fun h => ⟨_, h, rfl⟩

lemma mem_present_map {find : Str → Option JsonTree} :
    (key, j) ∈ present names (names.map find) ↔ key ∈ names ∧ find key = some j := by
  rw [mem_present, ← List.map_prod_left_eq_zip, List.mem_map]
  constructor
  · rintro ⟨name, hname, heq⟩
    obtain ⟨rfl, hfind⟩ := Prod.mk.inj heq
    exact ⟨hname, hfind⟩
  · rintro ⟨hname, hfind⟩
    exact ⟨key, hname, by rw [hfind]⟩

/-- The fields that are there stand in the order of their names. -/
lemma keys_present_sublist (names : List Str) (fields : List (Option JsonTree)) :
    ((present names fields).map Prod.fst).Sublist names := by
  induction names generalizing fields with
  | nil => simp [present]
  | cons name names ih =>
    cases fields with
    | nil => simp [present]
    | cons o fields =>
      have hrest := ih fields
      cases o with
      | none => exact hrest.cons name
      | some j => exact hrest.cons_cons name

/-- A key that occurs once finds its member. -/
lemma get_eq_some_iff_mem (h : (members.map Prod.fst).count key ≤ 1) :
    JsonTree.get members key = some j ↔ (key, j) ∈ members := by
  induction members with
  | nil => simp [JsonTree.get]
  | cons m members ih =>
    obtain ⟨k, j'⟩ := m
    rw [List.map_cons, List.count_cons] at h
    by_cases hk : k = key
    · subst hk
      have hnone : ∀ m ∈ members, m.1 ≠ k := by
        intro m hm hmk
        have hpos : 0 < (members.map Prod.fst).count k :=
          List.count_pos_iff.mpr (List.mem_map.mpr ⟨m, hm, hmk⟩)
        rw [beq_self_eq_true, if_pos rfl] at h
        omega
      rw [JsonTree.get_cons_self hnone, List.mem_cons, Prod.mk.injEq]
      constructor
      · intro h
        exact .inl ⟨rfl, (Option.some.inj h).symm⟩
      · rintro (⟨-, rfl⟩ | hmem)
        · rfl
        · exact absurd rfl (hnone _ hmem)
    · rw [JsonTree.get_cons_of_ne hk, ih (by omega), List.mem_cons, Prod.mk.injEq]
      exact ⟨.inr, fun h => h.resolve_left fun h => hk h.1.symm⟩

lemma mem_zip_getElem (hn : names.Nodup) {i : ℕ} (hi : i < names.length)
    (hi' : i < fields.length) {o : Option JsonTree} :
    (names[i], o) ∈ names.zip fields ↔ fields[i] = o := by
  rw [List.mem_iff_getElem]
  constructor
  · rintro ⟨k, hk, heq⟩
    rw [List.getElem_zip, Prod.mk.injEq] at heq
    obtain rfl : k = i := (hn.getElem_inj_iff).mp heq.1
    exact heq.2
  · rintro rfl
    exact ⟨i, by rw [List.length_zip]; omega, List.getElem_zip⟩

/-- **What an object's fields are**: its members of the known names, each at most once. -/
theorem structFields_eq_some_iff (hn : names.Nodup) :
    structFields names (.object members) = some fields ↔
      fields.length = names.length ∧ SpellsStruct names fields (.object members) := by
  have hdef : structFields names (.object members) =
      if names.all fun name => (members.map Prod.fst).count name ≤ 1 then
        some (names.map (JsonTree.get members))
      else none := rfl
  rw [hdef]
  constructor
  · intro h
    split at h
    · next hcount =>
      obtain rfl := Option.some.inj h
      rw [List.all_eq_true] at hcount
      have hunique : ∀ name ∈ names, (members.map Prod.fst).count name ≤ 1 :=
        fun name hname => of_decide_eq_true (hcount name hname)
      have hforeign : ∀ m ∈ members.filter (·.1 ∉ names), m.1 ∉ names :=
        fun m hm => of_decide_eq_true (List.mem_filter.mp hm).2
      refine ⟨List.length_map _, .object ?_ hforeign⟩
      have hsplit : (members.filter (·.1 ∈ names) ++ members.filter (·.1 ∉ names)).Perm
          members := by
        simpa using
          List.filter_append_perm (fun m : Str × JsonTree => decide (m.1 ∈ names)) members
      refine hsplit.symm.trans (.append_right _ ?_)
      -- the known members and the fields are the same entries, each once
      have hknown : (members.filter (·.1 ∈ names)).Nodup := by
        refine List.Nodup.of_map Prod.fst (List.nodup_iff_count_le_one.mpr fun name => ?_)
        by_cases hname : name ∈ names
        · exact (((List.filter_sublist).map Prod.fst).count_le name).trans (hunique name hname)
        · refine (List.count_eq_zero.mpr fun hmem => hname ?_).le.trans zero_le_one
          obtain ⟨m, hm, rfl⟩ := List.mem_map.mp hmem
          exact of_decide_eq_true (List.mem_filter.mp hm).2
      have hpresent : (present names (names.map (JsonTree.get members))).Nodup :=
        List.Nodup.of_map Prod.fst (hn.sublist (keys_present_sublist _ _))
      refine (List.perm_ext_iff_of_nodup hknown hpresent).mpr fun ⟨name, j⟩ => ?_
      rw [mem_present_map, List.mem_filter, decide_eq_true_eq]
      constructor
      · rintro ⟨hmem, hname⟩
        exact ⟨hname, (get_eq_some_iff_mem (hunique name hname)).mpr hmem⟩
      · rintro ⟨hname, hget⟩
        exact ⟨(get_eq_some_iff_mem (hunique name hname)).mp hget, hname⟩
    · cases h
  · rintro ⟨hlength, @⟨_, foreign, hperm, hforeign⟩⟩
    have hcount : ∀ name ∈ names, (members.map Prod.fst).count name ≤ 1 := by
      intro name hname
      have hzero : (foreign.map Prod.fst).count name = 0 := by
        refine List.count_eq_zero.mpr fun hmem => ?_
        obtain ⟨m, hm, rfl⟩ := List.mem_map.mp hmem
        exact hforeign m hm hname
      rw [(hperm.map Prod.fst).count_eq, List.map_append, List.count_append, hzero, add_zero]
      exact List.nodup_iff_count_le_one.mp (hn.sublist (keys_present_sublist names fields)) name
    rw [if_pos (List.all_eq_true.mpr fun name hname => decide_eq_true (hcount name hname))]
    refine congrArg some (List.ext_getElem (by rw [List.length_map, hlength]) fun i hi hi' => ?_)
    rw [List.getElem_map]
    rw [List.length_map] at hi
    refine Option.ext fun j => ?_
    rw [get_eq_some_iff_mem (hcount _ (List.getElem_mem hi)), hperm.mem_iff, List.mem_append,
      or_iff_left fun hmem => hforeign _ hmem (List.getElem_mem hi), mem_present]
    exact mem_zip_getElem hn hi hi'

lemma derivedFields_eq_some_iff (hn : names.Nodup) :
    derivedFields names j = some fields ↔
      fields.length = names.length ∧ SpellsStruct names fields j := by
  cases j with
  | object members => exact structFields_eq_some_iff hn
  | array items =>
    have hdef : derivedFields names (.array items) =
        if items.length ≤ names.length then
          some (items.map some ++ List.replicate (names.length - items.length) none)
        else none := rfl
    rw [hdef]
    constructor
    · intro h
      split at h
      · next hle =>
        obtain rfl := Option.some.inj h
        refine ⟨?_, .array hle rfl⟩
        rw [List.length_append, List.length_map, List.length_replicate]
        omega
      · cases h
    · rintro ⟨-, hspells⟩
      cases hspells with
      | array hle h => rw [if_pos hle, h]
  | _ =>
    constructor
    · intro h
      cases h
    · rintro ⟨-, hspells⟩
      cases hspells

/-! ### Spellings of values -/

section Values

variable {α : Type}

/-- Digits of a value of some bits. -/
inductive SpellsUnsigned (bits n : ℕ) : JsonTree → Prop
  | digits {raw : Str} (hall : raw.all Char.isDigit = true) (hvalue : digitsValue raw = n)
      (hlt : n < 2 ^ bits) : SpellsUnsigned bits n (.number raw)

inductive SpellsVariant (name : Str) : JsonTree → Prop
  | name : SpellsVariant name (.string name)
  | object : SpellsVariant name (.object [(name, .null)])

inductive SpellsString (s : Str) : JsonTree → Prop
  | string : SpellsString s (.string s)

/-- An `Option` that may be missing, or `null`. -/
inductive SpellsOption : Option Str → Option JsonTree → Prop
  | missing : SpellsOption none none
  | null : SpellsOption none (some .null)
  | string (s : Str) : SpellsOption (some s) (some (.string s))

/-- A text that may be missing when it is empty. -/
inductive SpellsDefault : Str → Option JsonTree → Prop
  | missing : SpellsDefault [] none
  | string (s : Str) : SpellsDefault s (some (.string s))

inductive SpellsVec (spells : α → JsonTree → Prop) (l : List α) : JsonTree → Prop
  | array {items : List JsonTree} (h : List.Forall₂ spells l items) :
      SpellsVec spells l (.array items)

lemma readUnsigned_eq_some_iff {bits n : ℕ} :
    readUnsigned bits j = some n ↔ SpellsUnsigned bits n j := by
  constructor
  · intro h
    cases j with
    | number raw =>
      have hdef : readUnsigned bits (.number raw) =
          if raw.all Char.isDigit ∧ digitsValue raw < 2 ^ bits then some (digitsValue raw)
          else none := rfl
      rw [hdef] at h
      split at h
      · next hraw =>
        obtain rfl := Option.some.inj h
        exact .digits hraw.1 rfl hraw.2
      · cases h
    | _ => cases h
  · rintro ⟨hall, rfl, hlt⟩
    exact if_pos ⟨hall, hlt⟩

lemma readString_eq_some_iff {s : Str} : readString j = some s ↔ SpellsString s j := by
  constructor
  · intro h
    cases j with
    | string s' =>
      obtain rfl := Option.some.inj h
      exact .string
    | _ => cases h
  · rintro ⟨⟩
    rfl

lemma readVariant_eq_some_iff {name : α → Str} {variants : List α} {a : α}
    (hname : Function.Injective name) (hall : ∀ a, a ∈ variants) :
    readVariant name variants j = some a ↔ SpellsVariant (name a) j := by
  have hfind (s : Str) : variants.find? (name · = s) = some a ↔ name a = s := by
    constructor
    · exact fun h => by simpa using List.find?_some h
    · rintro rfl
      cases h : variants.find? (name · = name a) with
      | none => simpa using List.find?_eq_none.mp h a (hall a)
      | some b =>
        have heq : name b = name a := by simpa using List.find?_some h
        rw [hname heq]
  constructor
  · intro h
    unfold readVariant at h
    split at h
    · rw [← (hfind _).mp h]
      exact .name
    · rw [← (hfind _).mp h]
      exact .object
    · cases h
  · rintro (_ | _)
    · exact (hfind _).mpr rfl
    · exact (hfind _).mpr rfl

lemma optional_eq_some_iff {o : Option JsonTree} {v : Option Str} :
    optional readString o = some v ↔ SpellsOption v o := by
  constructor
  · intro h
    rcases o with _ | j
    · obtain rfl := Option.some.inj h
      exact .missing
    · cases j with
      | null =>
        obtain rfl := Option.some.inj h
        exact .null
      | string s =>
        obtain rfl := Option.some.inj h
        exact .string s
      | _ => cases h
  · rintro (_ | _ | _) <;> rfl

lemma defaulted_eq_some_iff {o : Option JsonTree} {s : Str} :
    defaulted [] readString o = some s ↔ SpellsDefault s o := by
  constructor
  · intro h
    rcases o with _ | j
    · obtain rfl := Option.some.inj h
      exact .missing
    · cases readString_eq_some_iff.mp h
      exact .string s
  · rintro (_ | _) <;> rfl

lemma mapM_eq_some_iff {read : JsonTree → Option α} {spells : α → JsonTree → Prop}
    (h : ∀ a j, read j = some a ↔ spells a j) {items : List JsonTree} {l : List α} :
    items.mapM read = some l ↔ List.Forall₂ spells l items := by
  induction items generalizing l with
  | nil => simp [eq_comm]
  | cons j items ih =>
    rw [List.mapM_cons]
    constructor
    · intro hread
      obtain ⟨a, ha, hread⟩ := Option.bind_eq_some_iff.mp hread
      obtain ⟨as, has, heq⟩ := Option.bind_eq_some_iff.mp hread
      obtain rfl := Option.some.inj heq
      exact .cons ((h a j).mp ha) (ih.mp has)
    · rintro (_ | ⟨ha, has⟩)
      rw [(h _ j).mpr ha, ih.mpr has]
      rfl

lemma readVec_eq_some_iff {read : JsonTree → Option α} {spells : α → JsonTree → Prop}
    (h : ∀ a j, read j = some a ↔ spells a j) {l : List α} :
    readVec read j = some l ↔ SpellsVec spells l j := by
  constructor
  · intro hread
    cases j with
    | array items => exact .array ((mapM_eq_some_iff h).mp hread)
    | _ => cases hread
  · rintro ⟨hitems⟩
    exact (mapM_eq_some_iff h).mpr hitems

lemma required_eq_some_iff {read : JsonTree → Option α} {o : Option JsonTree} {a : α} :
    required read o = some a ↔ ∃ j, o = some j ∧ read j = some a := Option.bind_eq_some_iff

end Values

end SerdeJson

open GovSec.SerdeJson

/-! ### Segments and attachments -/

namespace ContextRole

def variants : List ContextRole := [system, user, assistant, toolResult]

lemma mem_variants (r : ContextRole) : r ∈ variants := by cases r <;> decide

end ContextRole

namespace ContextSource

def variants : List ContextSource :=
  [externalUser, conversationHistory, toolResult, attachment, hookInjection, runtimeInjection,
    compactionSummary]

lemma mem_variants (s : ContextSource) : s ∈ variants := by cases s <;> decide

end ContextSource

namespace ContextSegment

def fieldNames : List Str :=
  ["ordinal", "role", "source", "content", "tool_name", "attachment_id"]

def read (j : JsonTree) : Option ContextSegment := do
  match ← derivedFields fieldNames j with
  | [ordinal, role, source, content, toolName, attachmentId] =>
    pure
      { ordinal := ← required (readUnsigned 32) ordinal
        role := ← required (readVariant ContextRole.name ContextRole.variants) role
        source := ← required (readVariant ContextSource.name ContextSource.variants) source
        content := ← required readString content
        toolName := ← optional readString toolName
        attachmentId := ← optional readString attachmentId }
  | _ => none

inductive Spells (s : ContextSegment) (j : JsonTree) : Prop
  | fields {ordinal role source content : JsonTree} {toolName attachmentId : Option JsonTree}
      (h : SpellsStruct fieldNames
        [some ordinal, some role, some source, some content, toolName, attachmentId] j)
      (hordinal : SpellsUnsigned 32 s.ordinal ordinal) (hrole : SpellsVariant s.role.name role)
      (hsource : SpellsVariant s.source.name source) (hcontent : SpellsString s.content content)
      (htoolName : SpellsOption s.toolName toolName)
      (hattachmentId : SpellsOption s.attachmentId attachmentId)

/-- **The segments that are read** are the spelled ones. -/
theorem read_eq_some_iff {s : ContextSegment} {j : JsonTree} : read j = some s ↔ s.Spells j := by
  constructor
  · intro h
    obtain ⟨fields, hfields, h⟩ := Option.bind_eq_some_iff.mp h
    split at h
    · next ordinal role source content toolName attachmentId =>
      simp only [Option.bind_eq_bind, Option.bind_eq_some_iff, required_eq_some_iff] at h
      obtain ⟨_, ⟨_, rfl, ho⟩, _, ⟨_, rfl, hr⟩, _, ⟨_, rfl, hs⟩, _, ⟨_, rfl, hc⟩, _, ht, _, ha,
        heq⟩ := h
      obtain rfl := Option.some.inj heq
      exact .fields ((derivedFields_eq_some_iff (by decide)).mp hfields).2
        (readUnsigned_eq_some_iff.mp ho)
        ((readVariant_eq_some_iff ContextRole.name_injective ContextRole.mem_variants).mp hr)
        ((readVariant_eq_some_iff ContextSource.name_injective ContextSource.mem_variants).mp hs)
        (readString_eq_some_iff.mp hc) (optional_eq_some_iff.mp ht) (optional_eq_some_iff.mp ha)
    · cases h
  · rintro ⟨h, ho, hr, hs, hc, ht, ha⟩
    have hfields := (derivedFields_eq_some_iff (by decide)).mpr ⟨rfl, h⟩
    rw [read, hfields]
    simp only [Option.bind_eq_bind, Option.bind_some, required_some,
      readUnsigned_eq_some_iff.mpr ho,
      (readVariant_eq_some_iff ContextRole.name_injective ContextRole.mem_variants).mpr hr,
      (readVariant_eq_some_iff ContextSource.name_injective ContextSource.mem_variants).mpr hs,
      readString_eq_some_iff.mpr hc, optional_eq_some_iff.mpr ht, optional_eq_some_iff.mpr ha]
    rfl

end ContextSegment

namespace ContextAttachment

def fieldNames : List Str := ["attachment_id", "media_type", "byte_length", "sha256"]

def read (j : JsonTree) : Option ContextAttachment := do
  match ← derivedFields fieldNames j with
  | [attachmentId, mediaType, byteLength, sha256] =>
    pure
      { attachmentId := ← required readString attachmentId
        mediaType := ← required readString mediaType
        byteLength := ← required (readUnsigned 64) byteLength
        sha256 := ← required readString sha256 }
  | _ => none

inductive Spells (a : ContextAttachment) (j : JsonTree) : Prop
  | fields {attachmentId mediaType byteLength sha256 : JsonTree}
      (h : SpellsStruct fieldNames
        [some attachmentId, some mediaType, some byteLength, some sha256] j)
      (hattachmentId : SpellsString a.attachmentId attachmentId)
      (hmediaType : SpellsString a.mediaType mediaType)
      (hbyteLength : SpellsUnsigned 64 a.byteLength byteLength)
      (hsha256 : SpellsString a.sha256 sha256)

/-- **The attachments that are read** are the spelled ones. -/
theorem read_eq_some_iff {a : ContextAttachment} {j : JsonTree} :
    read j = some a ↔ a.Spells j := by
  constructor
  · intro h
    obtain ⟨fields, hfields, h⟩ := Option.bind_eq_some_iff.mp h
    split at h
    · next attachmentId mediaType byteLength sha256 =>
      simp only [Option.bind_eq_bind, Option.bind_eq_some_iff, required_eq_some_iff] at h
      obtain ⟨_, ⟨_, rfl, hi⟩, _, ⟨_, rfl, hm⟩, _, ⟨_, rfl, hb⟩, _, ⟨_, rfl, hs⟩, heq⟩ := h
      obtain rfl := Option.some.inj heq
      exact .fields ((derivedFields_eq_some_iff (by decide)).mp hfields).2
        (readString_eq_some_iff.mp hi) (readString_eq_some_iff.mp hm)
        (readUnsigned_eq_some_iff.mp hb) (readString_eq_some_iff.mp hs)
    · cases h
  · rintro ⟨h, hi, hm, hb, hs⟩
    have hfields := (derivedFields_eq_some_iff (by decide)).mpr ⟨rfl, h⟩
    rw [read, hfields]
    simp only [Option.bind_eq_bind, Option.bind_some, required_some,
      readUnsigned_eq_some_iff.mpr hb, readString_eq_some_iff.mpr hi,
      readString_eq_some_iff.mpr hm, readString_eq_some_iff.mpr hs]
    rfl

end ContextAttachment

/-! ### Envelopes -/

namespace ModelContextEnvelope

def fieldNames : List Str :=
  ["schema_version", "session_id", "run_id", "principal_id", "provider_id", "model_id",
    "policy_version", "policy_hash", "provider_context_hash", "system_prompt_hash",
    "tool_schema_hash", "workspace_manifest_hash", "segments", "attachments", "context_hash"]

/-- The first twelve fields are texts that must be there. -/
def read (j : JsonTree) : Option ModelContextEnvelope := do
  let fields ← derivedFields fieldNames j
  match ← (fields.take 12).mapM (required readString), fields.drop 12 with
  | [schemaVersion, sessionId, runId, principalId, providerId, modelId, policyVersion, policyHash,
      providerContextHash, systemPromptHash, toolSchemaHash, workspaceManifestHash],
    [segments, attachments, contextHash] =>
    pure
      { schemaVersion, sessionId, runId, principalId, providerId, modelId, policyVersion
        policyHash, providerContextHash, systemPromptHash, toolSchemaHash, workspaceManifestHash
        segments := ← required (readVec ContextSegment.read) segments
        attachments := ← required (readVec ContextAttachment.read) attachments
        contextHash := ← defaulted [] readString contextHash }
  | _, _ => none

/-- The first twelve fields. -/
def texts (e : ModelContextEnvelope) : List Str :=
  [e.schemaVersion, e.sessionId, e.runId, e.principalId, e.providerId, e.modelId, e.policyVersion,
    e.policyHash, e.providerContextHash, e.systemPromptHash, e.toolSchemaHash,
    e.workspaceManifestHash]

inductive Spells (e : ModelContextEnvelope) (j : JsonTree) : Prop
  | fields {segments attachments : JsonTree} {contextHash : Option JsonTree}
      (h : SpellsStruct fieldNames (e.texts.map (some ∘ JsonTree.string) ++
        [some segments, some attachments, contextHash]) j)
      (hsegments : SpellsVec ContextSegment.Spells e.segments segments)
      (hattachments : SpellsVec ContextAttachment.Spells e.attachments attachments)
      (hcontextHash : SpellsDefault e.contextHash contextHash)

lemma mapM_requiredString_eq_some_iff {os : List (Option JsonTree)} {ts : List Str} :
    os.mapM (required readString) = some ts ↔ os = ts.map (some ∘ JsonTree.string) := by
  have hone (o : Option JsonTree) (t : Str) :
      required readString o = some t ↔ o = some (.string t) := by
    rw [required_eq_some_iff]
    constructor
    · rintro ⟨j, rfl, h⟩
      cases readString_eq_some_iff.mp h
      rfl
    · rintro rfl
      exact ⟨_, rfl, rfl⟩
  induction os generalizing ts with
  | nil => cases ts <;> simp
  | cons o os ih =>
    rw [List.mapM_cons]
    constructor
    · intro h
      obtain ⟨t, ht, h⟩ := Option.bind_eq_some_iff.mp h
      obtain ⟨ts', hts, heq⟩ := Option.bind_eq_some_iff.mp h
      obtain rfl := Option.some.inj heq
      rw [(hone o t).mp ht, ih.mp hts]
      rfl
    · intro h
      cases ts with
      | nil => cases h
      | cons t ts =>
        obtain ⟨ho, hos⟩ := List.cons.inj h
        rw [(hone o t).mpr ho, ih.mpr hos]
        rfl

/-- **The envelopes that are read** are the spelled ones. -/
theorem read_eq_some_iff {e : ModelContextEnvelope} {j : JsonTree} :
    read j = some e ↔ e.Spells j := by
  constructor
  · intro h
    obtain ⟨fields, hfields, h⟩ := Option.bind_eq_some_iff.mp h
    obtain ⟨texts, htexts, h⟩ := Option.bind_eq_some_iff.mp h
    rw [mapM_requiredString_eq_some_iff] at htexts
    split at h
    · next _ _ _ _ _ _ _ _ _ _ _ _ segments attachments contextHash hdrop =>
      simp only [Option.bind_eq_bind, Option.bind_eq_some_iff, required_eq_some_iff] at h
      obtain ⟨_, ⟨_, rfl, hs⟩, _, ⟨_, rfl, ha⟩, _, hc, heq⟩ := h
      obtain rfl := Option.some.inj heq
      refine .fields ?_
        ((readVec_eq_some_iff fun _ _ => ContextSegment.read_eq_some_iff).mp hs)
        ((readVec_eq_some_iff fun _ _ => ContextAttachment.read_eq_some_iff).mp ha)
        (defaulted_eq_some_iff.mp hc)
      rw [← List.take_append_drop 12 fields, htexts, hdrop] at hfields
      exact ((derivedFields_eq_some_iff (by decide +kernel)).mp hfields).2
    · cases h
  · rintro ⟨h, hs, ha, hc⟩
    have hfields := (derivedFields_eq_some_iff (by decide +kernel)).mpr ⟨rfl, h⟩
    have htexts : (e.texts.map (some ∘ JsonTree.string)).mapM (required readString) =
        some e.texts := mapM_requiredString_eq_some_iff.mpr rfl
    have htake (rest : List (Option JsonTree)) :
        (e.texts.map (some ∘ JsonTree.string) ++ rest).take 12 =
          e.texts.map (some ∘ JsonTree.string) := rfl
    have hdrop (rest : List (Option JsonTree)) :
        (e.texts.map (some ∘ JsonTree.string) ++ rest).drop 12 = rest := rfl
    rw [read, hfields, Option.bind_eq_bind, Option.bind_some, htake, hdrop, htexts]
    simp only [texts, Option.bind_eq_bind, Option.bind_some, required_some,
      (readVec_eq_some_iff fun _ _ => ContextSegment.read_eq_some_iff).mpr hs,
      (readVec_eq_some_iff fun _ _ => ContextAttachment.read_eq_some_iff).mpr ha,
      defaulted_eq_some_iff.mpr hc]
    rfl

/-- `serde_json::from_str`. -/
def readText (t : Str) : Option ModelContextEnvelope := (parse t).bind read

end ModelContextEnvelope

/-! ### Writing -/

lemma SerdeJson.spellsUnsigned_natText {bits n : ℕ} (h : n < 2 ^ bits) :
    SpellsUnsigned bits n (.number (natText n)) := by
  refine .digits (List.all_eq_true.mpr fun c hc => isDigit_of_mem_natText hc) ?_ h
  rw [digitsValue, natText_eq_toDigits, ← Nat.ofDigitChars_eq_foldl,
    Nat.ofDigitChars_ten_toDigits]

lemma SerdeJson.spellsStruct_present {names : List Str} {fields : List (Option JsonTree)} :
    SpellsStruct names fields (.object (present names fields)) :=
  .object (by rw [List.append_nil]) (fun m hm => absurd hm List.not_mem_nil)

/-- A written structure is well formed when its fields are. -/
lemma SerdeJson.wellFormed_present {names : List Str} {fields : List (Option JsonTree)}
    (h : ∀ j, some j ∈ fields → WellFormed j) : WellFormed (.object (present names fields)) :=
  .object fun m hm => h m.2 (List.of_mem_zip (mem_present.mp hm)).2

lemma SerdeJson.wellFormed_unsigned (n : ℕ) : WellFormed (.number (natText n)) :=
  .number (by simpa using isNumber_natText_append n (by simp) (rfl : isFraction [] = true))

namespace ContextSegment

/-- An optional field without a value is skipped. -/
def tree (s : ContextSegment) : JsonTree :=
  .object (present fieldNames
    [some (.number (natText s.ordinal)), some (.string s.role.name), some (.string s.source.name),
      some (.string s.content), s.toolName.map .string, s.attachmentId.map .string])

lemma spellsOption_map (o : Option Str) : SpellsOption o (o.map .string) := by
  cases o with
  | none => exact .missing
  | some s => exact .string s

lemma spells_tree {s : ContextSegment} (h : s.ordinal < 2 ^ 32) : s.Spells s.tree :=
  .fields spellsStruct_present (spellsUnsigned_natText h) .name .name .string
    (spellsOption_map s.toolName) (spellsOption_map s.attachmentId)

lemma wellFormed_tree (s : ContextSegment) : WellFormed s.tree := by
  refine wellFormed_present fun j hj => ?_
  simp only [List.mem_cons, Option.some.injEq, List.not_mem_nil, or_false] at hj
  rcases hj with rfl | rfl | rfl | rfl | hj | hj
  · exact wellFormed_unsigned _
  · exact .string _
  · exact .string _
  · exact .string _
  · obtain ⟨t, -, rfl⟩ := Option.map_eq_some_iff.mp hj.symm
    exact .string t
  · obtain ⟨t, -, rfl⟩ := Option.map_eq_some_iff.mp hj.symm
    exact .string t

end ContextSegment

namespace ContextAttachment

def tree (a : ContextAttachment) : JsonTree :=
  .object (present fieldNames
    [some (.string a.attachmentId), some (.string a.mediaType),
      some (.number (natText a.byteLength)), some (.string a.sha256)])

lemma spells_tree {a : ContextAttachment} (h : a.byteLength < 2 ^ 64) : a.Spells a.tree :=
  .fields spellsStruct_present .string .string (spellsUnsigned_natText h) .string

lemma wellFormed_tree (a : ContextAttachment) : WellFormed a.tree := by
  refine wellFormed_present fun j hj => ?_
  simp only [List.mem_cons, Option.some.injEq, List.not_mem_nil, or_false] at hj
  rcases hj with rfl | rfl | rfl | rfl
  · exact .string _
  · exact .string _
  · exact wellFormed_unsigned _
  · exact .string _

end ContextAttachment

namespace ModelContextEnvelope

def tree (e : ModelContextEnvelope) : JsonTree :=
  .object (present fieldNames (e.texts.map (some ∘ JsonTree.string) ++
    [some (writeVec ContextSegment.tree e.segments),
      some (writeVec ContextAttachment.tree e.attachments), some (.string e.contextHash)]))

/-- The numbers are of the types of their fields. -/
structure Fits (e : ModelContextEnvelope) : Prop where
  ordinals : ∀ s ∈ e.segments, s.ordinal < 2 ^ 32
  byteLengths : ∀ a ∈ e.attachments, a.byteLength < 2 ^ 64

lemma spellsVec_writeVec {α : Type} {spells : α → JsonTree → Prop} {write : α → JsonTree}
    {l : List α} (h : ∀ a ∈ l, spells a (write a)) : SpellsVec spells l (writeVec write l) := by
  refine .array ?_
  rw [List.forall₂_map_right_iff]
  exact List.forall₂_same.mpr h

lemma spells_tree {e : ModelContextEnvelope} (h : e.Fits) : e.Spells e.tree :=
  .fields spellsStruct_present
    (spellsVec_writeVec fun s hs => ContextSegment.spells_tree (h.ordinals s hs))
    (spellsVec_writeVec fun a ha => ContextAttachment.spells_tree (h.byteLengths a ha)) (.string _)

lemma wellFormed_tree (e : ModelContextEnvelope) : WellFormed e.tree := by
  refine wellFormed_present fun j hj => ?_
  rcases List.mem_append.mp hj with hj | hj
  · obtain ⟨t, -, heq⟩ := List.mem_map.mp hj
    obtain rfl := Option.some.inj heq
    exact .string t
  · simp only [List.mem_cons, Option.some.injEq, List.not_mem_nil, or_false] at hj
    rcases hj with rfl | rfl | rfl
    · exact wellFormed_writeVec fun s _ => s.wellFormed_tree
    · exact wellFormed_writeVec fun a _ => a.wellFormed_tree
    · exact .string _

/-- A context with one segment of each shape and an attachment. -/
def sampleContext : ModelContextEnvelope where
  schemaVersion := modelContextSchemaVersion
  sessionId := "s"
  runId := "r"
  principalId := "fp"
  providerId := "groq"
  modelId := "llama"
  policyVersion := "v1"
  policyHash := "p"
  providerContextHash := "c"
  systemPromptHash := "i"
  toolSchemaHash := "t"
  workspaceManifestHash := "w"
  segments := [⟨0, .user, .externalUser, "say \"hi\"", none, none⟩,
    ⟨1, .toolResult, .toolResult, "\n", some "shell", some "a"⟩]
  attachments := [⟨"a", "text/plain", 18446744073709551615, "d"⟩]
  contextHash := "h"

end ModelContextEnvelope

end GovSec
