import Mathlib
import GovSec.ActionEnvelope

/-!
What the classification says about the locator and about each string inside the arguments.

The searchable text joins them with newlines. A substring or a word of one of them is one of
the whole text, so a risk that one string shows on its own is always found. A path component
may run over a seam, so a `..` is found exactly when it stands away from the seams.
-/

namespace GovSec.ActionEnvelope

open GovSec.Lib.Text

variable (P : Platform)

/-- The locator and the strings and keys of the arguments, in the order of the search. -/
def searchedStrings (e : ActionEnvelope) : List Str := e.resource.locator :: e.arguments.strings

variable {P} {e e₀ : ActionEnvelope}

lemma mem_searchedStrings {s : Str} :
    s ∈ searchedStrings e ↔ s = e.resource.locator ∨ Value.Occurs s e.arguments := by
  simp [searchedStrings, Value.mem_strings_iff]

/-- The searchable text is the lower-cased strings, one a line. -/
lemma searchable_eq : searchable P e = joinWith '\n' ((searchedStrings e).map P.toLowercase) := by
  rw [searchable, Value.collectJsonStrings_eq, append_flatMap_eq_joinWith, searchedStrings,
    List.map_cons]

lemma infix_searchable {s : Str} (hs : s ∈ searchedStrings e) :
    P.toLowercase s <:+: searchable P e := by
  rw [searchable_eq]
  exact infix_joinWith (List.mem_map_of_mem hs)

/-! ### Risks of a single string -/

/-- What a string satisfies on its own, the searchable text satisfies. -/
def Survives (P : Platform) (pred : Str → Bool) : Prop :=
  ∀ (e : ActionEnvelope), ∀ s ∈ searchedStrings e,
    pred (P.toLowercase s) = true → pred (searchable P e) = true

lemma survives_of_mono {pred : Str → Bool}
    (h : ∀ s t, s <:+: t → pred s = true → pred t = true) : Survives P pred :=
  fun _ _ hs => h _ _ (infix_searchable hs)

lemma survives_containsAny (pats : List Str) : Survives P (containsAny · pats) :=
  survives_of_mono fun _ _ => containsAny_mono

lemma survives_referencesProtectedWriteResource :
    Survives P referencesProtectedWriteResource := by
  intro e s hs h
  simp only [referencesProtectedWriteResource, Bool.or_eq_true] at h ⊢
  rcases h with h | h
  · exact .inl (containsAny_mono (replaceChar_isInfix (infix_searchable hs)) h)
  · obtain ⟨w, hw, hp⟩ := List.any_eq_true.mp h
    refine .inr (List.any_eq_true.mpr ⟨w, ?_, hp⟩)
    -- the newline is no backslash, and it is white space
    rw [searchable_eq, normalizeSlashes, replaceChar_joinWith (by decide)]
    exact mem_words_joinWith (by decide) (List.mem_map_of_mem (List.mem_map_of_mem hs)) hw

lemma survives_containsRemoteCodeExecution : Survives P containsRemoteCodeExecution := by
  refine survives_of_mono fun s t hst h => ?_
  have hmono : ∀ {pat : Str}, contains s pat = true → contains t pat = true := contains_mono hst
  simp only [containsRemoteCodeExecution, Bool.or_eq_true, Bool.and_eq_true] at h ⊢
  rcases h with (⟨hd, hp⟩ | h) | h
  · exact .inl (.inl ⟨hd.imp hmono hmono, hp.imp hmono hmono⟩)
  · exact .inl (.inr (hmono h))
  · exact .inr (hmono h)

lemma survives_containsBrowserScriptExecution : Survives P containsBrowserScriptExecution := by
  refine survives_of_mono fun s t hst h => ?_
  simp only [containsBrowserScriptExecution, Bool.or_eq_true] at h ⊢
  exact h.imp (Or.imp (contains_mono hst) (contains_mono hst)) (contains_mono hst)

/-- The predicates that are tested for a tool, with their classes. -/
def selfRisks (tool : KnownTool) : List ((Str → Bool) × ActionRiskClass) :=
  (referencesCredentials, .credentialAccess) ::
    match tool with
    | .write | .edit | .applyPatch =>
      [(referencesProtectedWriteResource, .protectedResourceMutation)]
    | .exec | .bash | .heartbeat =>
      [(containsDestructiveShell, .destructiveShell),
        (containsPrivilegeEscalation, .privilegeEscalation),
        (containsRemoteCodeExecution, .remoteCodeExecution)]
    | .browser => [(containsBrowserScriptExecution, .browserScriptExecution)]
    | _ => []

lemma survives_of_mem_selfRisks {tool : KnownTool} {pred : Str → Bool} {risk : ActionRiskClass}
    (h : (pred, risk) ∈ selfRisks tool) : Survives P pred := by
  have hall : pred ∈ [referencesCredentials, referencesProtectedWriteResource,
      containsDestructiveShell, containsPrivilegeEscalation, containsRemoteCodeExecution,
      containsBrowserScriptExecution] := by
    cases tool <;> simp [selfRisks] at h <;> grind
  simp only [List.mem_cons, List.not_mem_nil, or_false] at hall
  rcases hall with rfl | rfl | rfl | rfl | rfl | rfl
  · exact survives_containsAny _
  · exact survives_referencesProtectedWriteResource
  · exact survives_containsAny _
  · exact survives_containsAny _
  · exact survives_containsRemoteCodeExecution
  · exact survives_containsBrowserScriptExecution

lemma mem_deniedRisks_of_selfRisk {tool : KnownTool} {pred : Str → Bool} {risk : ActionRiskClass}
    (arguments : Value) (h : (pred, risk) ∈ selfRisks tool) {t : Str} (ht : pred t = true) :
    risk ∈ deniedRisks tool arguments t := by
  rw [mem_deniedRisks, denyTests]
  cases tool
  all_goals
    simp only [selfRisks, List.mem_cons, Prod.mk.injEq, List.not_mem_nil, or_false] at h
    casesm* _ ∨ _, _ ∧ _
    all_goals
      subst_vars
      simp [ht]

/-- **No string hides a risk.** When the locator, or a string or key anywhere in the arguments,
satisfies on its own a predicate that is tested for the tool, the envelope is denied with that
class. -/
theorem evaluateStrict_denies_selfRisk (hseal : «seal» P e₀ = .ok e)
    (htool : KnownTool.fromName e.toolName ≠ .unknown) {s : Str}
    (hs : s = e.resource.locator ∨ Value.Occurs s e.arguments)
    {pred : Str → Bool} {risk : ActionRiskClass}
    (happ : (pred, risk) ∈ selfRisks (KnownTool.fromName e.toolName))
    (hpred : pred (P.toLowercase s) = true) :
    ∃ risks, evaluateStrict P e = .ok ⟨.deny, risks⟩ ∧ risk ∈ risks := by
  have hsearch : pred (searchable P e) = true :=
    survives_of_mem_selfRisks happ e s (mem_searchedStrings.mpr hs) hpred
  have hmem := mem_deniedRisks_of_selfRisk e.arguments happ hsearch
  have hdeny := (evaluateStrict_of_known (verify_of_seal hseal) htool).1
    (List.ne_nil_of_mem hmem)
  exact ⟨_, hdeny, mem_deduplicateRisks.mpr hmem⟩

/-! ### Path components -/

/-- A string has a `..` between two slashes of either kind, or at one of its ends. -/
def HasDotDot (P : Platform) (s : Str) : Prop :=
  dotDot ∈ split '/' (normalizeSlashes (P.toLowercase s))

/-- A `..` of one of the searched strings that does not touch a neighbouring string: it is not
the first component of a string after another one, nor the last of a string before another. -/
def HasFreeDotDot (P : Platform) (e : ActionEnvelope) : Prop :=
  ∃ pre s post, searchedStrings e = pre ++ s :: post ∧
    dotDot ∈ freePieces '/' pre.isEmpty post.isEmpty (normalizeSlashes (P.toLowercase s))

/-- One of the other tests for a deny class applies. -/
def HasOtherRisk (P : Platform) (e : ActionEnvelope) : Prop :=
  ∃ risk ≠ ActionRiskClass.pathTraversal,
    (true, risk) ∈ denyTests (KnownTool.fromName e.toolName) e.arguments (searchable P e)

/-- The traversal test on the joined text finds the free `..` components. -/
lemma containsPathTraversal_searchable :
    containsPathTraversal (searchable P e) = true ↔ HasFreeDotDot P e := by
  have hne : ((searchedStrings e).map P.toLowercase).map normalizeSlashes ≠ [] := by
    simp [searchedStrings]
  have hsplit := mem_split_joinWith (by decide : '\n' ≠ '/') (by decide : '\n' ∉ dotDot) hne
  rw [containsPathTraversal, searchable_eq, normalizeSlashes, replaceChar_joinWith (by decide),
    List.any_eq_true]
  simp only [decide_eq_true_eq, exists_eq_right]
  rw [show replaceChar '\\' '/' = normalizeSlashes from rfl, hsplit]
  constructor
  · rintro ⟨pre, t, post, heq, hd⟩
    rw [List.map_map] at heq
    obtain ⟨pre', rest, hsp, rfl, hrest⟩ := List.map_eq_append_iff.mp heq
    obtain ⟨s, post', rfl, rfl, rfl⟩ := List.map_eq_cons_iff.mp hrest
    exact ⟨pre', s, post', hsp, by simpa using hd⟩
  · rintro ⟨pre, s, post, heq, hd⟩
    refine ⟨(pre.map P.toLowercase).map normalizeSlashes, _,
      (post.map P.toLowercase).map normalizeSlashes, ?_, by simpa using hd⟩
    rw [heq, List.map_append, List.map_append, List.map_cons, List.map_cons]

lemma evaluateStrict_deny_iff (hseal : «seal» P e₀ = .ok e)
    (htool : KnownTool.fromName e.toolName ≠ .unknown) :
    (∃ risks, evaluateStrict P e = .ok ⟨.deny, risks⟩) ↔
      HasFreeDotDot P e ∨ HasOtherRisk P e := by
  have hspec := evaluateStrict_of_known (verify_of_seal hseal) htool
  have hrisks : deniedRisks (KnownTool.fromName e.toolName) e.arguments (searchable P e) ≠ [] ↔
      HasFreeDotDot P e ∨ HasOtherRisk P e := by
    rw [← containsPathTraversal_searchable]
    constructor
    · intro hne
      obtain ⟨risk, h⟩ := List.exists_mem_of_ne_nil _ hne
      rw [mem_deniedRisks] at h
      by_cases hr : risk = .pathTraversal
      · subst hr
        exact .inl (by simpa [denyTests] using h)
      · exact .inr ⟨risk, hr, h⟩
    · rintro (h | ⟨risk, -, h⟩)
      · exact List.ne_nil_of_mem (mem_deniedRisks.mpr
          (show (true, .pathTraversal) ∈ _ by simp [denyTests, h]))
      · exact List.ne_nil_of_mem (mem_deniedRisks.mpr h)
  rw [← hrisks]
  constructor
  · rintro ⟨risks, h⟩ hnil
    obtain ⟨d, hd, hne⟩ := hspec.2 hnil
    rw [hd] at h
    exact hne (congrArg (·.disposition) (Except.ok.inj h))
  · exact fun hne => ⟨_, hspec.1 hne⟩

/-- Some searched string has a `..` component on its own. -/
def SomeDotDot (P : Platform) (e : ActionEnvelope) : Prop :=
  ∃ s, (s = e.resource.locator ∨ Value.Occurs s e.arguments) ∧ HasDotDot P s

/-- **When a `..` component is denied.** An envelope with a `..` component in some searched
string is denied exactly when such a component stands free of the neighbouring strings, or
when another deny class applies. -/
theorem evaluateStrict_denies_dotDot_iff (hseal : «seal» P e₀ = .ok e)
    (htool : KnownTool.fromName e.toolName ≠ .unknown) :
    (SomeDotDot P e → ∃ risks, evaluateStrict P e = .ok ⟨.deny, risks⟩) ↔
      (SomeDotDot P e → HasFreeDotDot P e ∨ HasOtherRisk P e) :=
  imp_congr_right fun _ => evaluateStrict_deny_iff hseal htool

/-! ### Two envelopes -/

/-- An envelope with nothing in it but a tool, a locator and arguments. -/
def bareEnvelope (toolName locator : Str) (arguments : Value) : ActionEnvelope where
  schemaVersion := actionEnvelopeSchemaVersion
  toolName
  arguments
  resource := ⟨"file", locator⟩
  principalId := "p"
  sessionId := "s"
  runId := "r"
  toolCallId := "c"
  policyVersion := "v"
  policyHash := List.replicate 64 'a'
  contextHash := List.replicate 64 'b'
  actionHash := []

/-- A command two levels down in the arguments. -/
def nestedCommand : ActionEnvelope :=
  bareEnvelope "bash" "job" (.object [("steps", .array [.object [("run", .string "Sudo id")]])])

/-- The argument `path` is `..` and nothing follows it. -/
def seamEnvelope : ActionEnvelope := bareEnvelope "read" "foo" (.object [("path", .string "..")])

theorem evaluateStrict_denies_selfRisk_nestedCommand :
    ∃ e risks, «seal» silentPlatform nestedCommand = .ok e ∧
      evaluateStrict silentPlatform e = .ok ⟨.deny, risks⟩ ∧ .privilegeEscalation ∈ risks := by
  obtain ⟨e, he⟩ : ∃ e, «seal» silentPlatform nestedCommand = .ok e := ⟨_, rfl⟩
  obtain ⟨hash, rfl⟩ := eq_of_seal he
  have hocc : Value.Occurs "Sudo id" nestedCommand.arguments :=
    .entry (List.mem_singleton.mpr rfl)
      (.element (List.mem_singleton.mpr rfl) (.entry (List.mem_singleton.mpr rfl) .string))
  have htool : KnownTool.fromName nestedCommand.toolName ≠ .unknown := by decide
  have happ : (containsPrivilegeEscalation, .privilegeEscalation) ∈
      selfRisks (KnownTool.fromName nestedCommand.toolName) := by
    simp [selfRisks, nestedCommand, bareEnvelope, KnownTool.fromName]
  obtain ⟨risks, hrisks, hmem⟩ :=
    evaluateStrict_denies_selfRisk he htool (.inr hocc) happ (by decide)
  exact ⟨_, risks, he, hrisks, hmem⟩

lemma evaluateStrict_seamEnvelope (h : «seal» P seamEnvelope = .ok e) :
    SomeDotDot P e ∧ evaluateStrict P e = .ok .allowed := by
  have hv := verify_of_seal h
  obtain ⟨hash, rfl⟩ := eq_of_seal h
  constructor
  · refine ⟨"..", .inr (.entry (List.mem_singleton.mpr rfl) .string), ?_⟩
    have hnorm : normalizeSlashes (P.toLowercase "..") = dotDot := rfl
    rw [HasDotDot, hnorm]
    decide
  · have htool : KnownTool.fromName seamEnvelope.toolName = .read := by decide
    have htext : searchable P { seamEnvelope with actionHash := hash } = "foo\npath\n.." := rfl
    have hrisks : deniedRisks .read seamEnvelope.arguments "foo\npath\n.." = [] := by decide
    simp only [evaluateStrict, hv, htool, htext, hrisks]
    rfl

/-- **A `..` at a seam is allowed**, on every platform. -/
theorem not_evaluateStrict_denies_dotDot : ¬ ∃ P : Platform, ∀ e₀ e, «seal» P e₀ = .ok e →
    KnownTool.fromName e.toolName ≠ .unknown → SomeDotDot P e →
    ∃ risks, evaluateStrict P e = .ok ⟨.deny, risks⟩ := by
  rintro ⟨P, hclaim⟩
  obtain ⟨e, he⟩ : ∃ e, «seal» P seamEnvelope = .ok e := ⟨_, rfl⟩
  obtain ⟨hdots, hallow⟩ := evaluateStrict_seamEnvelope he
  obtain ⟨hash, rfl⟩ := eq_of_seal he
  have htool : KnownTool.fromName seamEnvelope.toolName ≠ .unknown := by decide
  obtain ⟨risks, hdeny⟩ := hclaim _ _ he htool hdots
  rw [hallow] at hdeny
  cases hdeny

theorem evaluateStrict_denies_dotDot_iff_seam :
    ∃ e, «seal» silentPlatform seamEnvelope = .ok e ∧
      ((SomeDotDot silentPlatform e →
          ∃ risks, evaluateStrict silentPlatform e = .ok ⟨.deny, risks⟩) ↔
        (SomeDotDot silentPlatform e →
          HasFreeDotDot silentPlatform e ∨ HasOtherRisk silentPlatform e)) := by
  obtain ⟨e, he⟩ : ∃ e, «seal» silentPlatform seamEnvelope = .ok e := ⟨_, rfl⟩
  have htool : KnownTool.fromName seamEnvelope.toolName ≠ .unknown := by decide
  refine ⟨e, he, evaluateStrict_denies_dotDot_iff he ?_⟩
  obtain ⟨hash, rfl⟩ := eq_of_seal he
  exact htool

end GovSec.ActionEnvelope
