import GovSec.MemoryLevels
import GovSec.OverWatch
import GovSec.Corridor

/-!
Violation classes between the layers that report them and the memory that weighs them.

A layer joins the classes of its violations with bars, and the memory looks the joined text up in
its table of amplifiers. An amplified class is found there only when the signal has no other.
-/

namespace GovSec

open GovSec.Lib.Text GovSec.Lib.Maps GovSec.Lib.Runs

namespace SessionMemory

variable {signal : GovernanceSignal} {cls vc : Str} {classes : List Str}

/-! ### What a memory adds for a class -/

/-- The classes that a signal reports. -/
def classesOf (signal : GovernanceSignal) : List Str :=
  match signal.violationClass with
  | some vc => split '|' vc
  | none => []

/-- The memory has an amplifier for the class. -/
def Amplified (cls : Str) : Prop := cls ∈ threatAmplifiers.map (·.1)

instance : Decidable (Amplified cls) := inferInstanceAs (Decidable (_ ∈ _))

/-- Every memory that takes in the signal adds at least the amplifier of the class to what is left
of its threat. -/
def Amplifies (signal : GovernanceSignal) (cls : Str) : Prop :=
  ∀ now classification config m,
    m.cumulativeThreat * config.decayFactor + threatAmplifier (some cls) ≤
      (ingestSignal now signal classification config m).2.cumulativeThreat

/-- Every amplified class of the signal counts. -/
def FullyAmplified (signal : GovernanceSignal) : Prop :=
  ∀ cls ∈ classesOf signal, Amplified cls → Amplifies signal cls

/-- No class of the signal stands beside an amplified one. -/
def Unmixed (classes : List Str) : Prop := ∀ cls ∈ classes, Amplified cls → classes = [cls]

lemma severityWeight_nonneg (s : Severity) : 0 ≤ severityWeight s := by
  cases s <;> norm_num [severityWeight]

lemma severityWeight_le (s : Severity) : severityWeight s ≤ 1.5 := by
  cases s <;> norm_num [severityWeight]

/-- The bonuses only add to the weight. -/
lemma le_signalWeight (classification : RequestClassification) (config : MemoryConfig)
    (m : SessionMemory) : signal.confidence * severityWeight signal.severity ≤
      signalWeight signal classification config m := by
  have hprobes : (0 : ℚ) ≤ if config.boundaryProbeLimit < m.boundaryProbes then
      0.1 * ((m.boundaryProbes - config.boundaryProbeLimit : ℕ) : ℚ) else 0 := by
    split <;> positivity
  have hclaim : (0 : ℚ) ≤ if classification = .authorityClaim then 0.2 else 0 := by
    split <;> norm_num
  have hextraction : (0 : ℚ) ≤ if 1 < m.extractionAttempts then
      0.15 * (m.extractionAttempts : ℚ) else 0 := by
    split <;> positivity
  unfold signalWeight
  linarith

/-- A new memory gives no bonus to a benign turn. -/
lemma signalWeight_new :
    signalWeight signal .benign .default (countPattern .benign (new 0 [])) =
      signal.confidence * severityWeight signal.severity := by
  simp [signalWeight, countPattern, new, MemoryConfig.default]

lemma amplifies_iff : Amplifies signal cls ↔ threatAmplifier (some cls) ≤
    signal.confidence * severityWeight signal.severity + threatAmplifier signal.violationClass := by
  have hthreat (now : DateTime) (classification : RequestClassification) (config : MemoryConfig)
      (m : SessionMemory) :
      (ingestSignal now signal classification config m).2.cumulativeThreat =
        m.threatWith signal classification config :=
    after_cumulativeThreat (e := ⟨now, signal, classification⟩)
  constructor
  · intro h
    have hnew := h 0 .benign .default (new 0 [])
    rw [hthreat, threatWith, signalWeight_new] at hnew
    linarith
  · intro h now classification config m
    have hweight : _ ≤ signalWeight signal classification config (countPattern classification m) :=
      le_signalWeight classification config (countPattern classification m)
    rw [hthreat, threatWith]
    linarith

/-- No amplifier is for a text with a bar. -/
lemma threatAmplifier_of_bar (h : '|' ∈ vc) : threatAmplifier (some vc) = 0 := by
  have hkeys : ∀ p ∈ threatAmplifiers, '|' ∉ p.1 := by decide +kernel
  have hfind : threatAmplifiers.find? (·.1 = vc) = none := by
    rw [List.find?_eq_none]
    intro p hp hvc
    exact hkeys p hp (of_decide_eq_true hvc ▸ h)
  simp [threatAmplifier, hfind]

lemma four_le_threatAmplifier (h : Amplified cls) : 4 ≤ threatAmplifier (some cls) := by
  have hall : ∀ cls ∈ threatAmplifiers.map (·.1), 4 ≤ threatAmplifier (some cls) := by
    decide +kernel
  exact hall cls h

lemma joinWith_eq_iff {sep : Char} (hne : classes ≠ []) (hsep : ∀ c ∈ classes, sep ∉ c)
    (hcls : sep ∉ cls) : joinWith sep classes = cls ↔ classes = [cls] := by
  constructor
  · intro h
    exact joinWith_injOn hsep (by simpa using hcls) hne (by simp)
      (h.trans (joinWith_singleton sep cls).symm)
  · rintro rfl
    exact joinWith_singleton sep cls

/-- **The classes of a joined signal count** exactly when no other class stands beside an
amplified one. -/
theorem fullyAmplified_iff (hconf : 0 ≤ signal.confidence ∧ signal.confidence ≤ 1)
    (hvc : signal.violationClass = some (joinWith '|' classes)) (hne : classes ≠ [])
    (hbar : ∀ c ∈ classes, '|' ∉ c) : FullyAmplified signal ↔ Unmixed classes := by
  have hclasses : classesOf signal = classes := by
    simp only [classesOf, hvc]
    exact List.splitOn_intercalate '|' hbar hne
  unfold FullyAmplified Unmixed
  rw [hclasses]
  refine forall₂_congr fun cls hcls => imp_congr_right fun hamp => ?_
  rw [amplifies_iff, hvc, ← joinWith_eq_iff hne hbar (hbar cls hcls)]
  have hweight := severityWeight_nonneg signal.severity
  constructor
  · intro h
    by_contra hother
    have hmixed : '|' ∈ joinWith '|' classes := by
      match classes, hne, hcls with
      | [c], _, hcls =>
        obtain rfl := List.mem_singleton.mp hcls
        exact absurd (joinWith_singleton '|' cls) hother
      | s :: t :: ts, _, _ => exact sep_mem_joinWith '|' s t ts
    rw [threatAmplifier_of_bar hmixed] at h
    have hfour := four_le_threatAmplifier hamp
    have hle : signal.confidence * severityWeight signal.severity ≤ 1 * 1.5 :=
      mul_le_mul hconf.2 (severityWeight_le _) hweight zero_le_one
    norm_num at hle
    linarith
  · intro h
    rw [h]
    have := mul_nonneg hconf.1 hweight
    linarith

/-! ### The signal of a layer -/

section Layer

variable {P : Platform} {env : Supply} {crypto : CryptoEngine} {source : SignalSource}
  {direction : Direction} {sessionId payloadHash : Str} {f : Finding}

lemma fullyAmplified_clean : FullyAmplified
    (attachCrypto P env crypto (layerSignal source direction sessionId payloadHash none)).1 :=
  fun cls hcls => absurd hcls (by simp [classesOf, layerSignal])

lemma fullyAmplified_finding (hv : f.violation = joinWith '|' classes) (hne : classes ≠ [])
    (hbar : ∀ c ∈ classes, '|' ∉ c) : FullyAmplified
      (attachCrypto P env crypto (layerSignal source direction sessionId payloadHash (some f))).1 ↔
        Unmixed classes :=
  fullyAmplified_iff ⟨le_max_left _ _, max_le zero_le_one (min_le_left _ _)⟩ (congrArg some hv) hne
    hbar

end Layer

end SessionMemory

open SessionMemory

/-! ### OverWatch -/

namespace OverWatch

variable {P : Platform} {config : OverWatchConfig} {fp : SessionFingerprint} {payload : Str}
  {direction : Direction}

/-- A rule other than the one for denial of service finds a violation. -/
def OtherRule (config : OverWatchConfig) (fp : SessionFingerprint) (lower : Str)
    (direction : Direction) : Prop :=
  config.driftThreshold < fp.driftScore ∨ fp.toolChainSuspicious = true ∨
    5 < fp.violationCount "SUSPICION" ∨ 3 ≤ fp.violationCount "CMD_STYLE_INJ" ∨
    (2 ≤ fp.turnCount ∧ config.q09Threshold < fp.q09Total) ∨
    (direction = .outbound ∧ 0.6 < scoreHallucination lower) ∨ detectPoisoning lower = true

lemma mem_rule {holds : Bool} {violation ruleId : Str} {confidence : ℚ} {v : Violation} :
    v ∈ rule holds violation ruleId confidence ↔
      holds = true ∧ v = ⟨violation, ruleId, confidence⟩ := by
  cases holds <;> simp [rule]

/-- No class of OverWatch has a bar, and one is amplified. -/
lemma violation_class {v : Violation} (hv : v ∈ violations P config fp payload direction) :
    '|' ∉ v.violation ∧ (Amplified v.violation →
      v.violation = "RUNTIME_DOS" ∧ detectDos (toAsciiLowercase payload) = true) := by
  have hclasses : ∀ c ∈ (["CONVERSATION_DRIFT", "TOOL_CHAIN_ESCALATION",
      "MULTI_TURN_INJECTION_CAMPAIGN", "CMD_INJECTION_CAMPAIGN", "SEMANTIC_DRIFT_DIALECTICAL",
      "SEMANTIC_DRIFT_Q09_VELOCITY", "SEMANTIC_DRIFT_Q09_CAMPAIGN", "HALLUCINATION_DETECTED",
      "DATA_POISONING_INDICATOR"] : List Str), '|' ∉ c ∧ ¬ Amplified c := by decide +kernel
  have hother {c : Str} (hc : '|' ∉ c ∧ ¬ Amplified c) : '|' ∉ c ∧ (Amplified c →
      c = "RUNTIME_DOS" ∧ detectDos (toAsciiLowercase payload) = true) :=
    ⟨hc.1, fun h => absurd h hc.2⟩
  simp only [violations, List.mem_append, mem_rule, or_assoc] at hv
  rcases hv with ⟨-, rfl⟩ | ⟨-, rfl⟩ | ⟨-, rfl⟩ | ⟨-, rfl⟩ | ⟨-, rfl⟩ | ⟨-, rfl⟩ | ⟨-, rfl⟩ |
    ⟨-, rfl⟩ | ⟨-, rfl⟩ | ⟨hdos, rfl⟩
  · exact hother (hclasses _ (by simp))
  · exact hother (hclasses _ (by simp))
  · exact hother (hclasses _ (by simp))
  · exact hother (hclasses _ (by simp))
  · exact hother (hclasses _ (by simp))
  · exact hother (hclasses _ (by simp))
  · exact hother (hclasses _ (by simp))
  · exact hother (hclasses _ (by simp))
  · exact hother (hclasses _ (by simp))
  · exact ⟨by decide, fun _ => ⟨rfl, hdos⟩⟩

lemma rule_eq_nil {holds : Bool} {violation ruleId : Str} {confidence : ℚ} :
    rule holds violation ruleId confidence = [] ↔ holds = false := by
  cases holds <;> simp [rule]

variable (P config fp payload direction) in
/-- The violation for denial of service comes last, alone when no other rule finds one. -/
lemma violations_eq : ∃ others, violations P config fp payload direction =
      others ++ rule (detectDos (toAsciiLowercase payload)) "RUNTIME_DOS" "OW-DOS-001" 0.80 ∧
    (others = [] ↔ ¬ OtherRule config fp (P.toLowercase payload) direction) := by
  refine ⟨_, rfl, ?_⟩
  simp only [List.append_eq_nil_iff, rule_eq_nil, OtherRule, Bool.and_eq_false_iff,
    decide_eq_false_iff_not]
  grind

lemma unmixed_violations :
    Unmixed ((violations P config fp payload direction).map (·.violation)) ↔
      (detectDos (toAsciiLowercase payload) = true →
        ¬ OtherRule config fp (P.toLowercase payload) direction) := by
  obtain ⟨others, hvs, hothers⟩ := violations_eq P config fp payload direction
  rw [← hothers]
  constructor
  · intro h hdos
    rw [hvs, hdos, rule, if_pos rfl, List.map_append] at h
    simpa using h "RUNTIME_DOS" (by simp) (by decide +kernel)
  · intro h cls hcls hamp
    obtain ⟨v, hv, rfl⟩ := List.mem_map.mp hcls
    obtain ⟨hclass, hdos⟩ := (violation_class hv).2 hamp
    rw [hvs, h hdos, hdos, hclass]
    rfl

end OverWatch

/-! ### Corridor -/

/-- The finding joins classes of which no amplified one stands beside another. -/
def Finding.JoinsUnmixed (f : Finding) : Prop :=
  ∃ classes, f.violation = joinWith '|' classes ∧ classes ≠ [] ∧ (∀ c ∈ classes, '|' ∉ c) ∧
    Unmixed classes

lemma Finding.joinsUnmixed_of_single {f : Finding} (h : '|' ∉ f.violation) : f.JoinsUnmixed :=
  ⟨[f.violation], (joinWith_singleton '|' _).symm, by simp, by simpa using h, by simp [Unmixed]⟩

namespace Corridor

variable {P : Platform} {evaluator : Option ConstitutionalEvaluator} {direction : Direction}
  {payload : Str}

/-- The classes of the constitutional violations. -/
def constitutionClasses : List Str :=
  ["PROHIBITED_PATTERN", "PROHIBITED_CATEGORY", "PROHIBITED_OUTPUT", "DEFERRAL_VIOLATION",
    "TONE_VIOLATION"]

lemma category_mem_constitutionClasses {e : ConstitutionalEvaluator} {v : ConstitutionalViolation}
    (hv : v ∈ (e.evaluate P direction payload).violations) :
    v.category ∈ constitutionClasses := by
  have htone {on : Bool} {pattern ruleId description ref : Str}
      (h : v ∈ e.toneViolation P on pattern ruleId description ref payload) :
      v.category ∈ constitutionClasses := by
    unfold ConstitutionalEvaluator.toneViolation at h
    split at h
    · obtain rfl := List.mem_singleton.mp h
      simp [constitutionClasses]
    · cases h
  cases direction with
  | inbound =>
    rcases List.mem_append.mp hv with h | h
    · obtain ⟨p, -, rfl⟩ := List.mem_map.mp h
      simp [constitutionClasses]
    · obtain ⟨category, -, rfl⟩ := List.mem_map.mp h
      simp [constitutionClasses]
  | outbound =>
    rcases List.mem_append.mp hv with h | h
    · rcases List.mem_append.mp h with h | h
      · rcases List.mem_append.mp h with h | h
        · obtain ⟨p, -, rfl⟩ := List.mem_map.mp h
          simp [constitutionClasses]
        · obtain ⟨deferral, -, rfl⟩ := List.mem_map.mp h
          simp [constitutionClasses]
      · exact htone h
    · exact htone h

lemma joinsUnmixed_constitutionCheck {f : Finding}
    (h : constitutionCheck P evaluator direction payload = some f) : f.JoinsUnmixed := by
  have hclasses : ∀ c ∈ constitutionClasses, '|' ∉ c ∧ ¬ Amplified c := by decide +kernel
  obtain ⟨e, -, hf⟩ := Option.bind_eq_some_iff.mp h
  have hcategories : ∀ c ∈ ((e.evaluate P direction payload).violations.map (·.category)),
      '|' ∉ c ∧ ¬ Amplified c := by
    intro c hc
    obtain ⟨v, hv, rfl⟩ := List.mem_map.mp hc
    exact hclasses _ (category_mem_constitutionClasses hv)
  dsimp only at hf
  split at hf
  · cases hf
  · next v rest hvs =>
    obtain rfl := Option.some.inj hf
    exact ⟨_, rfl, by simp [hvs], fun c hc => (hcategories c hc).1,
      fun c hc hamp => absurd hamp (hcategories c hc).2⟩

/-- **No amplified class of Corridor stands beside another.** -/
theorem joinsUnmixed_finding :
    ∀ f, finding P evaluator direction payload = some f → f.JoinsUnmixed := by
  simp only [finding, Option.orElse_eq_orElse, Option.orElse_eq_or]
  refine Finding.of_or (fun f h => ?_) (Finding.of_or (fun f h => ?_) (Finding.of_or (fun f h => ?_)
    (Finding.of_or (fun f h => ?_) (Finding.of_or (fun f h => ?_) (fun f h => ?_)))))
  · unfold analyzeBase64 at h
    dsimp only at h
    split at h
    · cases h
    · obtain ⟨decoded, -, rfl⟩ := Option.map_eq_some_iff.mp h
      apply Finding.joinsUnmixed_of_single
      split <;> decide
  · unfold multiEncodingCheck at h
    split at h <;> cases h
    exact Finding.joinsUnmixed_of_single (by decide)
  · unfold metadataCheck at h
    split at h <;> cases h
    exact Finding.joinsUnmixed_of_single (by decide)
  · unfold promptChainCheck at h
    split at h <;> cases h
    exact Finding.joinsUnmixed_of_single (by decide)
  · exact joinsUnmixed_constitutionCheck h
  · obtain ⟨⟨violation, rule⟩, hclass, rfl⟩ := Option.map_eq_some_iff.mp h
    apply Finding.joinsUnmixed_of_single
    unfold classifyGovernanceSurface at hclass
    dsimp only at hclass
    split_ifs at hclass <;> cases hclass <;> decide

end Corridor

/-! ### Runs of both layers -/

namespace SessionMemory

/-- A call of OverWatch or of Corridor. -/
inductive Inspection
  | overWatch (env : Supply) (payload : Str) (direction : Direction) (sessionId : Str)
  | corridor (env : Supply) (payload : Str) (direction : Direction) (sessionId : Str)
      (evaluator : Option ConstitutionalEvaluator)
  | resetSession (sessionId : Str)

variable (P : Platform) {s : OverWatch × CryptoEngine} {os : List Inspection}

/-- OverWatch and the chain, with the signal of each call. -/
def inspections : System (OverWatch × CryptoEngine) Inspection (Option GovernanceSignal) :=
  ⟨fun s o => match o with
    | .overWatch env payload direction sessionId =>
      (OverWatch.evaluate P env s.2 s.1 payload direction sessionId).map some id
    | .corridor env payload direction sessionId evaluator =>
      let (signal, crypto) := Corridor.evaluate P env s.2 payload direction sessionId evaluator
      (some signal, s.1, crypto)
    | .resetSession sessionId => (none, s.1.resetSession sessionId, s.2)⟩

/-- Every amplified class of the signal that the call returns counts. -/
def ReturnsAmplified (s : OverWatch × CryptoEngine) (o : Inspection) : Prop :=
  ∀ signal, ((inspections P).step s o).1 = some signal → FullyAmplified signal

/-- A payload that OverWatch finds to deny service gives no other rule a violation. -/
def DosAlone (s : OverWatch × CryptoEngine) : Inspection → Prop
  | .overWatch _ payload direction sessionId =>
    let lower := P.toLowercase payload
    OverWatch.detectDos (toAsciiLowercase payload) = true →
      ¬ OverWatch.OtherRule s.1.config (((s.1.sessions.lookup sessionId).getD .new).observe lower)
        lower direction
  | _ => True

variable {P}

lemma returnsAmplified_iff (o : Inspection) : ReturnsAmplified P s o ↔ DosAlone P s o := by
  cases o with
  | overWatch env payload direction sessionId =>
    have hsignal : ((inspections P).step s (.overWatch env payload direction sessionId)).1 =
        some (OverWatch.evaluate P env s.2 s.1 payload direction sessionId).1 := rfl
    simp only [ReturnsAmplified, DosAlone, hsignal, Option.some.injEq, forall_eq']
    rw [← OverWatch.unmixed_violations (P := P), OverWatch.evaluate]
    dsimp only
    cases hvs : OverWatch.violations P s.1.config _ payload direction with
    | nil => exact iff_of_true fullyAmplified_clean (by simp [Unmixed])
    | cons v vs =>
      refine fullyAmplified_finding rfl (by simp) fun c hc => ?_
      obtain ⟨v', hv', rfl⟩ := List.mem_map.mp hc
      exact (OverWatch.violation_class (hvs ▸ hv')).1
  | corridor env payload direction sessionId evaluator =>
    have hsignal : ((inspections P).step s
        (.corridor env payload direction sessionId evaluator)).1 =
        some (Corridor.evaluate P env s.2 payload direction sessionId evaluator).1 := rfl
    simp only [ReturnsAmplified, DosAlone, hsignal, Option.some.injEq, forall_eq', iff_true]
    rw [Corridor.evaluate, Corridor.evaluateBuilder]
    cases hf : Corridor.finding P evaluator direction payload with
    | none => exact fullyAmplified_clean
    | some f =>
      obtain ⟨classes, hv, hne, hbar, hunmixed⟩ := Corridor.joinsUnmixed_finding f hf
      exact (fullyAmplified_finding hv hne hbar).mpr hunmixed
  | resetSession sessionId =>
    exact iff_of_true (fun _ h => nomatch h) trivial

/-- A payload that denies service and poisons data. -/
def poisonedLoop : Str := "<!-- ignore infinitely recursive"

end SessionMemory

end GovSec
