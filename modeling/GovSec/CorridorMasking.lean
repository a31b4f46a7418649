import GovSec.Corridor

/-!
What the first finding of Corridor hides.

The checks report with fixed severities, in an order that is not theirs, and the severity of the
constitution grows with the number of its violations. A content that merely decodes hides
everything after it, an encoding three violations of the constitution, a prompt chain two.
-/

namespace GovSec

open GovSec.Lib.Text

namespace Corridor

variable (P : Platform) (evaluator : Option ConstitutionalEvaluator) (direction : Direction)
  (payload : Str)

/-! ### The checks and what they say -/

/-- The checks of `evaluate` in their order. -/
def checks : List (Option Finding) :=
  [analyzeBase64 P payload, multiEncodingCheck P payload, metadataCheck P payload,
    promptChainCheck P direction payload, constitutionCheck P evaluator direction payload,
    governanceSurfaceCheck payload]

/-- The text that the payload encodes, where Corridor decodes it. -/
def decodedText : Option Str :=
  let trimmed := trim payload
  if utf8Len trimmed < 64 ∨ utf8Len trimmed % 4 ≠ 0 then none else P.base64Text trimmed

/-- Layered encodings or markup. -/
def Encoded : Prop :=
  P.isMatch multiEncoding payload = true ∨ P.isMatch metadataInjection payload = true

def Chained : Prop := direction = .inbound ∧ P.isMatch promptChain payload = true

instance : Decidable (Encoded P payload) := inferInstanceAs (Decidable (_ ∨ _))
instance : Decidable (Chained P direction payload) := inferInstanceAs (Decidable (_ ∧ _))

/-- The number of constitutional violations. -/
def violationCount : ℕ :=
  (evaluator.map fun e => (e.evaluate P direction payload).violations.length).getD 0

/-- A decoded text is suspicious, or no other check matches. An encoding comes with at most two
constitutional violations, and a prompt chain alone with at most one. -/
def NothingHidden : Prop :=
  match decodedText P payload with
  | some decoded =>
    containsAny (P.toLowercase decoded) suspiciousPhrases = true ∨
      ¬ Encoded P payload ∧ ¬ Chained P direction payload ∧
        violationCount P evaluator direction payload = 0 ∧
        classifyGovernanceSurface payload = none
  | none =>
    (Encoded P payload → violationCount P evaluator direction payload ≤ 2) ∧
      (¬ Encoded P payload → Chained P direction payload →
        violationCount P evaluator direction payload ≤ 1)

/-- The signal is at least as severe as the verdict on the constitution and as every check that
matches. -/
def NoMasking (env : Supply) (crypto : CryptoEngine) (sessionId : Str) : Prop :=
  let severity := (evaluate P env crypto payload direction sessionId evaluator).1.severity
  (∀ e, evaluator = some e → (e.evaluate P direction payload).severity ≤ severity) ∧
    ∀ check ∈ checks P evaluator direction payload, ∀ f, check = some f → f.severity ≤ severity

variable {P evaluator direction payload}

lemma analyzeBase64_eq : analyzeBase64 P payload = (decodedText P payload).map fun decoded =>
    if containsAny (P.toLowercase decoded) suspiciousPhrases then
      ⟨"BASE64_ENCODED_INJECTION", "CORR-001", .critical, 0.95, "corridor/encoding_detection"⟩
    else ⟨"BASE64_CONTENT", "CORR-001-INFO", .low, 0.50, "corridor/encoding_detection"⟩ := by
  unfold analyzeBase64 decodedText
  dsimp only
  split <;> rfl

lemma evaluate_severity (e : ConstitutionalEvaluator) :
    (e.evaluate P direction payload).severity = (ConstitutionalEvaluator.severityOf
      (e.evaluate P direction payload).violations.length).1 := by
  cases direction <;> rfl

lemma reportSeverity_constitutionCheck :
    reportSeverity (constitutionCheck P evaluator direction payload) =
      (ConstitutionalEvaluator.severityOf (violationCount P evaluator direction payload)).1 := by
  cases evaluator with
  | none => rfl
  | some e =>
    simp only [constitutionCheck, Option.bind_some, violationCount, Option.map_some,
      Option.getD_some]
    cases hvs : (e.evaluate P direction payload).violations with
    | nil => rfl
    | cons v vs => exact (evaluate_severity e).trans (by rw [hvs])

/-! ### The severities of the other checks -/

lemma reportSeverity_multiEncodingCheck : reportSeverity (multiEncodingCheck P payload) =
    if P.isMatch multiEncoding payload then .high else .none := by
  unfold multiEncodingCheck
  split <;> rfl

lemma reportSeverity_metadataCheck : reportSeverity (metadataCheck P payload) =
    if P.isMatch metadataInjection payload then .high else .none := by
  unfold metadataCheck
  split <;> rfl

lemma reportSeverity_promptChainCheck :
    reportSeverity (promptChainCheck P direction payload) =
      if Chained P direction payload then .medium else .none := by
  unfold promptChainCheck
  split
  · next h => exact (if_pos h).symm
  · next h => exact (if_neg h).symm

lemma reportSeverity_governanceSurfaceCheck : reportSeverity (governanceSurfaceCheck payload) =
    if (classifyGovernanceSurface payload).isSome then .medium else .none := by
  unfold governanceSurfaceCheck
  cases classifyGovernanceSurface payload <;> rfl

lemma severityOf_eq_none {n : ℕ} : (ConstitutionalEvaluator.severityOf n).1 = .none ↔ n = 0 := by
  rcases n with _ | _ | _ | n <;> simp [ConstitutionalEvaluator.severityOf]

lemma medium_le_severityOf {n : ℕ} (h : n ≠ 0) :
    .medium ≤ (ConstitutionalEvaluator.severityOf n).1 := by
  rcases n with _ | _ | _ | n <;> simp +decide [ConstitutionalEvaluator.severityOf] at h ⊢

lemma severityOf_le_low {n : ℕ} : (ConstitutionalEvaluator.severityOf n).1 ≤ .low ↔ n = 0 := by
  rcases n with _ | _ | _ | n <;> simp +decide [ConstitutionalEvaluator.severityOf]

lemma severityOf_le_medium {n : ℕ} :
    (ConstitutionalEvaluator.severityOf n).1 ≤ .medium ↔ n ≤ 1 := by
  rcases n with _ | _ | _ | n <;> simp +decide [ConstitutionalEvaluator.severityOf]

lemma severityOf_le_high {n : ℕ} : (ConstitutionalEvaluator.severityOf n).1 ≤ .high ↔ n ≤ 2 := by
  rcases n with _ | _ | _ | n <;> simp +decide [ConstitutionalEvaluator.severityOf]

/-! ### What is hidden -/

/-- Every check is at most as severe as the signal. -/
lemma noMasking_iff {env : Supply} {crypto : CryptoEngine} {sessionId : Str} :
    NoMasking P evaluator direction payload env crypto sessionId ↔
      ∀ check ∈ checks P evaluator direction payload,
        reportSeverity check ≤ reportSeverity (finding P evaluator direction payload) := by
  have hsignal : (evaluate P env crypto payload direction sessionId evaluator).1.severity =
      reportSeverity (finding P evaluator direction payload) := severity_layerSignal _
  have hcheck (check : Option Finding) (s : Severity) :
      (∀ f, check = some f → f.severity ≤ s) ↔ reportSeverity check ≤ s := by
    cases check with
    | none => exact iff_of_true (fun _ h => nomatch h) (by cases s <;> decide)
    | some f => simp [reportSeverity]
  simp only [NoMasking, hsignal, hcheck]
  refine and_iff_right_of_imp fun h e he => ?_
  have hconst := h (constitutionCheck P evaluator direction payload) (by simp [checks])
  subst he
  rw [reportSeverity_constitutionCheck] at hconst
  rwa [evaluate_severity]

lemma ite_le_iff {p : Prop} [Decidable p] {s t : Severity} :
    (if p then s else .none) ≤ t ↔ (p → s ≤ t) := by
  split
  · next h => simp [h]
  · next h => exact iff_of_true (by cases t <;> decide) fun hp => absurd hp h

/-- Every check but the first is at most as severe as `s`. -/
def LaterAtMost (P : Platform) (evaluator : Option ConstitutionalEvaluator) (direction : Direction)
    (payload : Str) (s : Severity) : Prop :=
  (Encoded P payload → .high ≤ s) ∧ (Chained P direction payload → .medium ≤ s) ∧
    (ConstitutionalEvaluator.severityOf (violationCount P evaluator direction payload)).1 ≤ s ∧
    ((classifyGovernanceSurface payload).isSome = true → .medium ≤ s)

lemma forall_checks_iff {s : Severity} :
    (∀ check ∈ checks P evaluator direction payload, reportSeverity check ≤ s) ↔
      reportSeverity (analyzeBase64 P payload) ≤ s ∧
        LaterAtMost P evaluator direction payload s := by
  simp only [checks, List.forall_mem_cons, List.not_mem_nil, false_imp_iff, implies_true, and_true,
    reportSeverity_multiEncodingCheck, reportSeverity_metadataCheck,
    reportSeverity_promptChainCheck, reportSeverity_constitutionCheck,
    reportSeverity_governanceSurfaceCheck, ite_le_iff, LaterAtMost, Encoded, or_imp, and_assoc]

/-- The severity of what the checks after the first find. -/
lemma reportSeverity_finding (h : analyzeBase64 P payload = none) :
    reportSeverity (finding P evaluator direction payload) =
      if Encoded P payload then .high
      else if Chained P direction payload then .medium
      else if violationCount P evaluator direction payload = 0 then
        if (classifyGovernanceSurface payload).isSome then .medium else .none
      else
        (ConstitutionalEvaluator.severityOf (violationCount P evaluator direction payload)).1 := by
  have hmulti : ∀ f, multiEncodingCheck P payload = some f → f.severity ≠ .none := by
    intro f hf
    unfold multiEncodingCheck at hf
    split at hf <;> cases hf
    decide
  have hmeta : ∀ f, metadataCheck P payload = some f → f.severity ≠ .none := by
    intro f hf
    unfold metadataCheck at hf
    split at hf <;> cases hf
    decide
  have hchain : ∀ f, promptChainCheck P direction payload = some f → f.severity ≠ .none := by
    intro f hf
    unfold promptChainCheck at hf
    split at hf <;> cases hf
    decide
  rw [finding, h]
  simp only [Option.orElse_eq_orElse, Option.orElse_eq_or, Option.none_or]
  rw [reportSeverity_or hmulti, reportSeverity_or hmeta, reportSeverity_or hchain,
    reportSeverity_or fun _ => constitutionCheck_severity_ne_none,
    reportSeverity_multiEncodingCheck, reportSeverity_metadataCheck,
    reportSeverity_promptChainCheck, reportSeverity_constitutionCheck,
    reportSeverity_governanceSurfaceCheck]
  simp only [severityOf_eq_none, Encoded]
  by_cases hm : P.isMatch multiEncoding payload = true
  · simp [hm]
  by_cases hd : P.isMatch metadataInjection payload = true
  · simp [hm, hd]
  by_cases hc : Chained P direction payload
  · simp [hm, hd, hc]
  · simp [hm, hd, hc]

/-- **When Corridor hides nothing.** The signal is at least as severe as the verdict on the
constitution and as every matching check exactly when a decoded text is suspicious or alone, an
encoding comes with at most two constitutional violations and a prompt chain with at most one. -/
theorem noMasking_iff_nothingHidden {env : Supply} {crypto : CryptoEngine} {sessionId : Str} :
    NoMasking P evaluator direction payload env crypto sessionId ↔
      NothingHidden P evaluator direction payload := by
  have htop (s : Severity) : s ≤ .critical := by cases s <;> decide
  have hanalyze : analyzeBase64 P payload = _ := analyzeBase64_eq
  rw [noMasking_iff, forall_checks_iff, NothingHidden]
  cases hdecoded : decodedText P payload with
  | some decoded =>
    have hbase64 := hanalyze
    rw [hdecoded, Option.map_some] at hbase64
    have hfinding : finding P evaluator direction payload = analyzeBase64 P payload := by
      rw [finding, hbase64]
      rfl
    rw [hfinding, and_iff_right le_rfl, hbase64]
    dsimp only
    by_cases hsuspicious : containsAny (P.toLowercase decoded) suspiciousPhrases = true
    · rw [if_pos hsuspicious]
      exact iff_of_true ⟨fun _ => htop _, fun _ => htop _, htop _, fun _ => htop _⟩
        (.inl hsuspicious)
    · rw [if_neg hsuspicious]
      simp +decide [LaterAtMost, reportSeverity, severityOf_le_low, hsuspicious]
  | none =>
    have hbase64 : analyzeBase64 P payload = none := by rw [analyzeBase64_eq, hdecoded]; rfl
    have hnone (s : Severity) : reportSeverity none ≤ s := by cases s <;> decide
    rw [reportSeverity_finding hbase64, hbase64, and_iff_right (hnone _)]
    dsimp only
    by_cases hencoded : Encoded P payload
    · simp +decide [LaterAtMost, hencoded, severityOf_le_high]
    by_cases hchained : Chained P direction payload
    · simp +decide [LaterAtMost, hencoded, hchained, severityOf_le_medium]
    -- the constitution and the governance surface are left, and the latter never outweighs
    refine iff_of_true ⟨fun h => absurd h hencoded, fun h => absurd h hchained, ?_, ?_⟩
      ⟨fun h => absurd h hencoded, fun _ h => absurd h hchained⟩
    · rw [if_neg hencoded, if_neg hchained]
      split
      · next hn =>
        rw [hn]
        exact hnone _
      · exact le_rfl
    · intro hsurface
      rw [if_neg hencoded, if_neg hchained]
      split
      · exact le_rfl
      · next hn => exact medium_le_severityOf hn

/-! ### Letters that decode -/

/-- The base64 text of 48 letters. -/
def encodedLetters : Str := (List.replicate 16 ("QUFB" : Str)).flatten

/-- A platform that decodes these letters and matches a pattern of letters where they occur. -/
def lettersPlatform : Platform :=
  { fixedPlatform (fun _ => Hex.repeated 64 0) fun pattern text =>
      pattern = "QUFB" && contains text pattern with
    base64Text := fun t => if t = encodedLetters then some (List.replicate 48 'A') else none }

/-- A constitution that prohibits one pattern. -/
def lettersConstitution : Constitution := ⟨"1", [], ["QUFB"], [], ⟨false, false⟩⟩

def lettersEvaluator : ConstitutionalEvaluator :=
  ⟨lettersConstitution, [("CONST-PATTERN-001", "QUFB")]⟩

/-- **A content that merely decodes hides a violation of the constitution.** -/
theorem encodedLetters_masked :
    ConstitutionalEvaluator.new lettersPlatform lettersConstitution = some lettersEvaluator ∧
      ¬ NoMasking lettersPlatform (some lettersEvaluator) .inbound encodedLetters
        (fixedSupply 0 0) ⟨[]⟩ "s" := by
  refine ⟨rfl, fun h => ?_⟩
  exact absurd (h.1 lettersEvaluator rfl) (by decide +kernel)

end Corridor

end GovSec
