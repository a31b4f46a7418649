import GovSec.PipelineRuns

/-!
What Sentinel matches is not approved. An alarm on one segment survives the reduction to the
highest signal, and the arbiter leaves `S1` on it under the default and the medical
thresholds, whatever the memory of the session.

The envelope admits longer segments than Sentinel inspects; a match in such a segment is
reported as an oversized payload only, and the context may be approved.
-/

namespace GovSec.Pipeline

open GovSec.Lib.Text GovSec.Lib.Maps GovSec.Lib.Actions GovSec.Lib.Runs
open Sentinel (Alarms MatchesRule maxPayloadBytes)

variable {P : Platform} {env : Supply} {p : Pipeline} {es : History}

/-! ### The highest signal -/

section Highest

variable {signal : GovernanceSignal} {highest : Option GovernanceSignal}

/-- The highest signal so far is none or not `CRITICAL`. -/
def Capped (highest : Option GovernanceSignal) : Prop := ∀ s, highest = some s → s.severity ≤ .high

def Alarmed (highest : Option GovernanceSignal) : Prop := ∃ s, highest = some s ∧ Alarms s

lemma Capped.trackHighest (h : Capped highest) (hs : signal.severity ≤ .high) :
    Capped (trackHighest signal highest) := forall_trackHighest h hs

/-- An alarm is kept: a signal that displaces it is as severe and more certain. -/
lemma Alarmed.trackHighest (h : Alarmed highest) (hs : signal.severity ≤ .high) :
    Alarmed (trackHighest signal highest) := by
  obtain ⟨s, rfl, hsev, hconf⟩ := h
  simp only [Pipeline.trackHighest]
  split
  · next hgt =>
    rw [hsev] at hgt
    rcases hgt with hgt | ⟨heq, hlt⟩
    · exact absurd hs (not_le.mpr hgt)
    · exact ⟨signal, rfl, heq, hconf.trans hlt.le⟩
  · exact ⟨s, rfl, hsev, hconf⟩

/-- An alarm displaces what is no alarm. -/
lemma alarmed_trackHighest (h : Capped highest) (ha : Alarms signal) :
    Alarmed (trackHighest signal highest) := by
  cases highest with
  | none => exact ⟨signal, rfl, ha⟩
  | some s =>
    simp only [Pipeline.trackHighest]
    split
    · exact ⟨signal, rfl, ha⟩
    · next hge =>
      -- what stays is as severe, and at least as certain
      obtain ⟨hsev, hconf⟩ := not_or.mp hge
      have heq : s.severity = .high := le_antisymm (h s rfl) (ha.1 ▸ not_lt.mp hsev)
      exact ⟨s, rfl, heq, ha.2.trans (not_lt.mp (not_and.mp hconf (ha.1.trans heq.symm)))⟩

end Highest

/-- A segment that Sentinel inspects in full and that a rule matches. -/
def Caught (P : Platform) (segments : List ContextSegment) : Prop :=
  ∃ segment ∈ segments, utf8Len segment.content ≤ maxPayloadBytes ∧
    MatchesRule P segment.content

/-- **The reduction over the segments** ends in an alarm when it had one or met one. -/
theorem inspectSegments_alarmed {sessionId : Str} {segments : List ContextSegment} {k : ℕ}
    {highest : Option GovernanceSignal} (hcap : Capped highest)
    (h : Alarmed highest ∨ Caught P segments) :
    Meets (inspectSegments P env sessionId segments k highest) fun _ r _ => Alarmed r := by
  induction segments generalizing k highest with
  | nil =>
    rcases h with h | ⟨_, hmem, -⟩
    · exact Meets.pure fun _ => h
    · simp at hmem
  | cons segment rest ih =>
    intro p
    have hsev := Sentinel.inspect_severity_le P segment.content (env.part k) p.crypto .inbound
      sessionId
    refine ih (hcap.trackHighest hsev) ?_ _
    rcases h with h | ⟨s, hmem, hsize, hm⟩
    · exact .inl (h.trackHighest hsev)
    · rcases List.mem_cons.mp hmem with rfl | hmem
      · exact .inl (alarmed_trackHighest hcap (Sentinel.inspect_alarms hsize hm))
      · exact .inr ⟨s, hmem, hsize, hm⟩

lemma contextTurn_alarmed {envelope : ModelContextEnvelope} (h : Caught P envelope.segments) :
    Meets (contextTurn P env envelope) fun _ r _ => Alarmed r.2 := by
  intro p
  refine inspectSegments_alarmed (fun _ hnone => by cases hnone) (.inr ?_) _
  rwa [ModelContextEnvelope.segmentsRequiringInspection_eq]

/-! ### The arbiter -/

/-- A configuration under which an alarm restricts. -/
structure Restrictive (config : ArbiterConfig) : Prop where
  nonneg : 0 ≤ config.thresholds.medium
  medium_le : config.thresholds.medium ≤ 0.85

lemma restrictive_default : Restrictive .default := ⟨by decide +kernel, by decide +kernel⟩
lemma restrictive_medical : Restrictive .medical := ⟨by decide +kernel, by decide +kernel⟩

/-- A modifier of at most 1 only lowers the medium threshold. -/
lemma effectiveThresholds_medium_le {config : ArbiterConfig} {modifier : ℚ} {t : Thresholds}
    (hc : Restrictive config) (hm : modifier ≤ 1)
    (ht : Arbiter.effectiveThresholds config modifier = some t) : t.medium ≤ 0.85 := by
  unfold Arbiter.effectiveThresholds at ht
  split at ht
  · cases ht
  · split at ht <;> cases ht
    · exact hc.medium_le
    · exact (mul_le_of_le_one_right hc.nonneg hm).trans hc.medium_le

/-- The arbiter leaves `S1` on an alarm. -/
lemma le_decidedWith_of_alarms {a : Arbiter} {s : GovernanceSignal} {modifier : ℚ}
    (hc : Restrictive a.config) (hm : modifier ≤ 1) (ha : Alarms s) :
    .S2 ≤ a.decidedWith modifier s := by
  unfold Arbiter.decidedWith
  split
  · next t ht =>
    have hmed : t.medium ≤ s.confidence := (effectiveThresholds_medium_le hc hm ht).trans ha.2
    rw [Arbiter.decided, ha.1, targetState]
    split
    · cases a.currentState s.sessionId <;> decide
    · cases a.currentState s.sessionId <;> decide
  · simp [GovernanceSignal.isClean, ha.1]
    decide

lemma enforcementResult_not_approved {state : SecurityState} (h : .S2 ≤ state) (content : Str) :
    (enforcementResult state content).isApproved = false := by
  cases state with
  | S1 => exact absurd h (by decide)
  | S2 | S3 | S4 => rfl

lemma le_applyMemoryFloor (state : MemoryState) (decided : SecurityState) :
    decided ≤ Arbiter.applyMemoryFloor state decided := by
  unfold Arbiter.applyMemoryFloor
  split
  · split
    · next h => exact h.le
    · exact le_rfl
  · exact le_rfl

variable (P env) in
/-- A call that starts from an alarm is not approved. -/
lemma govern_not_approved {t : Turn} {s : GovernanceSignal} {mem : SessionMemory}
    (hc : Restrictive p.arbiter.config) (hm : t.thresholdModifier ≤ 1)
    (hs : Reports t.sessionId .inbound s) (ha : Alarms s)
    (hmem : p.sessionMemories.lookup t.sessionId = some mem) :
    (result (govern P env t (some s)) p).1.1.isApproved = false := by
  have ht := tracks_some hs
  obtain ⟨hends, -, signal, -, hset⟩ := govern_settled P env ht hmem
  have hfirst := layers_passed_of_signal P (env.part 0) ht p
  cases hout : (result (layers P (env.part 0) t (some s)) p).1.1 with
  | blocked r =>
    rw [(hset.blocked r hout).1]
    exact hends.blocked r hout
  | passed state =>
    rw [(hset.passed state hout).1]
    refine enforcementResult_not_approved ?_ _
    calc SecurityState.S2 ≤ p.arbiter.decidedWith t.thresholdModifier s :=
          le_decidedWith_of_alarms hc hm ha
      _ ≤ state := hfirst state hout
      _ ≤ Arbiter.applyMemoryFloor _ state := le_applyMemoryFloor _ _

/-! ### Runs -/

/-- A context with a caught segment is not approved in any state. -/
theorem inboundContext_not_approved {envelope : ModelContextEnvelope} {govTxId : Str}
    (h : Caught P envelope.segments) :
    Meets (inboundContext P env envelope govTxId) fun p answer _ =>
      Restrictive p.arbiter.config → ∀ content, answer ≠ .ok (.approved content) := by
  unfold inboundContext
  split
  · exact Meets.pure fun p _ content => by rintro ⟨⟩
  · refine (contextTurn_begun.and (contextTurn_alarmed h)).then
      fun p ⟨t, highest⟩ p₁ ⟨⟨hb, hsid, ht⟩, halarm⟩ hc content => ?_
    dsimp only at hb hsid ht halarm ⊢
    obtain ⟨s, rfl, ha⟩ := halarm
    obtain ⟨mem, hmem⟩ := hb.memory
    rw [← hsid] at hmem ht
    have hno := govern_not_approved P (env.part 1) (hb.kept.config.symm ▸ hc)
      hb.modifier_le (ht s rfl) ha hmem
    rw [result_bind, if_neg (by rw [hno]; exact Bool.false_ne_true)]
    intro heq
    rw [Except.ok.inj heq] at hno
    cases hno

/-- **Coverage.** In every run under the default or the medical thresholds, a context with a
matched segment that is not longer than Sentinel's limit is not approved. -/
theorem caught_not_approved {config : ArbiterConfig} {evaluator : Option ConstitutionalEvaluator}
    {crypto : CryptoEngine} {strategicMemory : StrategicMemory} {govmem : GovMem} {as bs : History}
    {envelope : ModelContextEnvelope} {govTxId : Str} {answer : Answer}
    (hc : config = .default ∨ config = .medical)
    (h : (system P).Run (new config evaluator crypto strategicMemory govmem) es p)
    (hes : es = as ++ (.inboundContext env envelope govTxId, answer) :: bs)
    (hcaught : Caught P envelope.segments) :
    ∀ content, answer ≠ .context (.ok (.approved content)) := by
  obtain ⟨p', h', hans⟩ := h.split hes
  have hconfig : p'.arbiter.config = config := run_config h'
  have hr : Restrictive p'.arbiter.config := by
    rw [hconfig]
    rcases hc with rfl | rfl
    · exact restrictive_default
    · exact restrictive_medical
  intro content heq
  exact inboundContext_not_approved hcaught p' hr content (Answer.context.inj (hans.symm.trans heq))

/-! ### An oversized match -/

section Oversized

lemma fixedContext_verify {content : Str} (hP : ∀ data, computeHash P data = fixedHash)
    (hne : trim content ≠ []) (hlen : utf8Len content ≤ maxContextSegmentBytes) :
    (fixedContext content).verify P = .ok () := by
  have hseg : ModelContextEnvelope.validateSegments [] (fixedContext content).segments 0 0 =
      .ok () := by
    have hlen' : utf8Len content ≤ maxContextContentBytes := hlen.trans (by decide)
    simp [fixedContext, ModelContextEnvelope.validateSegments, ContextSegment.validate, failIf, hne,
      not_lt.mpr hlen, not_lt.mpr hlen']
  have hmat : (fixedContext content).validateMaterial = .ok () := by
    have h : (fixedContext "hi").validateMaterial = .ok () := by decide +kernel
    simp only [ModelContextEnvelope.validateMaterial, bind_eq_ok] at h ⊢
    obtain ⟨_, h₁, _, h₂, _, h₃, _, h₄, _, h₅, _, h₆, _, h₇, _, h₈, _, h₉, _, h₁₀, _, h₁₁, _, h₁₂,
      _, h₁₃, _, h₁₄, _, h₁₅, ids, hids, -⟩ := h
    obtain rfl : [] = ids := Except.ok.inj hids
    exact ⟨_, h₁, _, h₂, _, h₃, _, h₄, _, h₅, _, h₆, _, h₇, _, h₈, _, h₉, _, h₁₀, _, h₁₁, _, h₁₂,
      (), by simp [fixedContext], (), by simp [fixedContext, maxContextSegments], _, h₁₅, [], hids,
      hseg⟩
  have hhash : (fixedContext content).computeHash P = .ok fixedHash :=
    bind_eq_ok.mpr ⟨_, rfl, congrArg Except.ok (hP _)⟩
  have hdigest : validateSha256 "context_hash" fixedHash = .ok () := by decide +kernel
  refine bind_eq_ok.mpr ⟨(), hmat, bind_eq_ok.mpr ⟨(), hdigest, bind_eq_ok.mpr ⟨_, hhash, ?_⟩⟩⟩
  exact failIf_eq_ok.mpr (not_not.mpr rfl)

/-- Texts made of the letters of "sudo" and blanks. -/
def Plain (t : Str) : Prop := ∀ c ∈ t, c ∈ ("sudo " : Str)

/-- A phrase with some other character. -/
def foreign (pat : Str) : Bool := pat.any fun c => decide (c ∉ ("sudo " : Str))

variable {t : Str}

lemma contains_plain (ht : Plain t) {pat : Str} (hp : foreign pat = true) :
    contains t pat = false := by
  obtain ⟨c, hc, hne⟩ := List.any_eq_true.mp hp
  exact contains_eq_false hc fun hct => of_decide_eq_true hne (ht c hct)

lemma containsAny_plain (ht : Plain t) {pats : List Str} (hp : pats.all foreign = true) :
    containsAny t pats = false := by
  rw [containsAny, List.any_eq_false]
  exact fun pat hmem => by simp [contains_plain ht (List.all_eq_true.mp hp pat hmem)]

lemma plain_nil : Plain [] := by simp [Plain]

/-- A plain text is searched as the empty text is. -/
lemma contains_plain_eq (ht : Plain t) {pat : Str} (hp : foreign pat = true) :
    contains t pat = contains [] pat := by
  rw [contains_plain ht hp, contains_plain plain_nil hp]

lemma containsAny_plain_eq (ht : Plain t) {pats : List Str} (hp : pats.all foreign = true) :
    containsAny t pats = containsAny [] pats := by
  rw [containsAny_plain ht hp, containsAny_plain plain_nil hp]

lemma map_toLower_plain (ht : Plain t) : t.map Char.toLower = t := by
  have h : ∀ c ∈ ("sudo " : Str), c.toLower = c := forall_mem_of_all (by decide)
  exact (List.map_congr_left fun c hc => h c (ht c hc)).trans (List.map_id t)

lemma toLowercase_plain (ht : Plain t) : P.toLowercase t = t := by
  have h : ∀ c ∈ ("sudo " : Str), c.toNat < 128 := forall_mem_of_all (by decide)
  rw [P.toLowercase_ascii fun c hc => h c (ht c hc), map_toLower_plain ht]

lemma classifyPayload_plain (ht : Plain t) : classifyPayload P t = .benign := by
  have hz : ∀ c ∈ ("sudo " : Str), isZeroWidth c = false ∧ isCyrillic c = false :=
    forall_mem_of_all (by decide)
  have hzero : t.any isZeroWidth = false :=
    List.any_eq_false.mpr fun c hc => by simp [(hz c (ht c hc)).1]
  have hcyr : t.any isCyrillic = false :=
    List.any_eq_false.mpr fun c hc => by simp [(hz c (ht c hc)).2]
  simp only [classifyPayload, toLowercase_plain ht, hzero, hcyr]
  rw [containsAny_plain ht (by decide), containsAny_plain ht (by decide),
    containsAny_plain ht (by decide), containsAny_plain ht (by decide),
    containsAny_plain ht (by decide)]
  simp

open OverWatch.SessionFingerprint in
lemma observe_plain (ht : Plain t) (fp : OverWatch.SessionFingerprint) :
    fp.observe t = fp.observe [] := by
  have h {pats : List Str} : pats.all foreign = true → containsAny t pats = containsAny [] pats :=
    containsAny_plain_eq ht
  have h' {pat : Str} : foreign pat = true → contains t pat = contains [] pat :=
    contains_plain_eq ht
  have hdrift (fp : OverWatch.SessionFingerprint) : fp.addDrift t = fp.addDrift [] := by
    have : ∀ d ∈ driftPhrases, d.1.all foreign = true := by decide +kernel
    simp only [addDrift]
    rw [List.filter_congr fun d hd => h (this d hd)]
  have htools (fp : OverWatch.SessionFingerprint) : fp.recordTools t = fp.recordTools [] := by
    have : ∀ tool ∈ tools, foreign tool = true := by decide +kernel
    simp only [recordTools]
    rw [List.filter_congr fun d hd => h' (this d hd)]
  have hsusp (fp : OverWatch.SessionFingerprint) :
      fp.recordSuspicion t = fp.recordSuspicion [] := by
    simp only [recordSuspicion]
    rw [h (by decide)]
  have hhit : cmdStyleHit t = cmdStyleHit [] := by
    simp only [cmdStyleHit]
    rw [h (by decide), h' (by decide), h (by decide), h (by decide), h (by decide), h (by decide),
      h (by decide), h (by decide), h (by decide)]
  have hcmd (fp : OverWatch.SessionFingerprint) : fp.recordCmdStyle t = fp.recordCmdStyle [] := by
    simp only [recordCmdStyle, hhit]
  have hq09 (fp : OverWatch.SessionFingerprint) : fp.recordQ09 t = fp.recordQ09 [] := by
    have hfam : ∀ family ∈ q09Families,
        q09Hit t family.1 family.2 = q09Hit [] family.1 family.2 := by
      intro family hmem
      have : ∀ family ∈ q09Families, family.2.all foreign = true := by decide +kernel
      simp only [q09Hit]
      rw [h (this family hmem), h' (by decide), h' (by decide)]
    simp only [recordQ09]
    exact List.foldl_ext _ _ _ fun fp family hmem => by rw [hfam family hmem]
  simp only [observe, hdrift, htools, hsusp, hcmd, hq09]

lemma violations_plain (ht : Plain t) (config : OverWatch.OverWatchConfig)
    (fp : OverWatch.SessionFingerprint) (direction : Direction) :
    OverWatch.violations P config fp t direction =
      OverWatch.violations P config fp [] direction := by
  have h {pats : List Str} : pats.all foreign = true → containsAny t pats = containsAny [] pats :=
    containsAny_plain_eq ht
  have h' {pat : Str} : foreign pat = true → contains t pat = contains [] pat :=
    contains_plain_eq ht
  have hscore : OverWatch.scoreHallucination t = OverWatch.scoreHallucination [] := by
    simp only [OverWatch.scoreHallucination]
    rw [h' (by decide), h' (by decide), h' (by decide), h' (by decide), h' (by decide),
      h' (by decide)]
  have hpoison : OverWatch.detectPoisoning t = OverWatch.detectPoisoning [] := h (by decide)
  have hdos : OverWatch.detectDos t = OverWatch.detectDos [] := by
    simp only [OverWatch.detectDos]
    rw [h' (by decide), h (by decide), h' (by decide), h' (by decide), h' (by decide)]
  have hascii : toAsciiLowercase t = t := map_toLower_plain ht
  simp only [OverWatch.violations, toLowercase_plain ht, hascii, hscore, hpoison, hdos]
  rfl

/-- The first rule of the blocklist. -/
def sudoPattern : Str := r"(?i)\bsudo\b"

/-- A platform whose only matches are those of "sudo". -/
def sudoPlatform : Platform :=
  fixedPlatform (fun _ => Hex.repeated 64 0) fun pattern text =>
    pattern = sudoPattern && contains text "sudo"

lemma computeHash_sudoPlatform (data : Str) : computeHash sudoPlatform data = fixedHash :=
  (by decide +kernel : (Hex.repeated 64 0).text = fixedHash)

lemma isMatch_sudoPlatform {pattern : Str} (h : pattern ≠ sudoPattern) :
    sudoPlatform.isMatch pattern t = false := by
  simp only [sudoPlatform, fixedPlatform, decide_eq_false h, Bool.false_and]

lemma overwatchEvaluate_plain (ht : Plain t) {direction : Direction} {sessionId : Str} :
    overwatchEvaluate sudoPlatform env t direction sessionId =
      overwatchEvaluate sudoPlatform env [] direction sessionId := by
  have heval (p : Pipeline) :
      OverWatch.evaluate sudoPlatform env p.crypto p.overwatch t direction sessionId =
        OverWatch.evaluate sudoPlatform env p.crypto p.overwatch [] direction sessionId := by
    simp only [OverWatch.evaluate, toLowercase_plain ht, toLowercase_plain plain_nil,
      observe_plain ht, violations_plain ht, computeHash_sudoPlatform]
  simp only [overwatchEvaluate, heval]

/-- Corridor finds nothing in a plain text. -/
lemma corridorFinding_plain (ht : Plain t) :
    Corridor.finding sudoPlatform none .inbound t = none := by
  have hbase64 : Corridor.analyzeBase64 sudoPlatform t = none := by
    unfold Corridor.analyzeBase64
    dsimp only
    split <;> rfl
  have hmulti : Corridor.multiEncodingCheck sudoPlatform t = none := by
    rw [Corridor.multiEncodingCheck, isMatch_sudoPlatform (by decide +kernel)]
    rfl
  have hmeta : Corridor.metadataCheck sudoPlatform t = none := by
    rw [Corridor.metadataCheck, isMatch_sudoPlatform (by decide +kernel)]
    rfl
  have hchain : Corridor.promptChainCheck sudoPlatform .inbound t = none := by
    rw [Corridor.promptChainCheck, isMatch_sudoPlatform (by decide +kernel)]
    rfl
  have hsurface : Corridor.governanceSurfaceCheck t = none := by
    have hascii : toAsciiLowercase t = t := map_toLower_plain ht
    simp only [Corridor.governanceSurfaceCheck, Corridor.classifyGovernanceSurface, hascii]
    rw [containsAny_plain ht (by decide), containsAny_plain ht (by decide),
      containsAny_plain ht (by decide)]
    rfl
  simp only [Corridor.finding, hbase64, hmulti, hmeta, hchain, hsurface]
  rfl

lemma corridorEvaluate_plain (ht : Plain t) {sessionId : Str}
    (hp : p.constitutionalEvaluator = none) :
    result (corridorEvaluate sudoPlatform env t .inbound sessionId) p =
      result (corridorEvaluate sudoPlatform env [] .inbound sessionId) p := by
  simp only [corridorEvaluate, result_modifyGet, Corridor.evaluate, Corridor.evaluateBuilder, hp,
    corridorFinding_plain ht, corridorFinding_plain plain_nil, computeHash_sudoPlatform]

lemma overwatchLayer_plain (ht : Plain t) (turn : Turn) :
    overwatchLayer sudoPlatform env { turn with content := t } =
      overwatchLayer sudoPlatform env { turn with content := [] } := by
  funext highest
  unfold overwatchLayer
  dsimp only
  rw [overwatchEvaluate_plain ht]
  rfl

lemma corridorLayer_plain (ht : Plain t) (turn : Turn) (highest : Option GovernanceSignal)
    (hp : p.constitutionalEvaluator = none) :
    result (corridorLayer sudoPlatform env { turn with content := t } highest) p =
      result (corridorLayer sudoPlatform env { turn with content := [] } highest) p := by
  unfold corridorLayer
  dsimp only
  rw [result_bind, result_bind, corridorEvaluate_plain ht hp, overwatchLayer_plain ht]

/-- The layers end in the same way on all plain texts. -/
lemma layers_plain (ht : Plain t) (turn : Turn) (s : GovernanceSignal)
    (hp : p.constitutionalEvaluator = none) :
    result (layers sudoPlatform env { turn with content := t } (some s)) p =
      result (layers sudoPlatform env { turn with content := [] } (some s)) p := by
  unfold layers arbitrate
  dsimp only
  rw [result_bind, result_bind]
  split
  · rfl
  · exact corridorLayer_plain ht turn _ hp

lemma enforcementResult_isApproved (state : SecurityState) (content content' : Str) :
    (enforcementResult state content).isApproved =
      (enforcementResult state content').isApproved := by
  cases state <;> rfl

lemma settle_isApproved (turn : Turn) (content content' : Str) (outcome : LayerOutcome)
    (highest : Option GovernanceSignal) :
    (result (settle P env { turn with content } outcome highest) p).1.isApproved =
      (result (settle P env { turn with content := content' } outcome highest) p).1.isApproved := by
  unfold settle applyFloor
  rw [result_bind, result_bind]
  dsimp only
  split
  · rfl
  · exact enforcementResult_isApproved _ _ _
  · split
    · rw [result_bind, result_bind, result_bind, result_bind]
      exact enforcementResult_isApproved _ _ _
    · exact enforcementResult_isApproved _ _ _

lemma govern_plain (ht : Plain t) (turn : Turn) (s : GovernanceSignal)
    (hp : p.constitutionalEvaluator = none) :
    (result (govern sudoPlatform env { turn with content := t } (some s)) p).1.1.isApproved =
      (result (govern sudoPlatform env { turn with content := [] } (some s)) p).1.1.isApproved := by
  unfold govern
  rw [result_bind, result_bind, layers_plain ht turn s hp, result_bind, result_bind]
  exact settle_isApproved turn t [] _ _

/-- Sentinel's signal on every text over its size limit. -/
def oversizedSignal (env : Supply) (crypto : CryptoEngine) : GovernanceSignal × CryptoEngine :=
  attachCrypto sudoPlatform env crypto (layerSignal .sentinel .inbound "s" fixedHash
    (some ⟨"SIZE_EXCEEDED", "SENT-SIZE-001", .low, 0.70, "sentinel/size_limit"⟩))

lemma inspect_oversized (h : maxPayloadBytes < utf8Len t) :
    inspect sudoPlatform env t .inbound "s" = modifyGet fun p =>
      ((oversizedSignal env p.crypto).1,
        { p with crypto := (oversizedSignal env p.crypto).2 }) := by
  simp only [inspect, Sentinel.inspect, Sentinel.inspectBuilder, Sentinel.finding_oversized h,
    computeHash_sudoPlatform, oversizedSignal]

/-- The turn of a new session "s" on a text. -/
def newTurn (content : Str) : Turn := ⟨"s", content, .benign, 1, "pipeline_inbound_context"⟩

/-- The signal and the pipeline when the segments of a new session's oversized context have
been inspected. -/
def oversizedStart : GovernanceSignal × Pipeline :=
  let env := (fixedSupply 0 0).part 0
  let p := (result (initSessionMemory (env.part 0) "s") (fixedPipeline .default)).2
  let (signal, crypto) := oversizedSignal ((env.part 1).part 0) p.crypto
  (signal, { p with crypto })

lemma contextTurn_oversized (ht : Plain t) (h : maxPayloadBytes < utf8Len t) :
    result (contextTurn sudoPlatform ((fixedSupply 0 0).part 0) (fixedContext t))
      (fixedPipeline .default) = ((newTurn t, some oversizedStart.1), oversizedStart.2) := by
  have hsegments : (fixedContext t).segmentsRequiringInspection =
      [⟨0, .user, .externalUser, t, none, none⟩] := by simp [fixedContext]
  unfold contextTurn
  dsimp only
  rw [hsegments, result_bind, result_bind, inspectSegments, result_bind]
  simp only [fixedContext, concatenate, List.foldl_cons, List.foldl_nil]
  rw [inspect_oversized h]
  simp only [if_true, List.nil_append, classifyPayload_plain ht]
  rfl

lemma govern_oversizedStart :
    (result (govern sudoPlatform ((fixedSupply 0 0).part 1) (newTurn []) (some oversizedStart.1))
      oversizedStart.2).1.1.isApproved = true := by decide +kernel

/-- A new session with an oversized plain text is approved. -/
theorem oversized_approved (ht : Plain t) (hne : trim t ≠ []) (hsize : maxPayloadBytes < utf8Len t)
    (hlen : utf8Len t ≤ maxContextSegmentBytes) :
    ∃ content, (result (inboundContext sudoPlatform (fixedSupply 0 0) (fixedContext t) "tx")
      (fixedPipeline .default)).1 = .ok (.approved content) := by
  have happ : (result (govern sudoPlatform ((fixedSupply 0 0).part 1) (newTurn t)
      (some oversizedStart.1)) oversizedStart.2).1.1.isApproved = true :=
    (govern_plain ht (newTurn []) oversizedStart.1 rfl).trans govern_oversizedStart
  obtain ⟨content, hcontent⟩ := exists_approved happ
  refine ⟨content, ?_⟩
  unfold inboundContext
  rw [fixedContext_verify computeHash_sudoPlatform hne hlen]
  dsimp only
  rw [result_bind, contextTurn_oversized ht hsize]
  dsimp only
  rw [result_bind, if_pos happ]
  exact congrArg Except.ok hcontent

/-- "sudo" and so many blanks that it is one byte too long for Sentinel. -/
def oversizedSudo : Str := "sudo" ++ List.replicate 32765 ' '

lemma plain_oversizedSudo : Plain oversizedSudo := by
  intro c hc
  rcases List.mem_append.mp hc with h | h
  · exact List.mem_append_left [' '] h
  · rw [List.eq_of_mem_replicate h]
    decide

lemma utf8Len_oversizedSudo : utf8Len oversizedSudo = 32769 := by
  have hsudo : utf8Len ("sudo" : Str) = 4 := by decide +kernel
  have hblanks : utf8Len (List.replicate 32765 ' ') = 32765 := by
    rw [utf8Len, List.map_replicate, List.sum_replicate, smul_eq_mul]
    exact Nat.mul_one _
  rw [oversizedSudo, utf8Len_append, hsudo, hblanks]

/-- A rule of the blocklist matches, and the context is approved. -/
theorem oversizedSudo_approved :
    (fixedContext oversizedSudo).verify sudoPlatform = .ok () ∧
      (∀ segment ∈ (fixedContext oversizedSudo).segments,
        MatchesRule sudoPlatform segment.content) ∧
      ∃ content, (result (inboundContext sudoPlatform (fixedSupply 0 0)
        (fixedContext oversizedSudo) "tx") (fixedPipeline .default)).1 =
          .ok (.approved content) := by
  have hne : trim oversizedSudo ≠ [] :=
    trim_ne_nil (List.mem_append_left _ (by decide : 's' ∈ ("sudo" : Str))) (by decide)
  have hlen : utf8Len oversizedSudo ≤ maxContextSegmentBytes := by
    rw [utf8Len_oversizedSudo]
    decide
  refine ⟨fixedContext_verify computeHash_sudoPlatform hne hlen, ?_,
    oversized_approved plain_oversizedSudo hne ?_ hlen⟩
  · intro segment hmem
    obtain rfl := List.mem_singleton.mp hmem
    refine ⟨("SENT-BL-001", sudoPattern), by decide +kernel, ?_⟩
    have hsudo : contains oversizedSudo "sudo" = true :=
      contains_iff.mpr (List.prefix_append _ _).isInfix
    simp only [sudoPlatform, fixedPlatform, decide_true, Bool.true_and]
    exact hsudo
  · rw [utf8Len_oversizedSudo]
    decide

end Oversized

/-- "sudo" alone is caught. -/
theorem caught_not_approved_sudo :
    ¬ ∃ content, ((system sudoPlatform).step (fixedPipeline .medical)
      (.inboundContext (fixedSupply 0 0) (fixedContext "sudo") "tx")).1 =
        .context (.ok (.approved content)) := by
  have hnot : ∀ content, ((system sudoPlatform).step (fixedPipeline .medical)
      (.inboundContext (fixedSupply 0 0) (fixedContext "sudo") "tx")).1 ≠
        .context (.ok (.approved content)) :=
    caught_not_approved (P := sudoPlatform) (.inr rfl)
      (System.Run.nil.snoc (.inboundContext (fixedSupply 0 0) (fixedContext "sudo") "tx"))
      (List.nil_append _ : _ = [] ++ _ :: [])
      ⟨_, List.mem_singleton.mpr rfl, by decide, by decide +kernel⟩
  rintro ⟨content, hcontent⟩
  exact hnot content hcontent

end GovSec.Pipeline
