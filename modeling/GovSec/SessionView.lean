import GovSec.PipelineFrame
import GovSec.Lib.Pairs

/-!
What the calls on one session read of the pipeline, and what they leave of the others.

The view of a session is the configuration and the session's own entries in the stores. Every
layer works on the view: two pipelines with one view give signals with one content, answer
alike and end with one view again. OIM is the exception. It hears the signals of all sessions,
so it stands beside the view.
-/

namespace GovSec

open GovSec.Lib.Text GovSec.Lib.Maps GovSec.Lib.Actions

/-! ### What a signal says -/

/-- The content of a signal: all that a later layer reads of it. -/
structure Gist where
  direction : Direction
  violationClass : Option Str
  policyRuleId : Option Str
  severity : Severity
  confidence : ℚ
  sessionId : Str
  deriving DecidableEq

def GovernanceSignal.gist (w : GovernanceSignal) : Gist :=
  ⟨w.direction, w.violationClass, w.policyRuleId, w.severity, w.confidence, w.sessionId⟩

/-- The content of the signal that a finding amounts to. -/
def findingGist (direction : Direction) (sessionId : Str) : Option Finding → Gist
  | some f =>
    ⟨direction, some f.violation, some f.ruleId, f.severity, max 0 (min 1 f.confidence), sessionId⟩
  | none => ⟨direction, none, none, .none, 0, sessionId⟩

@[simp] lemma findingGist_sessionId (direction : Direction) (sessionId : Str) (f : Option Finding) :
    (findingGist direction sessionId f).sessionId = sessionId := by
  cases f <;> rfl

section Gist

variable {P : Platform} {env : Supply} {crypto : CryptoEngine} {source : SignalSource}
  {direction : Direction} {sessionId hash : Str} {w w' : GovernanceSignal}

@[simp] lemma gist_layerSignal (f : Option Finding) :
    (attachCrypto P env crypto (layerSignal source direction sessionId hash f)).1.gist =
      findingGist direction sessionId f := by
  cases f <;> rfl

lemma severity_of_gist (h : w.gist = w'.gist) : w.severity = w'.severity :=
  congrArg Gist.severity h

lemma confidence_of_gist (h : w.gist = w'.gist) : w.confidence = w'.confidence :=
  congrArg Gist.confidence h

lemma sessionId_of_gist (h : w.gist = w'.gist) : w.sessionId = w'.sessionId :=
  congrArg Gist.sessionId h

lemma isClean_of_gist (h : w.gist = w'.gist) : w.isClean = w'.isClean := by
  simp only [GovernanceSignal.isClean, severity_of_gist h]

end Gist

/-- Two supplies whose parts are read at the same times give every part the same times. -/
lemma Supply.clock_part {env env' : Supply} (h : env.clock = env'.clock) (k : ℕ) :
    (env.part k).clock = (env'.part k).clock := by
  funext path
  exact congrFun h (k :: path)

lemma Supply.now_eq {env env' : Supply} (h : env.clock = env'.clock) : env.now = env'.now :=
  congrFun h []

/-- A memory takes in what a signal says. -/
lemma ingestSignal_of_gist {w w' : GovernanceSignal} (h : w.gist = w'.gist) (now : DateTime)
    (classification : RequestClassification) (config : MemoryConfig) (m : SessionMemory) :
    m.ingestSignal now w classification config = m.ingestSignal now w' classification config := by
  have hturn : m.recordTurn now w classification = m.recordTurn now w' classification := by
    have hv : w.violationClass = w'.violationClass := congrArg Gist.violationClass h
    simp only [SessionMemory.recordTurn, severity_of_gist h, confidence_of_gist h, hv]
  have hweight (m : SessionMemory) :
      m.signalWeight w classification config = m.signalWeight w' classification config := by
    simp only [SessionMemory.signalWeight, severity_of_gist h, confidence_of_gist h]
  have hacc (m : SessionMemory) (weighted : ℚ) :
      m.accumulate w weighted config = m.accumulate w' weighted config := by
    have hv : w.violationClass = w'.violationClass := congrArg Gist.violationClass h
    simp only [SessionMemory.accumulate, confidence_of_gist h, hv]
  simp only [SessionMemory.ingestSignal, hturn, hweight, hacc]

/-! ### The arbiter on one session -/

namespace Arbiter

/-- Two arbiters with one configuration and one entry of the session. -/
structure SameEntry (sessionId : Str) (a a' : Arbiter) : Prop where
  config : a.config = a'.config
  entry : a.sessionStates.lookup sessionId = a'.sessionStates.lookup sessionId

variable {P : Platform} {env env' : Supply} {crypto crypto' : CryptoEngine} {a a' : Arbiter}
  {sessionId sid : Str} {signal signal' : GovernanceSignal} {t : Thresholds} {modifier : ℚ}
  {now : DateTime} {s target : SecurityState}

lemma SameEntry.currentState (h : SameEntry sessionId a a') :
    a.currentState sessionId = a'.currentState sessionId := by
  simp only [Arbiter.currentState, h.entry]

lemma SameEntry.openSession (h : SameEntry sessionId a a') (now : DateTime) :
    SameEntry sessionId (a.openSession now sessionId) (a'.openSession now sessionId) where
  config := h.config
  entry := by
    simp only [Arbiter.openSession, expireLockdown, initSession, lookup_modifyAt, lookup_orInsert,
      h.entry]

lemma SameEntry.writeState (h : SameEntry sessionId a a') (now : DateTime)
    (target : SecurityState) :
    SameEntry sessionId (a.writeState now sessionId target)
      (a'.writeState now sessionId target) where
  config := h.config
  entry := by simp only [Arbiter.writeState, lookup_modifyAt, h.entry, h.config]

lemma SameEntry.transition (h : SameEntry sessionId a a') (hclock : env.clock = env'.clock) :
    SameEntry sessionId (transition P env crypto a sessionId s target signal).1
      (transition P env' crypto' a' sessionId s target signal').1 := by
  unfold Arbiter.transition
  split
  · exact h
  · have hw := h.writeState env.now target
    refine ⟨hw.config, hw.entry.trans ?_⟩
    rw [Supply.now_eq hclock]
    rfl

/-- The arbiter's answer and what it stores for the session depend on no other session. -/
lemma SameEntry.processUnder (h : SameEntry signal.sessionId a a') (hclock : env.clock = env'.clock)
    (hw : signal.gist = signal'.gist) :
    (processUnder P env crypto a t signal).1 = (processUnder P env' crypto' a' t signal').1 ∧
      SameEntry signal.sessionId (processUnder P env crypto a t signal).2.1
        (processUnder P env' crypto' a' t signal').2.1 := by
  have ho := h.openSession (env.part 0).now
  have hnow : (env'.part 0).now = (env.part 0).now :=
    (Supply.now_eq (Supply.clock_part hclock 0)).symm
  unfold Arbiter.processUnder
  rw [← sessionId_of_gist hw, ← isClean_of_gist hw, ← severity_of_gist hw,
    ← confidence_of_gist hw, hnow]
  dsimp only
  rw [← ho.currentState]
  split
  · exact ⟨rfl, ho⟩
  · split
    · have hc := Supply.clock_part hclock 1
      exact ⟨(ho.transition hc).currentState, ho.transition hc⟩
    · exact ⟨ho.currentState, ho⟩

variable (P crypto crypto') in
lemma SameEntry.process (h : SameEntry signal.sessionId a a') (hclock : env.clock = env'.clock)
    (hw : signal.gist = signal'.gist) :
    (process P env crypto a signal).1 = (process P env' crypto' a' signal').1 ∧
      SameEntry signal.sessionId (process P env crypto a signal).2.1
        (process P env' crypto' a' signal').2.1 := by
  unfold Arbiter.process
  rw [← h.config]
  exact h.processUnder hclock hw

variable (P crypto crypto' modifier) in
lemma SameEntry.processWithModifier (h : SameEntry signal.sessionId a a')
    (hclock : env.clock = env'.clock) (hw : signal.gist = signal'.gist) :
    (processWithModifier P env crypto a signal modifier).1 =
        (processWithModifier P env' crypto' a' signal' modifier).1 ∧
      SameEntry signal.sessionId (processWithModifier P env crypto a signal modifier).2.1
        (processWithModifier P env' crypto' a' signal' modifier).2.1 := by
  unfold Arbiter.processWithModifier
  rw [← h.config, ← isClean_of_gist hw, ← sessionId_of_gist hw]
  split
  · dsimp only
    rw [← h.currentState]
    split
    · exact ⟨rfl, h⟩
    · split
      · exact ⟨rfl, h.transition hclock⟩
      · exact ⟨rfl, h⟩
  · split
    · exact h.process P crypto crypto' hclock hw
    · exact h.processUnder hclock hw

end Arbiter

/-! ### OIM -/

namespace OIM

/-- The state in which OIM judges a signal it hears. -/
def heard (o : OIM) (env : Supply) (w : GovernanceSignal) : OIM :=
  { o with
    sig := (o.sig.recordSignal (env.part 0).now w).maybeEstablishBaseline (env.part 1).now }

/-- What OIM reports on a signal it hears. -/
def reportOn (o : OIM) (env : Supply) (w : GovernanceSignal) : Option Finding :=
  (o.heard env w).finding (env.part 2).now

variable {P : Platform} {env env' : Supply} {crypto : CryptoEngine} {o : OIM}
  {w w' : GovernanceSignal}

lemma gist_observe : (o.observe P env crypto w).1.gist =
    findingGist w.direction w.sessionId (o.reportOn env w) := gist_layerSignal _

lemma heard_congr (hclock : env.clock = env'.clock) (hw : w.gist = w'.gist) :
    o.heard env w = o.heard env' w' := by
  have hrule : w.policyRuleId = w'.policyRuleId := congrArg Gist.policyRuleId hw
  simp only [heard, OverWatchSignature.recordSignal, severity_of_gist hw, confidence_of_gist hw,
    hrule, Supply.now_eq (Supply.clock_part hclock 0), Supply.now_eq (Supply.clock_part hclock 1)]

lemma reportOn_congr (hclock : env.clock = env'.clock) (hw : w.gist = w'.gist) :
    o.reportOn env w = o.reportOn env' w' := by
  rw [reportOn, reportOn, heard_congr hclock hw, Supply.now_eq (Supply.clock_part hclock 2)]

lemma filter_append_singleton_ne {α : Type*} {p : α → Bool} {l : List α} {x : α}
    (hx : p x = true) : (l ++ [x]).filter p ≠ l := by
  intro h
  have hidem : ((l ++ [x]).filter p).filter p = (l ++ [x]).filter p := by simp
  rw [h] at hidem
  have hlen := congrArg List.length h
  rw [List.filter_append, hidem, List.filter_cons_of_pos hx] at hlen
  simp at hlen

lemma recentSignals_maybeEstablishBaseline (sig : OverWatchSignature) (now : DateTime) :
    (sig.maybeEstablishBaseline now).recentSignals = sig.recentSignals := by
  unfold OverWatchSignature.maybeEstablishBaseline
  split <;> rfl

/-- A signal that is heard leaves a trace: the newest of the recent signals is inside the
window that drops the old ones. -/
lemma heard_ne : o.heard env w ≠ o := by
  intro h
  have hr : (o.heard env w).sig.recentSignals = o.sig.recentSignals := by rw [h]
  rw [heard, recentSignals_maybeEstablishBaseline] at hr
  refine filter_append_singleton_ne ?_ hr
  have hwindow : (0 : ℤ) < 600 * nanosPerSec := by decide
  exact decide_eq_true (sub_lt_self _ hwindow)

end OIM

/-- What OverWatch reports on a text of a session. -/
def OverWatch.reportOn (P : Platform) (ow : OverWatch) (payload : Str) (direction : Direction)
    (sessionId : Str) : Option Finding :=
  finding (violations P ow.config
    (((ow.sessions.lookup sessionId).getD .new).observe (P.toLowercase payload)) payload direction)

/-- The fingerprint that OverWatch stores after a text of a session. -/
def OverWatch.fingerprintAfter (P : Platform) (env : Supply) (ow : OverWatch) (payload : Str)
    (direction : Direction) (sessionId : Str) : SessionFingerprint :=
  let fp := ((ow.sessions.lookup sessionId).getD .new).observe (P.toLowercase payload)
  if (violations P ow.config fp payload direction).isEmpty then fp
  else fp.recordEscalation (env.part 0).now (env.part 1).now

namespace HaapGate

/-- The pre-authorizations of a session. -/
def preauthsOf (g : HaapGate) (sessionId : Str) : List (Str × DateTime) :=
  (g.preauth.lookup sessionId).getD []

/-- The gate answers from the live pre-authorizations of the session and keeps these. -/
lemma isPreauthorized_spec (g : HaapGate) (now : DateTime) (sessionId c : Str) :
    (g.isPreauthorized now sessionId c).1 =
        ((g.preauthsOf sessionId).filter fun e => now < e.2).any (·.1 = c) ∧
      (g.isPreauthorized now sessionId c).2.preauthsOf sessionId =
        (g.preauthsOf sessionId).filter (fun e => now < e.2) ∧
      (g.isPreauthorized now sessionId c).2.constitutionalBlockThreshold =
        g.constitutionalBlockThreshold := by
  unfold isPreauthorized preauthsOf
  cases hl : g.preauth.lookup sessionId with
  | none => simp [hl]
  | some entries => simp

end HaapGate

/-! ### The view of a session -/

/-- What the calls on a session read, OIM apart. -/
structure View where
  overwatchConfig : OverWatch.OverWatchConfig
  fingerprint : Option OverWatch.SessionFingerprint
  arbiterConfig : ArbiterConfig
  state : Option SessionState
  evaluator : Option ConstitutionalEvaluator
  blockThreshold : ℕ
  preauths : List (Str × DateTime)
  memory : Option SessionMemory
  advice : SessionStartAdvice
  memoryConfig : MemoryConfig
  govmem : GovMem

namespace Pipeline

def view (p : Pipeline) (sessionId : Str) : View where
  overwatchConfig := p.overwatch.config
  fingerprint := p.overwatch.sessions.lookup sessionId
  arbiterConfig := p.arbiter.config
  state := p.arbiter.sessionStates.lookup sessionId
  evaluator := p.constitutionalEvaluator
  blockThreshold := p.haap.constitutionalBlockThreshold
  preauths := p.haap.preauthsOf sessionId
  memory := p.sessionMemories.lookup sessionId
  advice := p.strategicMemory.adviseSessionStart sessionId
  memoryConfig := p.memoryConfig
  govmem := p.govmem

/-- Two pipelines with one view of the session, in which the action classes `c` and `c'` have
the same pre-authorizations, and whose monitors `S` relates. -/
structure Linked (sessionId c c' : Str) (S : OverWatch → OIM → OIM → Prop) (p p' : Pipeline) :
    Prop where
  view : p.view sessionId = p'.view sessionId
  classes : ∀ e ∈ p.haap.preauthsOf sessionId, e.1 = c ↔ e.1 = c'
  monitors : S p.overwatch p.oim p'.oim

section Layers

variable {P : Platform} {env env' : Supply} {p p' : Pipeline} {sessionId c c' payload : Str}
  {direction : Direction} {S : OverWatch → OIM → OIM → Prop} {w w' : GovernanceSignal}
  {modifier : ℚ}

lemma currentState_of_view (h : p.view sessionId = p'.view sessionId) :
    p.currentState sessionId = p'.currentState sessionId := by
  have hs : p.arbiter.sessionStates.lookup sessionId = p'.arbiter.sessionStates.lookup sessionId :=
    congrArg View.state h
  simp only [currentState, Arbiter.currentState, hs]

lemma memory_of_view (h : p.view sessionId = p'.view sessionId) :
    p.sessionMemories.lookup sessionId = p'.sessionMemories.lookup sessionId :=
  congrArg View.memory h

lemma sessionDrs_of_view (h : p.view sessionId = p'.view sessionId) :
    p.sessionDrs sessionId = p'.sessionDrs sessionId := by
  simp only [sessionDrs, currentState_of_view h, memory_of_view h]

lemma shouldBlock_of_view (h : p.view sessionId = p'.view sessionId) :
    p.shouldBlock sessionId = p'.shouldBlock sessionId := by
  have hg : p.govmem = p'.govmem := congrArg View.govmem h
  simp only [shouldBlock, memory_of_view h, hg]

variable (P payload direction) in
lemma reportOn_of_view (h : p.view sessionId = p'.view sessionId) :
    p.overwatch.reportOn P payload direction sessionId =
      p'.overwatch.reportOn P payload direction sessionId := by
  have hc : p.overwatch.config = p'.overwatch.config := congrArg View.overwatchConfig h
  have hf : p.overwatch.sessions.lookup sessionId = p'.overwatch.sessions.lookup sessionId :=
    congrArg View.fingerprint h
  rw [OverWatch.reportOn, OverWatch.reportOn, hc, hf]

/-- The arbiter may change in both pipelines alike. -/
lemma Linked.withArbiter {a a' : Arbiter} (h : Linked sessionId c c' S p p')
    (ha : Arbiter.SameEntry sessionId a a') (crypto crypto' : CryptoEngine) :
    Linked sessionId c c' S { p with arbiter := a, crypto }
      { p' with arbiter := a', crypto := crypto' } where
  view := by
    change { p.view sessionId with
      arbiterConfig := a.config, state := a.sessionStates.lookup sessionId }
      = { p'.view sessionId with
          arbiterConfig := a'.config, state := a'.sessionStates.lookup sessionId }
    rw [h.view, ha.config, ha.entry]
  classes := h.classes
  monitors := h.monitors

lemma Linked.sameEntry (h : Linked sessionId c c' S p p') :
    Arbiter.SameEntry sessionId p.arbiter p'.arbiter :=
  ⟨congrArg View.arbiterConfig h.view, congrArg View.state h.view⟩

/-- The two signals say the same about the session. -/
def SameGist (sessionId : Str) (w w' : GovernanceSignal) : Prop :=
  w.gist = w'.gist ∧ w.sessionId = sessionId

lemma inspect_paired : Paired (Linked sessionId c c' S)
    (inspect P env payload direction sessionId) (inspect P env' payload direction sessionId)
    fun w p w' p' => SameGist sessionId w w' ∧ Linked sessionId c c' S p p' := by
  intro p p' h
  refine ⟨⟨?_, reports_layerSignal.1⟩, h.view, h.classes, h.monitors⟩
  exact (gist_layerSignal _).trans (gist_layerSignal _).symm

lemma corridorEvaluate_paired : Paired (Linked sessionId c c' S)
    (corridorEvaluate P env payload direction sessionId)
    (corridorEvaluate P env' payload direction sessionId)
    fun w p w' p' => SameGist sessionId w w' ∧ Linked sessionId c c' S p p' := by
  intro p p' h
  have he : p.constitutionalEvaluator = p'.constitutionalEvaluator := congrArg View.evaluator h.view
  refine ⟨⟨?_, reports_layerSignal.1⟩, h.view, h.classes, h.monitors⟩
  refine (gist_layerSignal _).trans ?_
  rw [he]
  exact (gist_layerSignal _).symm

lemma view_overwatchEvaluate :
    (result (overwatchEvaluate P env payload direction sessionId) p).2.view sessionId =
      { p.view sessionId with
        fingerprint := some (p.overwatch.fingerprintAfter P env payload direction sessionId) } := by
  simp only [overwatchEvaluate, result_modifyGet, OverWatch.evaluate, view, Finmap.lookup_insert,
    OverWatch.fingerprintAfter]

/-- OverWatch reports the same on both sides. -/
lemma overwatchEvaluate_paired {T : OIM → OIM → Prop} {f : Option Finding}
    (hclock : env.clock = env'.clock) :
    Paired (Linked sessionId c c' fun ow o o' =>
        ow.reportOn P payload direction sessionId = f ∧ T o o')
      (overwatchEvaluate P env payload direction sessionId)
      (overwatchEvaluate P env' payload direction sessionId)
      fun w p w' p' => (w.gist = findingGist direction sessionId f ∧
        w'.gist = findingGist direction sessionId f) ∧
        Linked sessionId c c' (fun _ => T) p p' := by
  intro p p' h
  have hc : p.overwatch.config = p'.overwatch.config := congrArg View.overwatchConfig h.view
  have hf : p.overwatch.sessions.lookup sessionId = p'.overwatch.sessions.lookup sessionId :=
    congrArg View.fingerprint h.view
  have h0 := Supply.now_eq (Supply.clock_part hclock 0)
  have h1 := Supply.now_eq (Supply.clock_part hclock 1)
  have hreport := reportOn_of_view P payload direction h.view
  refine ⟨⟨?_, ?_⟩, ⟨?_, h.classes, h.monitors.2⟩⟩
  · rw [← h.monitors.1]
    exact gist_layerSignal _
  · rw [← h.monitors.1, hreport]
    exact gist_layerSignal _
  · have hfp : p.overwatch.fingerprintAfter P env payload direction sessionId =
        p'.overwatch.fingerprintAfter P env' payload direction sessionId := by
      simp only [OverWatch.fingerprintAfter, hc, hf, h0, h1]
    rw [view_overwatchEvaluate, view_overwatchEvaluate, h.view, hfp]

lemma processWithModifier_paired (hclock : env.clock = env'.clock)
    (hw : SameGist sessionId w w') : Paired (Linked sessionId c c' S)
      (processWithModifier P env w modifier) (processWithModifier P env' w' modifier)
      fun state p state' p' => state = state' ∧ Linked sessionId c c' S p p' := by
  intro p p' h
  obtain ⟨hg, rfl⟩ := hw
  have ha := h.sameEntry.processWithModifier P p.crypto p'.crypto modifier hclock hg
  exact ⟨ha.1, h.withArbiter ha.2 _ _⟩

lemma process_paired (hclock : env.clock = env'.clock) (hw : SameGist sessionId w w') :
    Paired (Linked sessionId c c' S) (process P env w) (process P env' w')
      fun state p state' p' => state = state' ∧ Linked sessionId c c' S p p' := by
  intro p p' h
  obtain ⟨hg, rfl⟩ := hw
  have ha := h.sameEntry.process P p.crypto p'.crypto hclock hg
  exact ⟨ha.1, h.withArbiter ha.2 _ _⟩

/-- The entry of the session in the memories may change in both pipelines alike. -/
lemma Linked.withMemory (h : Linked sessionId c c' S p p') (mem : SessionMemory) :
    Linked sessionId c c' S
      { p with sessionMemories := p.sessionMemories.insert sessionId mem }
      { p' with sessionMemories := p'.sessionMemories.insert sessionId mem } where
  view := by
    change { p.view sessionId with
      memory := (p.sessionMemories.insert sessionId mem).lookup sessionId }
      = { p'.view sessionId with
          memory := (p'.sessionMemories.insert sessionId mem).lookup sessionId }
    rw [h.view, Finmap.lookup_insert, Finmap.lookup_insert]
  classes := h.classes
  monitors := h.monitors

lemma initSessionMemory_paired (hclock : env.clock = env'.clock) :
    Paired (Linked sessionId c c' S) (initSessionMemory env sessionId)
      (initSessionMemory env' sessionId)
      fun modifier p modifier' p' => modifier = modifier' ∧ Linked sessionId c c' S p p' := by
  intro p p' h
  have ha : p.strategicMemory.adviseSessionStart sessionId =
      p'.strategicMemory.adviseSessionStart sessionId := congrArg View.advice h.view
  unfold initSessionMemory
  rw [result_modifyGet, result_modifyGet, ← memory_of_view h.view, ← ha, Supply.now_eq hclock]
  cases p.sessionMemories.lookup sessionId with
  | some mem => exact ⟨rfl, h⟩
  | none => exact ⟨rfl, h.withMemory _⟩

/-- The signals tracked so far say the same. -/
def SameHighest (highest highest' : Option GovernanceSignal) : Prop :=
  highest.map (·.gist) = highest'.map (·.gist)

lemma ingestToMemory_paired {highest highest' : Option GovernanceSignal}
    {classification : RequestClassification} (hclock : env.clock = env'.clock)
    (hh : SameHighest highest highest') : Paired (Linked sessionId c c' S)
      (ingestToMemory env sessionId highest classification)
      (ingestToMemory env' sessionId highest' classification)
      fun verdict p verdict' p' => verdict = verdict' ∧ Linked sessionId c c' S p p' := by
  intro p p' h
  have hc : p.memoryConfig = p'.memoryConfig := congrArg View.memoryConfig h.view
  unfold ingestToMemory
  rw [result_modifyGet, result_modifyGet, ← memory_of_view h.view]
  cases highest with
  | none =>
    obtain rfl : highest' = none := by simpa [SameHighest] using hh
    exact ⟨rfl, h⟩
  | some w =>
    obtain ⟨w', rfl, hw⟩ : ∃ w', highest' = some w' ∧ w'.gist = w.gist := by
      simpa [SameHighest, eq_comm] using hh
    cases p.sessionMemories.lookup sessionId with
    | none => exact ⟨rfl, h⟩
    | some mem =>
      have hr : mem.ingestSignal env.now w classification p.memoryConfig =
          mem.ingestSignal env'.now w' classification p'.memoryConfig := by
        rw [ingestSignal_of_gist hw, hc, Supply.now_eq hclock]
      dsimp only
      rw [hr]
      exact ⟨rfl, h.withMemory _⟩

lemma buildMemorySignal_paired {verdict : MemoryVerdict} : Paired (Linked sessionId c c' S)
    (buildMemorySignal P env sessionId verdict direction)
    (buildMemorySignal P env' sessionId verdict direction)
    fun w p w' p' => SameGist sessionId w w' ∧ Linked sessionId c c' S p p' :=
  fun _ _ h => ⟨⟨rfl, rfl⟩, h.view, h.classes, h.monitors⟩

lemma recordApproval_paired {govTxId govTxId' : Str}
    {contextHash contextHash' runId runId' : Option Str} :
    Paired (Linked sessionId c c' S) (recordApproval env govTxId w contextHash runId)
      (recordApproval env' govTxId' w' contextHash' runId')
      fun _ p _ p' => Linked sessionId c c' S p p' :=
  fun _ _ h => ⟨h.view, h.classes, h.monitors⟩

/-- Two answers of the gate without a token: the same, but for the action class that a reason
names. -/
inductive SameVerdict (c c' : Str) : HaapVerdict → HaapVerdict → Prop
  | authorized (drs : ℕ) (agency : AgencyLevel) :
    SameVerdict c c' (.authorized drs agency) (.authorized drs agency)
  | gateRequired (drs : ℕ) (agency : AgencyLevel) (w w' : GovernanceSignal) :
    SameVerdict c c' (.gateRequired drs agency (HaapGate.gateReason c agency drs) w)
      (.gateRequired drs agency (HaapGate.gateReason c' agency drs) w')
  | constitutionalBlock (drs : ℕ) (w w' : GovernanceSignal) :
    SameVerdict c c' (.constitutionalBlock drs w) (.constitutionalBlock drs w')

/-- The gate may change in both pipelines alike. -/
lemma Linked.withHaap {g g' : HaapGate} (h : Linked sessionId c c' S p p')
    (ht : g.constitutionalBlockThreshold = g'.constitutionalBlockThreshold)
    (hp : g.preauthsOf sessionId = g'.preauthsOf sessionId)
    (hc : ∀ e ∈ g.preauthsOf sessionId, e.1 = c ↔ e.1 = c') (crypto crypto' : CryptoEngine) :
    Linked sessionId c c' S { p with haap := g, crypto } { p' with haap := g', crypto := crypto' }
    where
  view := by
    change { p.view sessionId with
        blockThreshold := g.constitutionalBlockThreshold, preauths := g.preauthsOf sessionId } =
      { p'.view sessionId with
        blockThreshold := g'.constitutionalBlockThreshold, preauths := g'.preauthsOf sessionId }
    rw [h.view, ht, hp]
  classes := hc
  monitors := h.monitors

lemma haapEvaluate_paired {agency : AgencyLevel} (hclock : env.clock = env'.clock) :
    Paired (Linked sessionId c c' S) (haapEvaluate P env sessionId agency c none)
      (haapEvaluate P env' sessionId agency c' none)
      fun v p v' p' => SameVerdict c c' v v' ∧ Linked sessionId c c' S p p' := by
  intro p p' h
  have ht : p.haap.constitutionalBlockThreshold = p'.haap.constitutionalBlockThreshold :=
    congrArg View.blockThreshold h.view
  have hp : p.haap.preauthsOf sessionId = p'.haap.preauthsOf sessionId :=
    congrArg View.preauths h.view
  unfold haapEvaluate
  rw [result_modifyGet, result_modifyGet, ← sessionDrs_of_view h.view]
  unfold HaapGate.evaluate
  rw [← ht]
  dsimp only
  split
  · exact ⟨.constitutionalBlock _ _ _, h.view, h.classes, h.monitors⟩
  split
  · exact ⟨.authorized _ _, h.view, h.classes, h.monitors⟩
  have hq := HaapGate.isPreauthorized_spec p.haap (env.part 1).now sessionId c
  have hq' := HaapGate.isPreauthorized_spec p'.haap (env'.part 1).now sessionId c'
  rw [← Supply.now_eq (Supply.clock_part hclock 1), ← hp] at hq'
  rcases hd : p.haap.isPreauthorized (env.part 1).now sessionId c with ⟨b, g⟩
  rcases hd' : p'.haap.isPreauthorized (env'.part 1).now sessionId c' with ⟨b', g'⟩
  rw [hd] at hq
  rw [← Supply.now_eq (Supply.clock_part hclock 1)] at hd'
  rw [hd'] at hq'
  obtain ⟨hb, hg, hgt⟩ := hq
  obtain ⟨hb', hg', hgt'⟩ := hq'
  have hlive : ∀ e ∈ g.preauthsOf sessionId, e.1 = c ↔ e.1 = c' := by
    rw [hg]
    exact fun e he => h.classes e (List.mem_of_mem_filter he)
  have hsame : b = b' := by
    refine hb.trans (Eq.trans ?_ hb'.symm)
    rw [Bool.eq_iff_iff, List.any_eq_true, List.any_eq_true]
    refine exists_congr fun e => and_congr_right fun he => ?_
    simpa using hlive e (hg ▸ he)
  subst hsame
  have hlinked := h.withHaap (hgt.trans (ht.trans hgt'.symm)) (hg.trans hg'.symm) hlive
  cases b with
  | true => exact ⟨.authorized _ _, hlinked _ _⟩
  | false => exact ⟨.gateRequired _ _ _ _, hlinked _ _⟩

/-- What two monitors of the monitor make of signals with one content: they end related, and
they report alike when `A` holds. -/
structure HeardAlike (env env' : Supply) (g : Gist) (o o' : OIM) (A : Prop)
    (T : OIM → OIM → Prop) : Prop where
  start : T o o'
  after : ∀ w w', w.gist = g → w'.gist = g → T (o.heard env w) (o'.heard env' w')
  report : A → ∀ w w', w.gist = g → w'.gist = g → o.reportOn env w = o'.reportOn env' w'

/-- A call that ends before OIM is asked. -/
lemma Linked.ended {g : Gist} {A : Prop} {T : OIM → OIM → Prop} (h : Linked sessionId c c' S p p')
    (ho : HeardAlike env env' g p.oim p'.oim A T) :
    Linked sessionId c c' (fun _ => T) p p' := ⟨h.view, h.classes, ho.start⟩

/-- OIM hears a signal of each side. -/
lemma oimObserve_paired {g : Gist} {o o' : OIM} {A : Prop} {T : OIM → OIM → Prop}
    (ho : HeardAlike env env' g o o' A T) (hw : w.gist = g) (hw' : w'.gist = g)
    (hg : g.sessionId = sessionId) :
    Paired (Linked sessionId c c' fun _ x x' => x = o ∧ x' = o') (oimObserve P env w)
      (oimObserve P env' w') fun v p v' p' =>
        p.oim ≠ o ∧ (A → SameGist sessionId v v') ∧ Linked sessionId c c' (fun _ => T) p p' := by
  intro p p' h
  obtain ⟨rfl, rfl⟩ := h.monitors
  have hsid : w.sessionId = sessionId := (congrArg Gist.sessionId hw).trans hg
  refine ⟨OIM.heard_ne, fun hA => ⟨?_, reports_layerSignal.1.trans hsid⟩,
    h.view, h.classes, ho.after w w' hw hw'⟩
  have hd : w.direction = w'.direction := congrArg Gist.direction (hw.trans hw'.symm)
  have hs : w.sessionId = w'.sessionId := sessionId_of_gist (hw.trans hw'.symm)
  refine OIM.gist_observe.trans (Eq.trans ?_ OIM.gist_observe.symm)
  rw [hd, hs, ho.report hA w w' hw hw']

end Layers

end Pipeline

end GovSec
