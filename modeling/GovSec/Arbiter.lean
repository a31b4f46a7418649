import GovSec.SessionMemory

/-!
The arbiter: one security state per session, escalated by signals and reset only by an
operator.

Both entry points decide by the same ladder of thresholds. Each one is described by one lemma
that says what it returns and one that says what it leaves stored.
-/

namespace GovSec

open GovSec.Lib.Text GovSec.Lib.Maps

inductive SecurityState
  | S1
  | S2
  | S3
  | S4
  deriving DecidableEq

namespace SecurityState

def rank : SecurityState → ℕ
  | S1 => 1
  | S2 => 2
  | S3 => 3
  | S4 => 4

lemma rank_injective : Function.Injective rank := by
  intro a b h; cases a <;> cases b <;> simp [rank] at h ⊢

/-- The order of the derived `Ord`. -/
instance : LinearOrder SecurityState := LinearOrder.lift' rank rank_injective

lemma le_iff {a b : SecurityState} : a ≤ b ↔ a.rank ≤ b.rank := Iff.rfl
lemma lt_iff {a b : SecurityState} : a < b ↔ a.rank < b.rank := Iff.rfl

lemma le_S4 (a : SecurityState) : a ≤ S4 := by cases a <;> decide
lemma S1_le (a : SecurityState) : S1 ≤ a := by cases a <;> decide

/-- The `Display` form. -/
def text : SecurityState → Str
  | S1 => "S1_MONITOR"
  | S2 => "S2_RESTRICT"
  | S3 => "S3_QUARANTINE"
  | S4 => "S4_HARDLOCK"

end SecurityState

/-! ### Configuration -/

inductive IndustryProfile
  | medical
  | finance
  | development
  | defense
  | consumer
  deriving DecidableEq

/-- The confidences from which a signal of each severity acts. -/
structure Thresholds where
  medium : ℚ
  high : ℚ
  critical : ℚ
  deriving DecidableEq

structure ArbiterConfig where
  thresholds : Thresholds
  lockdownDurationSecs : ℕ
  industryProfile : IndustryProfile
  deriving DecidableEq

namespace ArbiterConfig

/-- `ArbiterConfig::default()`. -/
def default : ArbiterConfig := ⟨⟨0.70, 0.80, 0.90⟩, 3600, .consumer⟩
def medical : ArbiterConfig := ⟨⟨0.85, 0.90, 0.95⟩, 1800, .medical⟩
def defense : ArbiterConfig := ⟨⟨0.55, 0.65, 0.75⟩, 7200, .defense⟩

end ArbiterConfig

/-- Medium, high and critical thresholds in this order. -/
structure Thresholds.Ordered (t : Thresholds) : Prop where
  medium_le_high : t.medium ≤ t.high
  high_le_critical : t.high ≤ t.critical

namespace Thresholds

def scale (t : Thresholds) (modifier : ℚ) : Thresholds :=
  ⟨t.medium * modifier, t.high * modifier, t.critical * modifier⟩

lemma Ordered.scale {t : Thresholds} (h : t.Ordered) {modifier : ℚ} (hm : 0 ≤ modifier) :
    (t.scale modifier).Ordered where
  medium_le_high := mul_le_mul_of_nonneg_right h.medium_le_high hm
  high_le_critical := mul_le_mul_of_nonneg_right h.high_le_critical hm

end Thresholds

/-! ### The ladder -/

/-- At least `S2`, reached from `S1` only. -/
def raiseToS2 : SecurityState → SecurityState
  | .S1 => .S2
  | other => other

/-- At least `S3`, reached from `S1` and `S2`. -/
def raiseToS3 : SecurityState → SecurityState
  | .S1 | .S2 => .S3
  | other => other

/-- The target state for a signal under the thresholds `t`. -/
def targetState (t : Thresholds) (current : SecurityState) (severity : Severity)
    (confidence : ℚ) : SecurityState :=
  match severity with
  | .none | .low => current
  | .medium => if t.medium ≤ confidence then raiseToS2 current else current
  | .high =>
    if t.high ≤ confidence then raiseToS3 current
    else if t.medium ≤ confidence then raiseToS2 current
    else current
  | .critical =>
    if t.critical ≤ confidence then .S4
    else if t.high ≤ confidence then raiseToS3 current
    else current

lemma le_raiseToS2 (s : SecurityState) : s ≤ raiseToS2 s := by cases s <;> decide
lemma le_raiseToS3 (s : SecurityState) : s ≤ raiseToS3 s := by cases s <;> decide

lemma le_targetState (t : Thresholds) (current : SecurityState) (severity : Severity)
    (confidence : ℚ) : current ≤ targetState t current severity confidence := by
  unfold targetState
  split
  · exact le_rfl
  · exact le_rfl
  · split <;> simp [le_raiseToS2]
  · split
    · exact le_raiseToS3 _
    · split <;> simp [le_raiseToS2]
  · split
    · exact current.le_S4
    · split <;> simp [le_raiseToS3]

/-! ### Operator authority -/

def minOperatorResetTokenLength : ℕ := 43

def placeholderMarkers : List Str :=
  ["PLACEHOLDER", "CHANGE_ME", "CHANGEME", "GENERATE_A_STRONG_RANDOM_TOKEN_HERE"]

def looksLikePlaceholder (upper : Str) : Bool :=
  containsAny upper placeholderMarkers || (contains upper "YOUR_" && contains upper "_HERE")

inductive OperatorResetConfigError
  | missing
  | empty
  | tooShort
  | placeholder
  deriving DecidableEq

/-- A validated reset credential. -/
structure OperatorResetAuthority where
  token : Str
  long : minOperatorResetTokenLength ≤ utf8Len token

namespace OperatorResetAuthority

def fromConfig (P : Platform) (raw : Option Str) :
    Except OperatorResetConfigError OperatorResetAuthority :=
  match raw with
  | none => .error .missing
  | some raw =>
    let trimmed := trim raw
    if trimmed = [] then .error .empty
    else if h : utf8Len trimmed < minOperatorResetTokenLength then .error .tooShort
    else if looksLikePlaceholder (P.toUppercase trimmed) then .error .placeholder
    else .ok ⟨trimmed, not_lt.mp h⟩

def verify (a : OperatorResetAuthority) (submitted : Str) : Bool := a.token = submitted

end OperatorResetAuthority

/-! ### State -/

structure SessionState where
  current : SecurityState
  lockedUntil : Option DateTime
  deriving DecidableEq

def SessionState.new : SessionState := ⟨.S1, none⟩

structure Arbiter where
  config : ArbiterConfig
  sessionStates : HashMap Str SessionState
  auditLog : List AuditEntry
  resetAuthority : Option OperatorResetAuthority

namespace Arbiter

def new (config : ArbiterConfig) : Arbiter := ⟨config, ∅, [], none⟩

def configureOperatorResetAuthority (a : Arbiter) (authority : OperatorResetAuthority) :
    Except Str Unit × Arbiter :=
  match a.resetAuthority with
  | some _ => (.error "Operator reset authority already configured", a)
  | none => (.ok (), { a with resetAuthority := some authority })

def memoryFloor : MemoryState → Option SecurityState
  | .clear => none
  | .watching => none
  | .elevated => some .S2
  | .escalated => some .S3
  | .locked => some .S4

def applyMemoryFloor (memoryState : MemoryState) (decided : SecurityState) : SecurityState :=
  match memoryFloor memoryState with
  | some floor => if decided < floor then floor else decided
  | none => decided

def currentState (a : Arbiter) (sessionId : Str) : SecurityState :=
  match a.sessionStates.lookup sessionId with
  | some s => s.current
  | none => .S1

def isLocked (a : Arbiter) (now : DateTime) (sessionId : Str) : Bool :=
  match (a.sessionStates.lookup sessionId).bind (·.lockedUntil) with
  | some t => now < t
  | none => false

variable (P : Platform) (env : Supply) (crypto : CryptoEngine) (a : Arbiter)

def writeAuditEntry (sessionId : Str) (stateBefore stateAfter : SecurityState)
    (signal : GovernanceSignal) : Arbiter × CryptoEngine :=
  let prevHash := crypto.getLatestHash
  let entryCanonical := joinWith '|'
    [sessionId, stateBefore.text, stateAfter.text, signal.source.text, P.timeText signal.timestamp]
  let (currentHash, crypto) := crypto.extendChain P entryCanonical
  let entry : AuditEntry :=
    { eventId := env.fresh
      timestamp := env.now
      sessionId
      source := signal.source.text
      direction := signal.direction.text
      stateBefore := stateBefore.text
      stateAfter := stateAfter.text
      violationClass := signal.violationClass
      policyRuleId := signal.policyRuleId
      severity := signal.severity.text
      confidence := signal.confidence
      constitutionalRef := signal.constitutionalRef
      payloadHash := signal.payloadHash
      prevChainHash := prevHash
      currentChainHash := currentHash
      signature := CryptoEngine.sign P entryCanonical }
  ({ a with auditLog := a.auditLog ++ [entry] }, crypto)

/-- The write of a new state, when the session exists. -/
def writeState (now : DateTime) (sessionId : Str) (target : SecurityState) : Arbiter :=
  { a with
    sessionStates := modifyAt a.sessionStates sessionId fun s =>
      { current := target
        lockedUntil :=
          if target = .S4 then some (now + asI64 a.config.lockdownDurationSecs * nanosPerSec)
          else s.lockedUntil } }

/-- Execute a transition, which only escalates from `stateBefore`. -/
def transition (sessionId : Str) (stateBefore target : SecurityState) (signal : GovernanceSignal) :
    Arbiter × CryptoEngine :=
  if target ≤ stateBefore then (a, crypto)
  else
    writeAuditEntry P (env.part 1) crypto (a.writeState env.now sessionId target) sessionId
      stateBefore target signal

def initSession (sessionId : Str) : Arbiter :=
  { a with sessionStates := orInsert a.sessionStates sessionId .new }

/-- A lockdown that has run out is forgotten; the state stays. -/
def expireLockdown (now : DateTime) (sessionId : Str) : Arbiter :=
  { a with
    sessionStates := modifyAt a.sessionStates sessionId fun s =>
      match s.lockedUntil with
      | some lockedUntil => if lockedUntil ≤ now then { s with lockedUntil := none } else s
      | none => s }

/-- The two blocks both entry points start with. -/
def openSession (now : DateTime) (sessionId : Str) : Arbiter :=
  (a.initSession sessionId).expireLockdown now sessionId

def determineNewState (current : SecurityState) (signal : GovernanceSignal) : SecurityState :=
  targetState a.config.thresholds current signal.severity signal.confidence

/-- What `process` and `process_with_modifier` share, under the thresholds `t`. -/
def processUnder (t : Thresholds) (signal : GovernanceSignal) :
    SecurityState × Arbiter × CryptoEngine :=
  let sessionId := signal.sessionId
  let a := a.openSession (env.part 0).now sessionId
  if signal.isClean then (a.currentState sessionId, a, crypto)
  else
    let stateBefore := a.currentState sessionId
    let newState := targetState t stateBefore signal.severity signal.confidence
    let (a, crypto) :=
      if stateBefore < newState then
        transition P (env.part 1) crypto a sessionId stateBefore newState signal
      else (a, crypto)
    (a.currentState sessionId, a, crypto)

def process (signal : GovernanceSignal) : SecurityState × Arbiter × CryptoEngine :=
  processUnder P env crypto a a.config.thresholds signal

/-- The thresholds in force under a modifier; `none` is the modifier that blocks everything. -/
def effectiveThresholds (config : ArbiterConfig) (modifier : ℚ) : Option Thresholds :=
  if modifier ≤ 0 then none
  else if |modifier - 1| < 0.001 then some config.thresholds
  else some (config.thresholds.scale modifier)

def processWithModifier (signal : GovernanceSignal) (modifier : ℚ) :
    SecurityState × Arbiter × CryptoEngine :=
  if modifier ≤ 0 then
    let sessionId := signal.sessionId
    if signal.isClean then (a.currentState sessionId, a, crypto)
    else
      let stateBefore := a.currentState sessionId
      let (a, crypto) :=
        if stateBefore < .S4 then transition P env crypto a sessionId stateBefore .S4 signal
        else (a, crypto)
      (.S4, a, crypto)
  else if |modifier - 1| < 0.001 then process P env crypto a signal
  else processUnder P env crypto a (a.config.thresholds.scale modifier) signal

def forgetSession (sessionId : Str) : Arbiter :=
  { a with sessionStates := a.sessionStates.erase sessionId }

/-- The audit of a reset attempt, which never contains the credential. -/
def writeResetAuditEntry (sessionId violationClass ruleId : Str) : Arbiter × CryptoEngine :=
  let state := a.currentState sessionId
  let target := if violationClass = "OPERATOR_RESET" then .S1 else state
  let resetSignal :=
    (violationSignal .arbiter .inbound sessionId violationClass ruleId .none 1
      (computeHash P "sentinel/operator_reset") "arbiter/operator_reset").build (env.part 0)
  writeAuditEntry P (env.part 1) crypto a sessionId state target resetSignal

def operatorResetSession (sessionId operatorToken : Str) :
    Except Str Unit × Arbiter × CryptoEngine :=
  match a.resetAuthority with
  | none => (.error "Operator reset authority not configured", a, crypto)
  | some authority =>
    if authority.verify operatorToken then
      let (a, crypto) :=
        writeResetAuditEntry P env crypto a sessionId "OPERATOR_RESET" "ARB-RESET-001"
      (.ok (), { a with
        sessionStates := modifyAt a.sessionStates sessionId fun _ => ⟨.S1, none⟩ }, crypto)
    else
      let (a, crypto) :=
        writeResetAuditEntry P env crypto a sessionId "OPERATOR_RESET_DENIED"
          "ARB-RESET-DENIED-001"
      (.error "Operator reset denied: invalid credential", a, crypto)

/-! ### What each operation leaves stored -/

variable {P env crypto a} {sessionId sid : Str} {signal : GovernanceSignal} {modifier : ℚ}
  {t : Thresholds}

/-- A session has an entry. -/
def Known (a : Arbiter) (sessionId : Str) : Prop := (a.sessionStates.lookup sessionId).isSome = true

instance : Decidable (a.Known sessionId) := inferInstanceAs (Decidable (_ = true))

lemma currentState_of_not_known (h : ¬ a.Known sid) : a.currentState sid = .S1 := by
  unfold Known at h
  unfold currentState
  cases hl : a.sessionStates.lookup sid <;> simp_all

@[simp] lemma writeAuditEntry_sessionStates {s s' : SecurityState} :
    (writeAuditEntry P env crypto a sessionId s s' signal).1.sessionStates = a.sessionStates := rfl

@[simp] lemma writeAuditEntry_config {s s' : SecurityState} :
    (writeAuditEntry P env crypto a sessionId s s' signal).1.config = a.config := rfl

@[simp] lemma writeAuditEntry_currentState {s s' : SecurityState} :
    (writeAuditEntry P env crypto a sessionId s s' signal).1.currentState sid =
      a.currentState sid := rfl

lemma initSession_currentState :
    (a.initSession sessionId).currentState sid = a.currentState sid := by
  simp only [initSession, currentState, lookup_orInsert]
  by_cases h : sid = sessionId
  · subst h
    cases a.sessionStates.lookup sid <;> simp [SessionState.new]
  · rw [if_neg h]

lemma initSession_known : (a.initSession sessionId).Known sid ↔ sid = sessionId ∨ a.Known sid := by
  simp only [initSession, Known, lookup_orInsert]
  split <;> simp [*]

lemma expireLockdown_currentState {now : DateTime} :
    (a.expireLockdown now sessionId).currentState sid = a.currentState sid := by
  simp only [expireLockdown, currentState, lookup_modifyAt]
  by_cases h : sid = sessionId
  · subst h
    rw [if_pos rfl]
    cases a.sessionStates.lookup sid with
    | none => rfl
    | some s =>
      simp only [Option.map_some]
      split
      · split <;> rfl
      · rfl
  · rw [if_neg h]

lemma expireLockdown_known {now : DateTime} :
    (a.expireLockdown now sessionId).Known sid ↔ a.Known sid := by
  simp only [expireLockdown, Known, lookup_modifyAt]
  by_cases h : sid = sessionId
  · subst h; simp
  · simp [h]

lemma openSession_currentState {now : DateTime} :
    (a.openSession now sessionId).currentState sid = a.currentState sid :=
  expireLockdown_currentState.trans initSession_currentState

lemma openSession_known {now : DateTime} :
    (a.openSession now sessionId).Known sid ↔ sid = sessionId ∨ a.Known sid :=
  expireLockdown_known.trans initSession_known

lemma writeState_currentState {now : DateTime} {target : SecurityState} :
    (a.writeState now sessionId target).currentState sid =
      if sid = sessionId ∧ a.Known sessionId then target else a.currentState sid := by
  by_cases h : sid = sessionId
  · subst h
    cases hl : a.sessionStates.lookup sid with
    | none =>
      have hk : ¬ a.Known sid := by simp [Known, hl]
      simp [writeState, currentState, lookup_modifyAt, hl, hk]
    | some s =>
      have hk : a.Known sid := by simp [Known, hl]
      simp [writeState, currentState, lookup_modifyAt, hl, hk]
  · simp [writeState, currentState, lookup_modifyAt, h]

lemma writeState_known {now : DateTime} {target : SecurityState} :
    (a.writeState now sessionId target).Known sid ↔ a.Known sid := by
  simp only [writeState, Known, lookup_modifyAt]
  by_cases h : sid = sessionId
  · subst h; simp
  · simp [h]

/-- A transition that is taken writes its target into a known session, and no other state. -/
lemma transition_currentState {s target : SecurityState} (h : s < target) :
    (transition P env crypto a sessionId s target signal).1.currentState sid =
      if sid = sessionId ∧ a.Known sessionId then target else a.currentState sid := by
  rw [transition, if_neg (not_le.mpr h), writeAuditEntry_currentState, writeState_currentState]

lemma transition_known {s target : SecurityState} :
    (transition P env crypto a sessionId s target signal).1.Known sid ↔ a.Known sid := by
  unfold transition
  split
  · rfl
  · exact writeState_known

lemma transition_config {s target : SecurityState} :
    (transition P env crypto a sessionId s target signal).1.config = a.config := by
  unfold transition
  split <;> rfl

lemma openSession_lookup {now : DateTime} (h : sid ≠ sessionId) :
    (a.openSession now sessionId).sessionStates.lookup sid = a.sessionStates.lookup sid := by
  simp only [openSession, expireLockdown, initSession, lookup_modifyAt, lookup_orInsert, if_neg h]

lemma transition_lookup {s target : SecurityState} (h : sid ≠ sessionId) :
    (transition P env crypto a sessionId s target signal).1.sessionStates.lookup sid =
      a.sessionStates.lookup sid := by
  unfold transition
  split
  · rfl
  · rw [writeAuditEntry_sessionStates, writeState, lookup_modifyAt, if_neg h]

/-- The state the ladder gives for a signal in its session. -/
def decided (a : Arbiter) (t : Thresholds) (signal : GovernanceSignal) : SecurityState :=
  targetState t (a.currentState signal.sessionId) signal.severity signal.confidence

lemma decided_of_clean (h : signal.isClean = true) :
    a.decided t signal = a.currentState signal.sessionId := by
  have hs : signal.severity = .none := by simpa [GovernanceSignal.isClean] using h
  simp [decided, targetState, hs]

variable (P env crypto a t signal sid) in
/-- The state of the session of the signal becomes the decided one; the others stay. -/
lemma processUnder_currentState :
    (processUnder P env crypto a t signal).2.1.currentState sid =
      if sid = signal.sessionId then a.decided t signal else a.currentState sid := by
  have hknown : (a.openSession (env.part 0).now signal.sessionId).Known signal.sessionId :=
    openSession_known.mpr (.inl rfl)
  have hdec : targetState t (a.currentState signal.sessionId) signal.severity signal.confidence =
      a.decided t signal := rfl
  simp only [processUnder, openSession_currentState, hdec]
  split
  · next hclean =>
    rw [openSession_currentState]
    split
    · next h => rw [h, decided_of_clean hclean]
    · rfl
  · split
    · next hlt =>
      rw [transition_currentState hlt, openSession_currentState]
      simp only [hknown, and_true]
    · next hge =>
      rw [openSession_currentState]
      split
      · next h =>
        rw [h]
        exact le_antisymm (le_targetState _ _ _ _) (not_lt.mp hge)
      · rfl

/-- The returned state is the stored one. -/
lemma processUnder_fst :
    (processUnder P env crypto a t signal).1 = a.decided t signal := by
  have h := processUnder_currentState P env crypto a signal.sessionId signal t
  rw [if_pos rfl] at h
  rw [← h]
  simp only [processUnder]
  split <;> rfl

/-- What the opened session has, and keeps in a transition upwards, the call leaves. -/
lemma processUnder_ind {Q : Arbiter → Prop}
    (hopen : Q (a.openSession (env.part 0).now signal.sessionId))
    (htransition : ∀ target,
      let opened := a.openSession (env.part 0).now signal.sessionId
      opened.currentState signal.sessionId < target →
        Q (transition P (env.part 1) crypto opened signal.sessionId
          (opened.currentState signal.sessionId) target signal).1) :
    Q (processUnder P env crypto a t signal).2.1 := by
  simp only [processUnder]
  split
  · exact hopen
  · split
    · next hlt => exact htransition _ hlt
    · exact hopen

lemma processUnder_known :
    (processUnder P env crypto a t signal).2.1.Known sid ↔
      sid = signal.sessionId ∨ a.Known sid :=
  processUnder_ind (Q := fun b => b.Known sid ↔ _) openSession_known
    fun _ _ => transition_known.trans openSession_known

lemma processUnder_config : (processUnder P env crypto a t signal).2.1.config = a.config :=
  processUnder_ind (Q := fun b => b.config = a.config) rfl fun _ _ => transition_config

lemma processUnder_lookup (h : sid ≠ signal.sessionId) :
    (processUnder P env crypto a t signal).2.1.sessionStates.lookup sid =
      a.sessionStates.lookup sid :=
  processUnder_ind (Q := fun b => b.sessionStates.lookup sid = a.sessionStates.lookup sid)
    (openSession_lookup h) fun _ _ => (transition_lookup h).trans (openSession_lookup h)

/-- What `process_with_modifier` decides. -/
def decidedWith (a : Arbiter) (modifier : ℚ) (signal : GovernanceSignal) : SecurityState :=
  match effectiveThresholds a.config modifier with
  | some t => a.decided t signal
  | none => if signal.isClean then a.currentState signal.sessionId else .S4

lemma decidedWith_of_nonpos (hm : modifier ≤ 0) :
    a.decidedWith modifier signal =
      if signal.isClean then a.currentState signal.sessionId else .S4 := by
  simp [decidedWith, effectiveThresholds, hm]

lemma processWithModifier_fst :
    (processWithModifier P env crypto a signal modifier).1 = a.decidedWith modifier signal := by
  unfold processWithModifier decidedWith effectiveThresholds
  split
  · simp only
    split <;> rfl
  · split
    · exact processUnder_fst
    · exact processUnder_fst

/-- The stored state becomes the decided one, except that a blocking modifier stores nothing for
a session without an entry. -/
lemma processWithModifier_currentState :
    (processWithModifier P env crypto a signal modifier).2.1.currentState sid =
      if sid = signal.sessionId ∧ (0 < modifier ∨ a.Known signal.sessionId) then
        a.decidedWith modifier signal
      else a.currentState sid := by
  unfold processWithModifier decidedWith effectiveThresholds
  split
  · next hm =>
    simp only [not_lt.mpr hm, false_or]
    split
    · next hclean =>
      by_cases h : sid = signal.sessionId <;> simp [h]
    · split
      · next hlt => rw [transition_currentState hlt]
      · next hge =>
        have heq : a.currentState signal.sessionId = .S4 :=
          le_antisymm (SecurityState.le_S4 _) (not_lt.mp hge)
        by_cases h : sid = signal.sessionId <;> simp [h, heq]
  · next hm =>
    simp only [not_le.mp hm, true_or, and_true]
    split
    · exact processUnder_currentState ..
    · exact processUnder_currentState ..

lemma processWithModifier_known :
    (processWithModifier P env crypto a signal modifier).2.1.Known sid ↔
      (sid = signal.sessionId ∧ 0 < modifier) ∨ a.Known sid := by
  unfold processWithModifier
  split
  · next hm =>
    simp only [not_lt.mpr hm, and_false, false_or]
    split
    · rfl
    · split
      · exact transition_known
      · rfl
  · next hm =>
    simp only [not_le.mp hm, and_true]
    split
    · exact processUnder_known
    · exact processUnder_known

/-- The three ways of a call: it leaves the arbiter, escalates a session, or runs under
thresholds. -/
lemma processWithModifier_ind {Q : Arbiter → Prop} (hstay : Q a)
    (htransition : ∀ target, a.currentState signal.sessionId < target →
      Q (transition P env crypto a signal.sessionId (a.currentState signal.sessionId) target
        signal).1)
    (hunder : ∀ t, Q (processUnder P env crypto a t signal).2.1) :
    Q (processWithModifier P env crypto a signal modifier).2.1 := by
  unfold processWithModifier
  split
  · simp only
    split
    · exact hstay
    · split
      · next hlt => exact htransition _ hlt
      · exact hstay
  · split
    · exact hunder _
    · exact hunder _

lemma processWithModifier_config :
    (processWithModifier P env crypto a signal modifier).2.1.config = a.config :=
  processWithModifier_ind (Q := fun b => b.config = a.config) rfl (fun _ _ => transition_config)
    fun _ => processUnder_config

/-- The entries of other sessions stay. -/
lemma processWithModifier_lookup (h : sid ≠ signal.sessionId) :
    (processWithModifier P env crypto a signal modifier).2.1.sessionStates.lookup sid =
      a.sessionStates.lookup sid :=
  processWithModifier_ind (Q := fun b => b.sessionStates.lookup sid = a.sessionStates.lookup sid)
    rfl (fun _ _ => transition_lookup h) fun _ => processUnder_lookup h

variable (P env crypto a sessionId) in
lemma operatorResetSession_config (operatorToken : Str) :
    (operatorResetSession P env crypto a sessionId operatorToken).2.1.config = a.config := by
  unfold operatorResetSession
  split
  · rfl
  · split <;> rfl

lemma le_decided : a.currentState signal.sessionId ≤ a.decided t signal := le_targetState _ _ _ _

lemma le_decidedWith : a.currentState signal.sessionId ≤ a.decidedWith modifier signal := by
  unfold decidedWith
  split
  · exact le_decided
  · split
    · exact le_rfl
    · exact SecurityState.le_S4 _

/-- **A call never lowers a stored state.** -/
theorem processWithModifier_le :
    a.currentState sid ≤
      (processWithModifier P env crypto a signal modifier).2.1.currentState sid := by
  rw [processWithModifier_currentState]
  split
  · next h => rw [h.1]; exact le_decidedWith
  · exact le_rfl

theorem process_le :
    a.currentState sid ≤ (process P env crypto a signal).2.1.currentState sid := by
  rw [process, processUnder_currentState]
  split
  · next h => rw [h]; exact le_decided
  · exact le_rfl

end Arbiter

end GovSec
