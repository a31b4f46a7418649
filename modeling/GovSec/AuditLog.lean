import GovSec.ArbiterRuns

/-!
The exported audit log, read by someone who has nothing else: an entry is checked by
rebuilding the signed text from its own fields.

Four of the five fields are stored as they were signed. The fifth is not: the signature covers
the time of the signal, and the entry stores the time at which it was written.
-/

namespace GovSec

open GovSec.Lib.Text GovSec.Lib.Maps GovSec.Lib.Runs

variable (P : Platform)

namespace AuditEntry

/-- The signed text as the stored fields give it. -/
def canonical (e : AuditEntry) : Str :=
  joinWith '|' [e.sessionId, e.stateBefore, e.stateAfter, e.source, P.timeText e.timestamp]

/-- The stored signature and the stored hashes are those of the rebuilt text. -/
structure SelfVerifying (e : AuditEntry) : Prop where
  signature : CryptoEngine.verifies P (e.canonical P) e.signature = true
  chained : e.currentChainHash = computeHash P (e.prevChainHash ++ e.canonical P)

end AuditEntry

namespace Arbiter

variable {P} {env : Supply} {crypto : CryptoEngine} {a : Arbiter} {sessionId : Str}
  {signal : GovernanceSignal} {modifier : ℚ} {t : Thresholds} {s : Arbiter × CryptoEngine}

/-- Every entry that `b` has beyond those of `a` verifies itself. -/
def Appends (P : Platform) (a b : Arbiter) : Prop :=
  ∃ es, b.auditLog = a.auditLog ++ es ∧ ∀ e ∈ es, e.SelfVerifying P

lemma Appends.of_eq {b : Arbiter} (h : b.auditLog = a.auditLog) : Appends P a b :=
  ⟨[], by rw [h, List.append_nil], fun _ he => absurd he List.not_mem_nil⟩

/-- **One entry.** It verifies itself when the clock that stamps it shows the time of the
signal. -/
lemma writeAuditEntry_appends (hP : SignsCorrectly P) {before after : SecurityState}
    (htime : P.timeText env.now = P.timeText signal.timestamp) :
    Appends P a (writeAuditEntry P env crypto a sessionId before after signal).1 := by
  refine ⟨[_], rfl, fun e he => ?_⟩
  obtain rfl := List.mem_singleton.mp he
  constructor
  · rw [CryptoEngine.verifies_sign, AuditEntry.canonical, htime]
    exact hP _
  · rw [AuditEntry.canonical, htime]

lemma transition_appends (hP : SignsCorrectly P) {before target : SecurityState}
    (htime : P.timeText (env.part 1).now = P.timeText signal.timestamp) :
    Appends P a (transition P env crypto a sessionId before target signal).1 := by
  unfold transition
  split
  · exact .of_eq rfl
  · exact writeAuditEntry_appends hP htime

/-- A call of `process` writes at most the entry of its transition. -/
lemma processUnder_appends (hP : SignsCorrectly P)
    (htime : a.currentState signal.sessionId < a.decided t signal →
      P.timeText ((env.part 1).part 1).now = P.timeText signal.timestamp) :
    Appends P a (processUnder P env crypto a t signal).2.1 := by
  simp only [processUnder, openSession_currentState]
  split
  · exact .of_eq rfl
  · split
    · next hlt => exact transition_appends hP (htime hlt)
    · exact .of_eq rfl

/-- The clock of the entry that a call with a modifier writes. -/
def entryClock (env : Supply) (modifier : ℚ) : DateTime :=
  if modifier ≤ 0 then (env.part 1).now else ((env.part 1).part 1).now

lemma processWithModifier_appends (hP : SignsCorrectly P)
    (htime : a.currentState signal.sessionId < a.decidedWith modifier signal →
      P.timeText (entryClock env modifier) = P.timeText signal.timestamp) :
    Appends P a (processWithModifier P env crypto a signal modifier).2.1 := by
  unfold decidedWith effectiveThresholds entryClock at htime
  unfold processWithModifier
  split
  · next hm =>
    simp only [hm, if_true] at htime
    simp only
    split
    · exact .of_eq rfl
    · next hclean =>
      simp only [hclean, Bool.false_eq_true, if_false] at htime
      split
      · next hlt => exact transition_appends hP (htime hlt)
      · exact .of_eq rfl
  · next hm =>
    simp only [hm, if_false] at htime
    split
    · next hone =>
      simp only [hone, if_true] at htime
      exact processUnder_appends hP htime
    · next hone =>
      simp only [hone, if_false] at htime
      exact processUnder_appends hP htime

/-- An attempt to reset writes an entry for a signal it has just built. -/
lemma operatorResetSession_appends (hP : SignsCorrectly P) {operatorToken : Str}
    (htime : a.resetAuthority.isSome = true →
      P.timeText (env.part 1).now = P.timeText (env.part 0).now) :
    Appends P a (operatorResetSession P env crypto a sessionId operatorToken).2.1 := by
  unfold operatorResetSession
  split
  · exact .of_eq rfl
  · next authority hauth =>
    have hclock := htime (by rw [hauth]; rfl)
    split
    · exact writeAuditEntry_appends hP hclock
    · exact writeAuditEntry_appends hP hclock

/-- A call that escalates its session, or that attempts a reset, reads the same time twice:
where its signal was built and where its entry is written. -/
def StampedAlike (P : Platform) (s : Arbiter × CryptoEngine) : Op → Prop
  | .process env signal =>
    s.1.currentState signal.sessionId < s.1.decided s.1.config.thresholds signal →
      P.timeText ((env.part 1).part 1).now = P.timeText signal.timestamp
  | .processWithModifier env signal modifier =>
    s.1.currentState signal.sessionId < s.1.decidedWith modifier signal →
      P.timeText (entryClock env modifier) = P.timeText signal.timestamp
  | .applyMemoryFloor _ _ => True
  | .operatorResetSession env _ _ =>
    s.1.resetAuthority.isSome = true → P.timeText (env.part 1).now = P.timeText (env.part 0).now
  | .forgetSession _ => True

/-- **What one call appends.** -/
theorem step_appends (hP : SignsCorrectly P) {op : Op} (h : StampedAlike P s op) :
    Appends P s.1 (step P s op).2.1 := by
  cases op with
  | process env signal => exact processUnder_appends hP h
  | processWithModifier env signal modifier => exact processWithModifier_appends hP h
  | applyMemoryFloor memoryState decided => exact .of_eq rfl
  | operatorResetSession env sessionId operatorToken => exact operatorResetSession_appends hP h
  | forgetSession sessionId => exact .of_eq rfl

/-- An entry of a started arbiter's log was appended by some call of the run. -/
lemma selfVerifying_of_always (hP : SignsCorrectly P) {ops : List Op}
    (hs : ∀ e ∈ s.1.auditLog, e.SelfVerifying P)
    (h : (system P).Always (StampedAlike P) s ops) :
    ∀ e ∈ ((system P).exec s ops).2.1.auditLog, e.SelfVerifying P := by
  induction ops generalizing s with
  | nil => exact hs
  | cons op ops ih =>
    refine ih (fun e he => ?_) h.2
    obtain ⟨es, hlog, hes⟩ := step_appends hP h.1
    have hmem : e ∈ s.1.auditLog ++ es := hlog ▸ he
    exact (List.mem_append.mp hmem).elim (hs e) (hes e)

/-- **When the exported log verifies itself.** In every run whose calls stamp their entries with
the time of the signal, each exported entry is verified by its own fields. -/
theorem auditLog_selfVerifying (hP : SignsCorrectly P) {config : ArbiterConfig}
    {resetToken : Option Str} {ops : List Op}
    (h : (system P).Always (StampedAlike P) (started P config resetToken, crypto) ops) :
    ∀ e ∈ ((system P).exec (started P config resetToken, crypto) ops).2.1.auditLog,
      e.SelfVerifying P := by
  refine selfVerifying_of_always hP (fun e he => ?_) h
  have hempty : (started P config resetToken).auditLog = [] := by
    unfold started
    split <;> rfl
  rw [hempty] at he
  exact absurd he List.not_mem_nil

/-! ### A signal and its entry at two times -/

/-- A platform whose hash depends on the last character of the text. -/
def lastCharPlatform : Platform :=
  fixedPlatform (fun t => Hex.repeated 64 (Fin.ofNat 16 ((t.getLast?.getD '0').toNat)))
    fun _ _ => false

/-- A critical signal built at time 0. -/
def lockingSignal : GovernanceSignal :=
  (violationSignal .corridor .inbound "s" "V" "R" .critical 0.95 [] []).build (fixedSupply 0 0)

theorem auditLog_selfVerifying_atOnce :
    ∃ e ∈ ((system lastCharPlatform).exec (started lastCharPlatform .default none, ⟨[]⟩)
      [.process (fixedSupply 0 1) lockingSignal]).2.1.auditLog,
        e.SelfVerifying lastCharPlatform := by
  have hlength : 0 < ((system lastCharPlatform).exec (started lastCharPlatform .default none, ⟨[]⟩)
      [.process (fixedSupply 0 1) lockingSignal]).2.1.auditLog.length := by decide +kernel
  obtain ⟨e, he⟩ := List.exists_mem_of_length_pos hlength
  refine ⟨e, he, auditLog_selfVerifying ?_ ?_ e he⟩
  · exact fun _ => rfl
  · exact ⟨fun _ => rfl, trivial⟩

/-- **An entry that its own fields do not verify**: the signal was built at time 0 and the entry
is written at time 7. -/
theorem auditLog_not_selfVerifying :
    SignsCorrectly lastCharPlatform ∧
    ¬ ∀ e ∈ ((system lastCharPlatform).exec (started lastCharPlatform .default none, ⟨[]⟩)
      [.process (fixedSupply 7 1) lockingSignal]).2.1.auditLog,
        e.SelfVerifying lastCharPlatform := by
  refine ⟨fun _ => rfl, fun h => ?_⟩
  have hbad : ∃ e ∈ ((system lastCharPlatform).exec (started lastCharPlatform .default none, ⟨[]⟩)
      [.process (fixedSupply 7 1) lockingSignal]).2.1.auditLog,
      e.currentChainHash ≠
        computeHash lastCharPlatform (e.prevChainHash ++ e.canonical lastCharPlatform) := by
    decide +kernel
  obtain ⟨e, he, hne⟩ := hbad
  exact hne (h e he).chained

end Arbiter

end GovSec
