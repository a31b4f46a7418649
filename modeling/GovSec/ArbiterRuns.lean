import GovSec.Arbiter
import GovSec.Lib.Runs

/-!
Sequential runs of one arbiter: which session an operation touches, what lowers a state, and
what a lock says about the state beside it.
-/

namespace GovSec.Arbiter

open GovSec.Lib.Text GovSec.Lib.Maps GovSec.Lib.Runs

/-- A call with its arguments, its clock readings and its fresh identifiers. -/
inductive Op
  | process (env : Supply) (signal : GovernanceSignal)
  | processWithModifier (env : Supply) (signal : GovernanceSignal) (modifier : ℚ)
  | applyMemoryFloor (memoryState : MemoryState) (decided : SecurityState)
  | operatorResetSession (env : Supply) (sessionId operatorToken : Str)
  | forgetSession (sessionId : Str)

inductive Answer
  | state (s : SecurityState)
  | reset (r : Except Str Unit)
  | forgotten

/-- The session of a call that has one. -/
def Op.sessionId : Op → Option Str
  | .process _ signal => some signal.sessionId
  | .processWithModifier _ signal _ => some signal.sessionId
  | .applyMemoryFloor _ _ => none
  | .operatorResetSession _ sessionId _ => some sessionId
  | .forgetSession sessionId => some sessionId

variable (P : Platform)

/-- One call on an arbiter and the chain it extends. -/
def step (s : Arbiter × CryptoEngine) : Op → Answer × Arbiter × CryptoEngine
  | .process env signal => (process P env s.2 s.1 signal).map .state id
  | .processWithModifier env signal modifier =>
    (processWithModifier P env s.2 s.1 signal modifier).map .state id
  | .applyMemoryFloor memoryState decided => (.state (applyMemoryFloor memoryState decided), s)
  | .operatorResetSession env sessionId operatorToken =>
    (operatorResetSession P env s.2 s.1 sessionId operatorToken).map .reset id
  | .forgetSession sessionId => (.forgotten, s.1.forgetSession sessionId, s.2)

def system : System (Arbiter × CryptoEngine) Op Answer := ⟨step P⟩

/-- The arbiter of a new process: a usable token in the configuration becomes its authority. -/
def started (config : ArbiterConfig) (resetToken : Option Str) : Arbiter :=
  match OperatorResetAuthority.fromConfig P resetToken with
  | .ok authority => ((new config).configureOperatorResetAuthority authority).2
  | .error _ => new config

variable {P} {env : Supply} {crypto : CryptoEngine} {a : Arbiter} {sessionId sid : Str}
  {signal : GovernanceSignal} {modifier : ℚ} {t : Thresholds} {now : DateTime}

/-- A configured token is used without the white space around it. -/
lemma fromConfig_token {resetToken : Option Str} {authority : OperatorResetAuthority}
    (h : OperatorResetAuthority.fromConfig P resetToken = .ok authority) :
    resetToken.map trim = some authority.token := by
  unfold OperatorResetAuthority.fromConfig at h
  cases resetToken with
  | none => cases h
  | some raw =>
    dsimp only at h
    split at h
    · cases h
    · split at h
      · cases h
      · split at h
        · cases h
        · obtain rfl := Except.ok.inj h
          rfl

lemma started_resetAuthority {config : ArbiterConfig} {resetToken : Option Str}
    {authority : OperatorResetAuthority}
    (h : (started P config resetToken).resetAuthority = some authority) :
    resetToken.map trim = some authority.token := by
  unfold started at h
  split at h
  · next authority' heq =>
    obtain rfl : authority' = authority := Option.some.inj h
    exact fromConfig_token heq
  · cases h

/-! ### Resets -/

variable (P env crypto a sessionId) in
/-- A reset is refused and leaves the states, or it carries the token of the authority and
leaves the session, when it is known, in `S1`. -/
lemma operatorResetSession_cases (operatorToken : Str) :
    let r := operatorResetSession P env crypto a sessionId operatorToken
    (∃ e, r.1 = .error e ∧ r.2.1.sessionStates = a.sessionStates) ∨
      (∃ authority, a.resetAuthority = some authority ∧ authority.token = operatorToken) ∧
        r.1 = .ok () ∧
        r.2.1.sessionStates = modifyAt a.sessionStates sessionId fun _ => ⟨.S1, none⟩ := by
  intro r
  cases hauth : a.resetAuthority with
  | none =>
    have hr : r = (.error "Operator reset authority not configured", a, crypto) := by
      simp only [r, operatorResetSession, hauth]
    exact .inl ⟨_, by rw [hr], by rw [hr]⟩
  | some authority =>
    by_cases hv : authority.verify operatorToken = true
    · refine .inr ⟨⟨authority, rfl, by simpa [OperatorResetAuthority.verify] using hv⟩, ?_, ?_⟩ <;>
        simp only [r, operatorResetSession, hauth, hv, if_true, writeResetAuditEntry,
          writeAuditEntry_sessionStates]
    · refine .inl ⟨"Operator reset denied: invalid credential", ?_, ?_⟩ <;>
        simp only [r, operatorResetSession, hauth, hv, Bool.false_eq_true, if_false,
          writeResetAuditEntry, writeAuditEntry_sessionStates]

/-! ### The authority -/

variable (P env crypto a sessionId signal) in
lemma transition_resetAuthority (s target : SecurityState) :
    (transition P env crypto a sessionId s target signal).1.resetAuthority = a.resetAuthority := by
  unfold transition
  split <;> rfl

variable (P env crypto a signal t) in
lemma processUnder_resetAuthority :
    (processUnder P env crypto a t signal).2.1.resetAuthority = a.resetAuthority :=
  processUnder_ind (Q := fun b => b.resetAuthority = a.resetAuthority) rfl
    fun _ _ => transition_resetAuthority ..

variable (P env crypto a signal modifier) in
lemma processWithModifier_resetAuthority :
    (processWithModifier P env crypto a signal modifier).2.1.resetAuthority = a.resetAuthority :=
  processWithModifier_ind (Q := fun b => b.resetAuthority = a.resetAuthority) rfl
    (fun _ _ => transition_resetAuthority ..) fun _ => processUnder_resetAuthority ..

variable (P env crypto a sessionId) in
lemma operatorResetSession_resetAuthority (operatorToken : Str) :
    (operatorResetSession P env crypto a sessionId operatorToken).2.1.resetAuthority =
      a.resetAuthority := by
  unfold operatorResetSession
  split
  · rfl
  · split <;> rfl

/-- No call changes the authority. -/
lemma step_resetAuthority (s : Arbiter × CryptoEngine) (op : Op) :
    (step P s op).2.1.resetAuthority = s.1.resetAuthority := by
  cases op with
  | process env signal => exact processUnder_resetAuthority ..
  | processWithModifier env signal modifier => exact processWithModifier_resetAuthority ..
  | applyMemoryFloor memoryState decided => rfl
  | operatorResetSession env sessionId operatorToken =>
    exact operatorResetSession_resetAuthority ..
  | forgetSession sessionId => rfl

/-! ### Locks -/

/-- A session that is marked as locked is in `S4`. -/
def LockedInS4 (a : Arbiter) : Prop :=
  ∀ sid s, a.sessionStates.lookup sid = some s → s.lockedUntil ≠ none → s.current = .S4

/-- A lock that still runs is on a session in `S4`. -/
theorem LockedInS4.currentState_of_isLocked (h : a.LockedInS4) (hl : a.isLocked now sid = true) :
    a.currentState sid = .S4 := by
  unfold isLocked at hl
  unfold currentState
  cases hs : a.sessionStates.lookup sid with
  | none => simp [hs] at hl
  | some s =>
    refine h sid s hs fun hnone => ?_
    simp [hs, hnone] at hl

/-- What a lookup keeps of the states of `a` keeps the invariant. -/
lemma LockedInS4.of_lookup {b : Arbiter} (h : a.LockedInS4)
    (hsub : ∀ sid s, b.sessionStates.lookup sid = some s → s.lockedUntil ≠ none →
      a.sessionStates.lookup sid = some s ∨ s.current = .S4) : b.LockedInS4 := by
  intro sid s hs hl
  rcases hsub sid s hs hl with hold | hS4
  · exact h sid s hold hl
  · exact hS4

lemma LockedInS4.initSession (h : a.LockedInS4) : (a.initSession sessionId).LockedInS4 := by
  refine h.of_lookup fun sid s hs hl => ?_
  rw [Arbiter.initSession, lookup_orInsert] at hs
  split at hs
  · next heq =>
    subst heq
    cases hold : a.sessionStates.lookup sid with
    | none =>
      simp only [hold, Option.getD_none, Option.some.injEq] at hs
      subst hs
      exact absurd rfl hl
    | some s' => exact .inl (by simpa [hold] using hs)
  · exact .inl hs

/-- An expiry only takes locks away. -/
lemma LockedInS4.expireLockdown (h : a.LockedInS4) :
    (a.expireLockdown now sessionId).LockedInS4 := by
  refine h.of_lookup fun sid s hs hl => ?_
  rw [Arbiter.expireLockdown, lookup_modifyAt] at hs
  split at hs
  · next heq =>
    subst heq
    obtain ⟨s', hs', rfl⟩ := Option.map_eq_some_iff.mp hs
    left
    rw [hs']
    cases hlock : s'.lockedUntil with
    | none => simp
    | some lockedUntil =>
      simp only [hlock] at hl
      split at hl
      · exact absurd rfl hl
      · next hlive => simp [hlive]
  · exact .inl hs

lemma LockedInS4.openSession (h : a.LockedInS4) : (a.openSession now sessionId).LockedInS4 :=
  h.initSession.expireLockdown

/-- A write above the stored state finds no lock, which is why it may keep the one it finds. -/
lemma LockedInS4.writeState (h : a.LockedInS4) {target : SecurityState}
    (hlt : a.currentState sessionId < target) : (a.writeState now sessionId target).LockedInS4 := by
  refine h.of_lookup fun sid s hs hl => ?_
  rw [Arbiter.writeState, lookup_modifyAt] at hs
  split at hs
  · next heq =>
    subst heq
    obtain ⟨s', hs', rfl⟩ := Option.map_eq_some_iff.mp hs
    right
    by_cases htarget : target = .S4
    · exact htarget
    · have hlock : s'.lockedUntil ≠ none := by simpa [htarget] using hl
      have hS4 : a.currentState sid = .S4 := by
        rw [currentState, hs']
        exact h sid s' hs' hlock
      rw [hS4] at hlt
      exact absurd hlt (not_lt.mpr target.le_S4)
  · exact .inl hs

lemma LockedInS4.transition (h : a.LockedInS4) {target : SecurityState}
    (hlt : a.currentState sessionId < target) :
    (transition P env crypto a sessionId (a.currentState sessionId) target
      signal).1.LockedInS4 := by
  rw [Arbiter.transition, if_neg (not_le.mpr hlt)]
  exact h.writeState hlt

lemma LockedInS4.processUnder (h : a.LockedInS4) :
    (processUnder P env crypto a t signal).2.1.LockedInS4 :=
  processUnder_ind h.openSession fun _ hlt => h.openSession.transition hlt

lemma LockedInS4.processWithModifier (h : a.LockedInS4) :
    (processWithModifier P env crypto a signal modifier).2.1.LockedInS4 :=
  processWithModifier_ind h (fun _ hlt => h.transition hlt) fun _ => h.processUnder

/-- A granted reset unlocks what it lowers. -/
lemma LockedInS4.operatorResetSession (h : a.LockedInS4) (operatorToken : Str) :
    (operatorResetSession P env crypto a sessionId operatorToken).2.1.LockedInS4 := by
  refine h.of_lookup fun sid s hs hl => ?_
  rcases operatorResetSession_cases P env crypto a sessionId operatorToken with
    ⟨_, -, heq⟩ | ⟨-, -, heq⟩
  · exact .inl (heq ▸ hs)
  · rw [heq, lookup_modifyAt] at hs
    split at hs
    · obtain ⟨_, -, rfl⟩ := Option.map_eq_some_iff.mp hs
      exact absurd rfl hl
    · exact .inl hs

lemma LockedInS4.forgetSession (h : a.LockedInS4) : (a.forgetSession sessionId).LockedInS4 := by
  refine h.of_lookup fun sid s hs _ => ?_
  rw [Arbiter.forgetSession, lookup_erase_eq_ite] at hs
  split at hs
  · cases hs
  · exact .inl hs

/-- **Every call keeps the invariant.** -/
theorem LockedInS4.step {s : Arbiter × CryptoEngine} (h : s.1.LockedInS4) (op : Op) :
    (step P s op).2.1.LockedInS4 := by
  cases op with
  | process env signal => exact h.processUnder
  | processWithModifier env signal modifier => exact h.processWithModifier
  | applyMemoryFloor memoryState decided => exact h
  | operatorResetSession env sessionId operatorToken => exact h.operatorResetSession operatorToken
  | forgetSession sessionId => exact h.forgetSession

/-! ### One call -/

section Step

variable {s : Arbiter × CryptoEngine} {op : Op}

/-- **A call touches no other session.** -/
theorem step_lookup (h : op.sessionId ≠ some sid) :
    (step P s op).2.1.sessionStates.lookup sid = s.1.sessionStates.lookup sid := by
  cases op with
  | process env signal => exact processUnder_lookup fun heq => h (congrArg some heq.symm)
  | processWithModifier env signal modifier =>
    exact processWithModifier_lookup fun heq => h (congrArg some heq.symm)
  | applyMemoryFloor memoryState decided => rfl
  | operatorResetSession env sessionId operatorToken =>
    have hne : sid ≠ sessionId := fun heq => h (congrArg some heq.symm)
    rcases operatorResetSession_cases P env s.2 s.1 sessionId operatorToken with
      ⟨_, -, heq⟩ | ⟨-, -, heq⟩
    · exact congrArg (Finmap.lookup sid) heq
    · exact (congrArg (Finmap.lookup sid) heq).trans (by rw [lookup_modifyAt, if_neg hne])
  | forgetSession sessionId =>
    exact Finmap.lookup_erase_ne fun heq => h (congrArg some heq.symm)

/-- **What lowers a state**: forgetting the session, or a reset with the authority's token. -/
theorem step_lt (h : (step P s op).2.1.currentState sid < s.1.currentState sid) :
    op = .forgetSession sid ∨ ∃ env authority, s.1.resetAuthority = some authority ∧
      op = .operatorResetSession env sid authority.token := by
  have hsid : op.sessionId = some sid := by
    by_contra hne
    have heq : (step P s op).2.1.currentState sid = s.1.currentState sid := by
      rw [currentState, currentState, step_lookup hne]
    exact h.ne heq
  cases op with
  | process env signal => exact absurd h (not_lt.mpr process_le)
  | processWithModifier env signal modifier => exact absurd h (not_lt.mpr processWithModifier_le)
  | applyMemoryFloor memoryState decided => exact absurd h (lt_irrefl _)
  | operatorResetSession env sessionId operatorToken =>
    obtain rfl : sessionId = sid := Option.some.inj hsid
    rcases operatorResetSession_cases P env s.2 s.1 sessionId operatorToken with
      ⟨_, -, heq⟩ | ⟨⟨authority, hauth, rfl⟩, -, -⟩
    · have hsame : (operatorResetSession P env s.2 s.1 sessionId operatorToken).2.1.currentState
          sessionId = s.1.currentState sessionId := by rw [currentState, currentState, heq]
      exact absurd hsame h.ne
    · exact .inr ⟨env, authority, hauth, rfl⟩
  | forgetSession sessionId =>
    obtain rfl : sessionId = sid := Option.some.inj hsid
    exact .inl rfl

/-- **A refused reset leaves every state.** -/
theorem step_of_error {e : Str} (h : (step P s op).1 = .reset (.error e)) :
    (step P s op).2.1.sessionStates = s.1.sessionStates := by
  cases op with
  | process | processWithModifier | applyMemoryFloor | forgetSession => cases h
  | operatorResetSession env sessionId operatorToken =>
    rcases operatorResetSession_cases P env s.2 s.1 sessionId operatorToken with
      ⟨_, -, heq⟩ | ⟨-, hok, -⟩
    · exact heq
    · have herr : (operatorResetSession P env s.2 s.1 sessionId operatorToken).1 = .error e :=
        Answer.reset.inj h
      rw [hok] at herr
      cases herr

end Step

/-! ### Runs -/

/-- **Isolation and reset authority.** In every run of a started arbiter a locked session is in
`S4`, and the next call touches no session but its own, lowers a state only by forgetting the
session or by a reset with the configured token, and leaves every state when it is a refused
reset. -/
theorem run_isolated {config : ArbiterConfig} {resetToken : Option Str} {es : List (Op × Answer)}
    {s : Arbiter × CryptoEngine}
    (h : (system P).Run (started P config resetToken, crypto) es s) :
    s.1.LockedInS4 ∧ ∀ op,
      (∀ sid, op.sessionId ≠ some sid →
        (step P s op).2.1.sessionStates.lookup sid = s.1.sessionStates.lookup sid) ∧
      (∀ sid, (step P s op).2.1.currentState sid < s.1.currentState sid →
        op = .forgetSession sid ∨ ∃ env token, resetToken.map trim = some token ∧
          op = .operatorResetSession env sid token) ∧
      (∀ e, (step P s op).1 = .reset (.error e) →
        (step P s op).2.1.sessionStates = s.1.sessionStates) := by
  have hstart : (started P config resetToken).LockedInS4 := by
    intro sid st hst
    have hempty : (started P config resetToken).sessionStates = ∅ := by
      unfold started
      split <;> rfl
    rw [hempty, Finmap.lookup_empty] at hst
    cases hst
  have hinv : s.1.LockedInS4 ∧
      s.1.resetAuthority = (started P config resetToken).resetAuthority :=
    h.invariant (I := fun _ s => s.1.LockedInS4 ∧
        s.1.resetAuthority = (started P config resetToken).resetAuthority) ⟨hstart, rfl⟩
      fun _ s op hI => ⟨hI.1.step op, (step_resetAuthority s op).trans hI.2⟩
  refine ⟨hinv.1, fun op => ⟨fun sid => step_lookup, fun sid hlt => ?_, fun e => step_of_error⟩⟩
  refine (step_lt hlt).imp_right fun ⟨env, authority, hauth, hop⟩ => ?_
  exact ⟨env, authority.token, started_resetAuthority (hinv.2.symm.trans hauth), hop⟩

/-- A session is locked by a critical signal; a reset with a wrong token is refused and one with
the configured token, which has white space around it, is granted. -/
def lockAndResetOps : List Op :=
  [.process (fixedSupply 0 0)
    ((violationSignal .corridor .inbound "s" "V" "R" .critical 0.95 [] []).build
      (fixedSupply 0 0)),
    .operatorResetSession (fixedSupply 1 1) "s" "wrong",
    .operatorResetSession (fixedSupply 2 2) "s" "Zx8qP2mN7vR4tK9wL3yH6jF1sD5gB0cE-strong-op-token"]

theorem run_isolated_lockAndReset :
    let s₀ := (started silentPlatform .default
      (some " Zx8qP2mN7vR4tK9wL3yH6jF1sD5gB0cE-strong-op-token\n"), CryptoEngine.mk [])
    let s := ((system silentPlatform).exec s₀ lockAndResetOps).2
    s.1.LockedInS4 ∧ ∀ op,
      (∀ sid, op.sessionId ≠ some sid → (step silentPlatform s op).2.1.sessionStates.lookup sid =
        s.1.sessionStates.lookup sid) ∧
      (∀ sid, (step silentPlatform s op).2.1.currentState sid < s.1.currentState sid →
        op = .forgetSession sid ∨ ∃ env token,
          (some " Zx8qP2mN7vR4tK9wL3yH6jF1sD5gB0cE-strong-op-token\n" : Option Str).map trim =
            some token ∧ op = .operatorResetSession env sid token) ∧
      (∀ e, (step silentPlatform s op).1 = .reset (.error e) →
        (step silentPlatform s op).2.1.sessionStates = s.1.sessionStates) :=
  run_isolated (System.Run.of_exec _ lockAndResetOps)

end GovSec.Arbiter
