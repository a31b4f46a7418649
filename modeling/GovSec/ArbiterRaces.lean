import GovSec.Arbiter
import GovSec.Lib.Threads

/-!
Concurrent calls of `process` and `process_with_modifier` on one arbiter.

Each call is a thread whose atomic steps are the blocks it holds a lock for: the session's
entry, the expiry of a lockdown, the read of the current state, the write of a new one and
the final read. The audit log and the hash chain have locks of their own and no effect on the
stored states, so they are not part of the shared state here.
-/

namespace GovSec.Arbiter

open GovSec.Lib.Text GovSec.Lib.Maps GovSec.Lib.Threads

/-- A call of `process`, or of `process_with_modifier` with a modifier. -/
structure ProcessCall where
  signal : GovernanceSignal
  modifier : Option ℚ

/-- Where a call stands. -/
inductive Pc
  | init (t : Thresholds) (signal : GovernanceSignal)
  | expiry (t : Thresholds) (signal : GovernanceSignal)
  | read (t : Thresholds) (signal : GovernanceSignal)
  /-- The read of a call that a modifier of at most zero blocks. -/
  | readBlocked (sessionId : Str)
  /-- The write in `transition`; the call then returns `result`, or what it reads last. -/
  | write (sessionId : Str) (target : SecurityState) (result : Option SecurityState)
  | finalRead (sessionId : Str)
  | done (result : SecurityState)

/-- The first step of a call. -/
def ProcessCall.start (config : ArbiterConfig) (call : ProcessCall) : Pc :=
  match call.modifier with
  | none => .init config.thresholds call.signal
  | some modifier =>
    match effectiveThresholds config modifier with
    | some t => .init t call.signal
    | none =>
      if call.signal.isClean then .finalRead call.signal.sessionId
      else .readBlocked call.signal.sessionId

/-- One lock-guarded block; `now` is the clock reading of the block. -/
def atomicStep : Atomic Arbiter Pc DateTime := fun now a pc =>
  match pc with
  | .init t signal => (a.initSession signal.sessionId, .expiry t signal)
  | .expiry t signal =>
    (a.expireLockdown now signal.sessionId,
      if signal.isClean then .finalRead signal.sessionId else .read t signal)
  | .read t signal =>
    let stateBefore := a.currentState signal.sessionId
    let newState := targetState t stateBefore signal.severity signal.confidence
    (a, if stateBefore < newState then .write signal.sessionId newState none
      else .finalRead signal.sessionId)
  | .readBlocked sessionId =>
    (a, if a.currentState sessionId < .S4 then .write sessionId .S4 (some .S4) else .done .S4)
  | .write sessionId target result =>
    (a.writeState now sessionId target,
      match result with
      | some r => .done r
      | none => .finalRead sessionId)
  | .finalRead sessionId => (a, .done (a.currentState sessionId))
  | .done result => (a, .done result)

variable {ι : Type} [DecidableEq ι]

/-- An arbiter with one thread for each call. -/
def calls (a : Arbiter) (call : ι → ProcessCall) : Config Arbiter Pc ι where
  shared := a
  thread i := (call i).start a.config

/-- The step about to be taken is not a write below the stored state. -/
def WritesUp (c : Config Arbiter Pc ι) (x : ι × DateTime) : Prop :=
  match c.thread x.1 with
  | .write sessionId target _ => c.shared.currentState sessionId ≤ target
  | _ => True

/-- No stored state is lower in `b` than in `a`. -/
def NotLowered (a b : Arbiter) : Prop := ∀ sid, a.currentState sid ≤ b.currentState sid

lemma notLowered_refl (a : Arbiter) : NotLowered a a := fun _ => le_rfl

lemma NotLowered.trans {a b d : Arbiter} (h : NotLowered a b) (h' : NotLowered b d) :
    NotLowered a d := fun sid => (h sid).trans (h' sid)

/-- A write lowers a stored state exactly when its target is below it. -/
lemma notLowered_writeState {a : Arbiter} {now : DateTime} {sessionId : Str}
    {target : SecurityState} :
    NotLowered a (a.writeState now sessionId target) ↔ a.currentState sessionId ≤ target := by
  constructor
  · intro h
    have hs := h sessionId
    rw [writeState_currentState] at hs
    by_cases hk : a.Known sessionId
    · simpa [hk] using hs
    · rw [currentState_of_not_known hk]
      exact SecurityState.S1_le _
  · intro h sid
    rw [writeState_currentState]
    split
    · next hs => rw [hs.1]; exact h
    · exact le_rfl

/-- **One step.** Only a write can lower a stored state, and it does so exactly when it writes
below it. -/
lemma notLowered_stepAt_iff {c : Config Arbiter Pc ι} {x : ι × DateTime} :
    NotLowered c.shared (c.stepAt atomicStep x).shared ↔ WritesUp c x := by
  unfold WritesUp Config.stepAt atomicStep
  cases c.thread x.1 with
  | init t signal =>
    simp only [iff_true]
    exact fun sid => (initSession_currentState (a := c.shared)).ge
  | expiry t signal =>
    simp only [iff_true]
    exact fun sid => (expireLockdown_currentState (a := c.shared)).ge
  | read t signal => simpa using notLowered_refl _
  | readBlocked sessionId => simpa using notLowered_refl _
  | write sessionId target result => exact notLowered_writeState
  | finalRead sessionId => simpa using notLowered_refl _
  | done result => simpa using notLowered_refl _

/-- **When concurrent calls keep the stored states.** In every schedule of any calls, no step
lowers a stored state exactly when each write finds a state at most as high as its target. -/
theorem never_lowered_iff (a : Arbiter) (call : ι → ProcessCall) (xs : List (ι × DateTime)) :
    (∀ pre x post, xs = pre ++ x :: post → NotLowered ((calls a call).exec atomicStep pre).shared
        ((calls a call).exec atomicStep (pre ++ [x])).shared) ↔
      Config.Always atomicStep WritesUp (calls a call) xs := by
  unfold Config.Always
  refine forall_congr' fun pre => forall_congr' fun x => forall_congr' fun post =>
    imp_congr_right fun _ => ?_
  rw [Config.exec_append]
  exact notLowered_stepAt_iff

/-- From any point of such a schedule to any later one no stored state falls; a session that
reached `S4` stays there. -/
theorem never_lowered_of_writesUp {a : Arbiter} {call : ι → ProcessCall}
    {xs ys : List (ι × DateTime)}
    (h : Config.Always atomicStep WritesUp (calls a call) (xs ++ ys)) :
    NotLowered ((calls a call).exec atomicStep xs).shared
      ((calls a call).exec atomicStep (xs ++ ys)).shared := by
  rw [Config.exec_append]
  exact h.append_right.related notLowered_refl (fun _ _ _ => NotLowered.trans)
    fun _ _ => notLowered_stepAt_iff.mpr

/-! ### One call alone -/

/-- The steps of one thread on its own. -/
def alone (a : Arbiter) (pc : Pc) (nows : List DateTime) : Arbiter × Pc :=
  nows.foldl (fun p now => atomicStep now p.1 p.2) (a, pc)

/-- `b` holds state `r` for the session and the states of `a` for the others. -/
def Stores (a b : Arbiter) (sessionId : Str) (r : SecurityState) : Prop :=
  ∀ sid, b.currentState sid = if sid = sessionId then r else a.currentState sid

lemma alone_init (a : Arbiter) (t : Thresholds) (signal : GovernanceSignal)
    (n₁ n₂ n₃ n₄ n₅ : DateTime) :
    Stores a (alone a (.init t signal) [n₁, n₂, n₃, n₄, n₅]).1 signal.sessionId
        (a.decided t signal) ∧
      (alone a (.init t signal) [n₁, n₂, n₃, n₄, n₅]).2 = .done (a.decided t signal) := by
  have hcur : ∀ sid, (a.openSession n₂ signal.sessionId).currentState sid = a.currentState sid :=
    fun sid => openSession_currentState
  have hdec : targetState t (a.currentState signal.sessionId) signal.severity signal.confidence =
      a.decided t signal := rfl
  have hknown : (a.openSession n₂ signal.sessionId).Known signal.sessionId :=
    openSession_known.mpr (.inl rfl)
  have hopen : (a.initSession signal.sessionId).expireLockdown n₂ signal.sessionId =
      a.openSession n₂ signal.sessionId := rfl
  simp only [alone, List.foldl_cons, List.foldl_nil, atomicStep, hopen]
  by_cases hclean : signal.isClean = true
  · simp only [hclean, if_true, hcur, decided_of_clean hclean, and_true]
    intro sid
    rw [hcur]
    split
    · next h => rw [h]
    · rfl
  · simp only [hclean, hcur, hdec, Bool.false_eq_true, if_false]
    by_cases hlt : a.currentState signal.sessionId < a.decided t signal
    · simp only [hlt, if_true, writeState_currentState, hknown, and_self, and_true]
      intro sid
      rw [writeState_currentState, hcur]
      simp [hknown]
    · have heq : a.decided t signal = a.currentState signal.sessionId :=
        le_antisymm (not_lt.mp hlt) le_decided
      rw [heq] at hlt ⊢
      simp only [hlt, if_false, and_true]
      intro sid
      rw [hcur]
      split
      · next h => rw [h]
      · rfl

/-- **A call that runs alone is the sequential call**: after at most five steps it has stored
the same states and returns the same one. -/
theorem alone_eq_processWithModifier {P : Platform} {env : Supply} {crypto : CryptoEngine}
    (a : Arbiter) (signal : GovernanceSignal) (modifier : ℚ) (n₁ n₂ n₃ n₄ n₅ : DateTime) :
    let r := processWithModifier P env crypto a signal modifier
    let p := alone a (ProcessCall.start a.config ⟨signal, some modifier⟩) [n₁, n₂, n₃, n₄, n₅]
    (∀ sid, p.1.currentState sid = r.2.1.currentState sid) ∧ p.2 = .done r.1 := by
  simp only [processWithModifier_fst, processWithModifier_currentState]
  cases ht : effectiveThresholds a.config modifier with
  | some t =>
    have hm : 0 < modifier := by
      unfold effectiveThresholds at ht
      split at ht
      · simp at ht
      · next h => exact not_le.mp h
    simp only [ProcessCall.start, decidedWith, ht, hm, true_or, and_true]
    exact alone_init a t signal n₁ n₂ n₃ n₄ n₅
  | none =>
    have hm : ¬ 0 < modifier := by
      unfold effectiveThresholds at ht
      split at ht
      · next h => exact not_lt.mpr h
      · split at ht <;> simp at ht
    simp only [ProcessCall.start, decidedWith, ht, hm, false_or]
    by_cases hclean : signal.isClean = true
    · simp only [hclean, if_true, alone, List.foldl_cons, List.foldl_nil, atomicStep, and_true]
      intro sid
      split
      · next h => rw [h.1]
      · rfl
    · simp only [hclean, Bool.false_eq_true, if_false, alone, List.foldl_cons, List.foldl_nil,
        atomicStep]
      by_cases hlt : a.currentState signal.sessionId < .S4
      · simp only [hlt, if_true, and_true]
        exact fun sid => writeState_currentState
      · have heq : a.currentState signal.sessionId = .S4 :=
          le_antisymm (SecurityState.le_S4 _) (not_lt.mp hlt)
        simp only [hlt, if_false, and_true]
        intro sid
        split
        · next h => rw [h.1, heq]
        · rfl

/-- The same for a thread among others that do not move. -/
theorem exec_alone_eq_processWithModifier {P : Platform} {env : Supply} {crypto : CryptoEngine}
    (a : Arbiter) (call : ι → ProcessCall) (i : ι) (modifier : ℚ)
    (hi : (call i).modifier = some modifier) (n₁ n₂ n₃ n₄ n₅ : DateTime) :
    let r := processWithModifier P env crypto a (call i).signal modifier
    let c := (calls a call).exec atomicStep ([n₁, n₂, n₃, n₄, n₅].map fun now => (i, now))
    (∀ sid, c.shared.currentState sid = r.2.1.currentState sid) ∧ c.thread i = .done r.1 := by
  obtain ⟨hshared, hthread⟩ :=
    Config.exec_alone atomicStep (calls a call) i [n₁, n₂, n₃, n₄, n₅]
  have hstart : (calls a call).thread i =
      ProcessCall.start a.config ⟨(call i).signal, some modifier⟩ := by
    simp only [calls, ProcessCall.start, hi]
  simp only [hshared, hthread, hstart]
  exact alone_eq_processWithModifier a (call i).signal modifier n₁ n₂ n₃ n₄ n₅

/-! ### A race -/

/-- Two calls on session `s`: a medium signal that restricts it and a critical one that locks
it. -/
def racingCalls : Bool → ProcessCall
  | false => ⟨((SignalBuilder.new .corridor .inbound "s").withSeverity .medium 0.75).build
      (fixedSupply 0 0), none⟩
  | true => ⟨((SignalBuilder.new .corridor .inbound "s").withSeverity .critical 0.95).build
      (fixedSupply 0 0), none⟩

/-- The first call reads `S1`; then the second one runs up to its write. -/
def raceSchedule : List (Bool × DateTime) :=
  [(false, 0), (false, 1), (false, 2), (true, 3), (true, 4), (true, 5), (true, 6)]

/-- **A race lowers a locked session.** The second call has stored `S4`; the first one's write,
decided on the state it read before, stores `S2`. -/
theorem race_lowers_S4 :
    ((calls (.new .default) racingCalls).exec atomicStep raceSchedule).shared.currentState "s"
        = .S4 ∧
    ((calls (.new .default) racingCalls).exec atomicStep
      (raceSchedule ++ [(false, 7)])).shared.currentState "s" = .S2 := by
  constructor <;> decide +kernel

end GovSec.Arbiter
