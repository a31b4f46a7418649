import GovSec.GovMemHistory

/-!
The metadata of the caller is only kept.

A department and an agent are stored with a new session of GovMem and not looked at again. The
pipeline with records, seen without them, does the same for every caller.
-/

namespace GovSec

open GovSec.Lib.Text GovSec.Lib.Maps GovSec.Lib.Actions GovSec.Lib.Runs

def GovMemSession.anonymous (g : GovMemSession) : GovMemSession :=
  { g with departmentId := none, agentId := none }

namespace RecordedPipeline

/-- The state without the metadata of callers. -/
def anonymous (s : RecordedPipeline) : RecordedPipeline :=
  { s with v2Sessions := mapValues GovMemSession.anonymous s.v2Sessions }

def Identity.absent : Identity := ⟨none, none⟩

variable {P : Platform} {env : Supply} (names : LayerNames) (identity : Identity)
  (t : Pipeline.Turn) (highest : Option GovernanceSignal)

/-! ### The parts of a call -/

lemma anonymous_inner {α : Type} (m : StateM Pipeline α) :
    Projects anonymous (inner m) (inner m) := fun _ => rfl

lemma recordTurnV2_anonymous (sessionId message : Str) (direction : MessageDirection)
    (blocked : Bool) (sessions : HashMap Str GovMemSession) :
    recordTurnV2 env sessionId message direction blocked .absent
        (mapValues GovMemSession.anonymous sessions) =
      mapValues GovMemSession.anonymous
        (recordTurnV2 env sessionId message direction blocked identity sessions) := by
  simp only [recordTurnV2, mapValues_insert, lookup_mapValues]
  cases sessions.lookup sessionId <;> rfl

lemma anonymous_recordTurn (sessionId message : Str) (direction : MessageDirection)
    (blocked : Bool) : Projects anonymous
      (recordTurn env sessionId message direction blocked identity)
      (recordTurn env sessionId message direction blocked .absent) := fun s => by
  obtain ⟨p, mode, sessions, passed⟩ := s
  cases mode with
  | v1 => rfl
  | v2 =>
    simp only [recordTurn, result_modifyGet, anonymous, recordTurnV2_anonymous identity]

lemma anonymous_recordLayerSignal (sessionId layer : Str) (signal : GovernanceSignal) :
    Projects anonymous (recordLayerSignal env sessionId layer signal)
      (recordLayerSignal env sessionId layer signal) := fun s => by
  obtain ⟨p, mode, sessions, passed⟩ := s
  cases mode with
  | v1 => rfl
  | v2 =>
    simp only [recordLayerSignal, result_modifyGet, anonymous, if_true]
    rw [mapValues_modifyAt]
    intro a
    rfl

lemma anonymous_arbitrate {α : Type} {signal : GovernanceSignal} {modifier : ℚ}
    {stop : EnforcementResult → α} {next next' : StateM RecordedPipeline α}
    (h : Projects anonymous next next') :
    Projects anonymous (arbitrate P env signal modifier stop next)
      (arbitrate P env signal modifier stop next') := by
  refine (anonymous_inner _).bind fun state => ?_
  cases Pipeline.checkHardBlock state with
  | none => exact h
  | some result => exact .pure _

/-! ### The calls -/

lemma anonymous_overwatchLayer :
    Projects anonymous (overwatchLayer P env names identity t highest)
      (overwatchLayer P env names .absent t highest) := by
  refine (anonymous_inner _).bind fun signal => (anonymous_recordLayerSignal _ _ _).bind fun _ => ?_
  refine .get fun s => ?_
  have hblock : (anonymous s).shouldBlock t.sessionId Identity.absent.departmentId =
      s.shouldBlock t.sessionId identity.departmentId := rfl
  rw [hblock]
  split
  · exact .pure _
  · exact anonymous_arbitrate (anonymous_inner _)

lemma anonymous_corridorLayer :
    Projects anonymous (corridorLayer P env names identity t highest)
      (corridorLayer P env names .absent t highest) := by
  refine (anonymous_inner _).bind fun signal => (anonymous_recordLayerSignal _ _ _).bind fun _ => ?_
  exact anonymous_arbitrate (anonymous_overwatchLayer names identity t _)

lemma anonymous_govern : Projects anonymous (govern P env names identity t highest)
    (govern P env names .absent t highest) := by
  have hlayers : Projects anonymous (layers P (env.part 0) names identity t highest)
      (layers P (env.part 0) names .absent t highest) := by
    cases highest with
    | none => exact anonymous_corridorLayer names identity t none
    | some signal => exact anonymous_arbitrate (anonymous_corridorLayer names identity t _)
  exact hlayers.bind fun _ => (anonymous_inner _).bind fun _ => .pure _

lemma anonymous_inboundWithIdentity (userInput sessionId govTxId : Str) :
    Projects anonymous (inboundWithIdentity P env userInput sessionId govTxId identity)
      (inboundWithIdentity P env userInput sessionId govTxId .absent) := by
  refine (anonymous_inner _).bind fun ⟨t, signal⟩ =>
    (anonymous_recordTurn identity _ _ _ _).bind fun _ => ?_
  refine (anonymous_recordLayerSignal _ _ _).bind fun _ => ?_
  refine (anonymous_govern _ identity _ _).bind fun ⟨result, _⟩ => ?_
  cases hr : result.isApproved with
  | true =>
    simp only [hr, if_true]
    exact (anonymous_inner _).bind fun _ => .pure _
  | false =>
    simp only [hr, Bool.false_eq_true, if_false]
    exact .pure _

lemma anonymous_inspectSegments (times : Supply) (sessionId : Str) (segments : List ContextSegment)
    (k : ℕ) : Projects anonymous (inspectSegments P env times sessionId segments k highest)
      (inspectSegments P env times sessionId segments k highest) := by
  induction segments generalizing k highest with
  | nil => exact .pure _
  | cons segment rest ih =>
    exact (anonymous_inner _).bind fun signal =>
      (anonymous_recordLayerSignal _ _ _).bind fun _ => ih _ _

lemma anonymous_contextTurn (envelope : ModelContextEnvelope) :
    Projects anonymous (contextTurn P env envelope identity)
      (contextTurn P env envelope .absent) :=
  (anonymous_inner _).bind fun _ => (anonymous_inspectSegments _ _ _ _ _).bind fun _ =>
    (anonymous_recordTurn identity _ _ _ _).bind fun _ => .pure _

lemma anonymous_inboundContextWithIdentity (envelope : ModelContextEnvelope) (govTxId : Str) :
    Projects anonymous (inboundContextWithIdentity P env envelope govTxId identity)
      (inboundContextWithIdentity P env envelope govTxId .absent) := by
  unfold inboundContextWithIdentity
  cases envelope.verify P with
  | error e => exact .pure _
  | ok =>
    refine (anonymous_contextTurn identity _).bind fun ⟨t, highest⟩ => ?_
    refine (anonymous_govern _ identity _ _).bind fun ⟨result, highest⟩ => ?_
    cases hr : result.isApproved with
    | true =>
      simp only [hr, if_true]
      exact (anonymous_inner _).bind fun _ => .pure _
    | false =>
      simp only [hr, Bool.false_eq_true, if_false]
      exact .pure _

lemma anonymous_outbound (modelOutput sessionId : Str) :
    Projects anonymous (outbound P env modelOutput sessionId)
      (outbound P env modelOutput sessionId) := by
  refine .get fun s => (anonymous_inner _).bind fun signal => ?_
  refine (anonymous_recordLayerSignal _ _ _).bind fun _ => anonymous_arbitrate ?_
  refine (anonymous_inner _).bind fun signal => anonymous_arbitrate ?_
  refine (anonymous_inner _).bind fun signal => anonymous_arbitrate ?_
  exact (anonymous_inner _).bind fun result =>
    (anonymous_recordTurn ⟨none, none⟩ _ _ _ _).bind fun _ => .pure _

/-! ### Steps and runs -/

/-- An answer with the state after it, seen without metadata. -/
lemma map_of_anonymous {α : Type} {m m' : StateM RecordedPipeline α}
    (h : Projects anonymous m m') (f : α → Pipeline.Answer) (s : RecordedPipeline) :
    (result m' (anonymous s)).map f id =
      (((result m s).map f id).1, anonymous ((result m s).map f id).2) := by
  rw [h s]
  rfl

lemma step_anonymous (s : RecordedPipeline) (op : Pipeline.Op) (identity : Identity) :
    step P (anonymous s) (op, .absent) =
      ((step P s (op, identity)).1, anonymous (step P s (op, identity)).2) := by
  cases hr : records op with
  | false =>
    rw [step_of_not_records hr, step_of_not_records hr]
    rfl
  | true =>
    cases op with
    | inbound env userInput sessionId govTxId =>
      exact map_of_anonymous (anonymous_inboundWithIdentity identity userInput sessionId govTxId)
        .enforced s
    | inboundContext env envelope govTxId =>
      exact map_of_anonymous (anonymous_inboundContextWithIdentity identity envelope govTxId)
        .context s
    | outbound env modelOutput sessionId =>
      exact map_of_anonymous (anonymous_outbound modelOutput sessionId) .enforced s
    | _ => cases hr

/-- A run, whoever the callers are, seen without them. -/
lemma exec_anonymous (s : RecordedPipeline) (cs : List (Pipeline.Op × Identity)) :
    (((system P).exec (anonymous s) (cs.map fun c => (c.1, .absent))).1.map (·.2),
        ((system P).exec (anonymous s) (cs.map fun c => (c.1, .absent))).2) =
      (((system P).exec s cs).1.map (·.2), anonymous ((system P).exec s cs).2) := by
  induction cs generalizing s with
  | nil => rfl
  | cons c cs ih =>
    have hstep : (system P).step (anonymous s) (c.1, .absent) =
        (((system P).step s c).1, anonymous ((system P).step s c).2) :=
      step_anonymous s c.1 c.2
    have hrest := ih ((system P).step s c).2
    rw [Prod.mk.injEq] at hrest
    simp only [List.map_cons, System.exec, hstep, hrest.1, hrest.2]

/-- The states differ at most in the metadata of callers. -/
structure SameButIdentity (s s' : RecordedPipeline) : Prop where
  pipeline : s'.pipeline = s.pipeline
  mode : s'.mode = s.mode
  sessions : ∀ id, (s'.v2Sessions.lookup id).map GovMemSession.anonymous =
    (s.v2Sessions.lookup id).map GovMemSession.anonymous

lemma SameButIdentity.of_anonymous {s s' : RecordedPipeline} (h : anonymous s' = anonymous s) :
    SameButIdentity s s' where
  pipeline := congrArg (fun r => r.pipeline) h
  mode := congrArg (fun r => r.mode) h
  sessions id := by
    have hsessions := congrArg (fun r => r.v2Sessions.lookup id) h
    simpa only [anonymous, lookup_mapValues] using hsessions

/-- **The metadata of callers is only observed.** Two runs that differ in the departments and the
agents give the same answers, and after each step their states differ in the metadata of sessions
of GovMem at most. -/
theorem identity_observational (P : Platform) (s : RecordedPipeline)
    (cs : List (Pipeline.Op × Identity × Identity)) :
    ((system P).exec s (cs.map fun c => (c.1, c.2.1))).1.map (·.2) =
      ((system P).exec s (cs.map fun c => (c.1, c.2.2))).1.map (·.2) ∧
    ∀ n, SameButIdentity ((system P).exec s ((cs.take n).map fun c => (c.1, c.2.1))).2
      ((system P).exec s ((cs.take n).map fun c => (c.1, c.2.2))).2 := by
  have hboth : ∀ cs : List (Pipeline.Op × Identity × Identity),
      (((system P).exec s (cs.map fun c => (c.1, c.2.1))).1.map (·.2),
        anonymous ((system P).exec s (cs.map fun c => (c.1, c.2.1))).2) =
      (((system P).exec s (cs.map fun c => (c.1, c.2.2))).1.map (·.2),
        anonymous ((system P).exec s (cs.map fun c => (c.1, c.2.2))).2) := by
    intro cs
    rw [← exec_anonymous, ← exec_anonymous, List.map_map, List.map_map]
    rfl
  exact ⟨congrArg Prod.fst (hboth cs), fun n =>
    .of_anonymous (congrArg Prod.snd (hboth (cs.take n))).symm⟩

end RecordedPipeline

end GovSec
