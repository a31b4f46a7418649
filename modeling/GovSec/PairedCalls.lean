import GovSec.SessionView

/-!
One call made in two pipelines with one view of its session.

Layer by layer the two sides stay together, from the first inspection to the memory's floor.
Only OIM may part them, so every layer is stated under the condition that the two monitors of
the monitor report alike, which is asked for only when the call reaches them.
-/

namespace GovSec.Pipeline

open GovSec.Lib.Text GovSec.Lib.Maps GovSec.Lib.Actions

variable {P : Platform} {env env' : Supply} {p p' : Pipeline} {c c' : Str} {o o' : OIM} {A : Prop}
  {T : OIM → OIM → Prop}

/-! ### Answers -/

/-- Two results of a call: the same, but for the action class that a gate's reason names. -/
inductive SameResult (c c' : Str) : EnforcementResult → EnforcementResult → Prop
  | same (r : EnforcementResult) : SameResult c c' r r
  | gated (drs : ℕ) (agency : AgencyLevel) :
    SameResult c c' (.haapGated (HaapGate.gateReason c agency drs) agency drs)
      (.haapGated (HaapGate.gateReason c' agency drs) agency drs)

lemma SameResult.eq {r r' : EnforcementResult} (h : SameResult c c r r') : r = r' := by
  cases h <;> rfl

lemma SameResult.isApproved {r r' : EnforcementResult} (h : SameResult c c' r r') :
    r.isApproved = r'.isApproved := by
  cases h <;> rfl

inductive SameOutcome (c c' : Str) : LayerOutcome → LayerOutcome → Prop
  | blocked {r r' : EnforcementResult} (h : SameResult c c' r r') :
    SameOutcome c c' (.blocked r) (.blocked r')
  | passed {state state' : SecurityState} (h : state = state') :
    SameOutcome c c' (.passed state) (.passed state')

/-- The two sides end with values that `V` relates and with one view, if they report alike in
case the first of them is heard by its monitor `o`. -/
def Agreeing {α : Type} (sessionId c c' : Str) (o : OIM) (A : Prop) (T : OIM → OIM → Prop)
    (V : α → α → Prop) : α → Pipeline → α → Pipeline → Prop :=
  fun a p a' p' => (p.oim ≠ o → A) → V a a' ∧ Linked sessionId c c' (fun _ => T) p p'

/-- How the layers end on the two sides. -/
def SameLayers (c c' : Str) (r r' : LayerOutcome × Option GovernanceSignal) : Prop :=
  SameOutcome c c' r.1 r'.1 ∧ SameHighest r.2 r'.2

lemma SameHighest.trackHighest {highest highest' : Option GovernanceSignal}
    {w w' : GovernanceSignal} (h : SameHighest highest highest') (hw : w.gist = w'.gist) :
    SameHighest (trackHighest w highest) (trackHighest w' highest') := by
  cases highest with
  | none =>
    obtain rfl : highest' = none := by simpa [SameHighest] using h
    exact congrArg some hw
  | some v =>
    obtain ⟨v', rfl, hv⟩ : ∃ v', highest' = some v' ∧ v.gist = v'.gist := by
      simpa [SameHighest, eq_comm] using h
    simp only [Pipeline.trackHighest, severity_of_gist hw, severity_of_gist hv,
      confidence_of_gist hw, confidence_of_gist hv]
    split
    · exact congrArg some hw
    · exact congrArg some hv

/-! ### The layers -/

section Layers

variable {t : Turn} {w w' : GovernanceSignal} {highest highest' : Option GovernanceSignal}
  {g : Gist}

/-- The arbiter's answer to a signal is the same on the two sides; the call ends or goes on on
both. -/
lemma arbitrate_paired {α : Type} {sessionId : Str} {modifier : ℚ}
    {stop stop' : EnforcementResult → α} {next next' : StateM Pipeline α}
    {S : OverWatch → OIM → OIM → Prop} {Q : α → Pipeline → α → Pipeline → Prop}
    (hclock : env.clock = env'.clock) (hw : SameGist sessionId w w')
    (hstop : ∀ r p p', Linked sessionId c c' S p p' → Q (stop r) p (stop' r) p')
    (hnext : Paired (Linked sessionId c c' S) next next' Q) :
    Paired (Linked sessionId c c' S) (arbitrate P env w modifier stop next)
      (arbitrate P env' w' modifier stop' next') Q := by
  refine (processWithModifier_paired hclock hw).bind fun state state' => ?_
  rintro p p' ⟨rfl, h⟩
  cases hb : checkHardBlock state with
  | some r => exact hstop r p p' h
  | none => exact hnext p p' h

lemma oimLayer_paired (ho : HeardAlike (env.part 0) (env'.part 0) g o o' A T)
    (hclock : env.clock = env'.clock) (hw : w.gist = g) (hw' : w'.gist = g)
    (hg : g.sessionId = t.sessionId) (hh : SameHighest highest highest') :
    Paired (Linked t.sessionId c c' fun _ x x' => x = o ∧ x' = o') (oimLayer P env t w highest)
      (oimLayer P env' { t with actionClass := c' } w' highest')
      (Agreeing t.sessionId c c' o A T (SameLayers c c')) := by
  refine (oimObserve_paired ho hw hw' hg).bind fun v v' => ?_
  rintro p p' ⟨hne, hv, h⟩ hA
  have hgist := hv (hA hne)
  have hs := (processWithModifier_paired (Supply.clock_part hclock 1) hgist :
    Paired _ (processWithModifier P (env.part 1) v t.thresholdModifier) _ _) p p' h
  exact ⟨⟨.passed hs.1, hh.trackHighest hgist.1⟩, hs.2⟩

lemma haapLayer_paired
    (ho : HeardAlike ((env.part 1).part 0) ((env'.part 1).part 0) g o o' A T)
    (hclock : env.clock = env'.clock) (hc : t.actionClass = c) (hw : w.gist = g)
    (hw' : w'.gist = g) (hg : g.sessionId = t.sessionId) (hh : SameHighest highest highest') :
    Paired (Linked t.sessionId c c' fun _ x x' => x = o ∧ x' = o') (haapLayer P env t w highest)
      (haapLayer P env' { t with actionClass := c' } w' highest')
      (Agreeing t.sessionId c c' o A T (SameLayers c c')) := by
  subst hc
  refine (haapEvaluate_paired (Supply.clock_part hclock 0)).bind fun v v' => ?_
  rintro p p' ⟨hv, h⟩
  obtain ⟨rfl, rfl⟩ := h.monitors
  have hend := h.ended ho
  cases hv with
  | authorized drs agency =>
    exact oimLayer_paired ho (Supply.clock_part hclock 1) hw hw' hg hh p p' h
  | gateRequired drs agency v v' => exact fun _ => ⟨⟨.blocked (.gated _ _), hh⟩, hend⟩
  | constitutionalBlock drs v v' => exact fun _ => ⟨⟨.blocked (.same _), hh⟩, hend⟩

/-- The monitors before OverWatch has seen the text, on which it will report `f`. -/
def Unheard (P : Platform) (payload : Str) (direction : Direction) (sessionId : Str)
    (f : Option Finding) (o o' : OIM) : OverWatch → OIM → OIM → Prop := fun ow x x' =>
  ow.reportOn P payload direction sessionId = f ∧ x = o ∧ x' = o'

variable {f : Option Finding}

lemma overwatchLayer_paired (hg : g = findingGist .inbound t.sessionId f)
    (ho : HeardAlike (((env.part 2).part 1).part 0) (((env'.part 2).part 1).part 0) g o o' A T)
    (hclock : env.clock = env'.clock) (hc : t.actionClass = c)
    (hh : SameHighest highest highest') :
    Paired (Linked t.sessionId c c' (Unheard P t.content .inbound t.sessionId f o o'))
      (overwatchLayer P env t highest) (overwatchLayer P env' { t with actionClass := c' } highest')
      (Agreeing t.sessionId c c' o A T (SameLayers c c')) := by
  refine (overwatchEvaluate_paired (Supply.clock_part hclock 0)).bind fun w w' => ?_
  rintro p p' ⟨⟨hw, hw'⟩, h⟩
  subst hg
  refine Paired.get.bind (fun q q' => ?_) p p' h
  rintro p p' ⟨rfl, rfl, h⟩
  rw [← shouldBlock_of_view h.view]
  split
  · obtain ⟨rfl, rfl⟩ := h.monitors
    exact fun _ => ⟨⟨.blocked (.same _), hh⟩, h.ended ho⟩
  · have hgist : w.gist = w'.gist := hw.trans hw'.symm
    have hsid : w.sessionId = t.sessionId :=
      (congrArg Gist.sessionId hw).trans (findingGist_sessionId _ _ _)
    refine arbitrate_paired (Supply.clock_part hclock 1) ⟨hgist, hsid⟩ (fun r q q' hq _ => ?_)
      (haapLayer_paired ho (Supply.clock_part hclock 2) hc hw hw' (findingGist_sessionId _ _ _)
        (hh.trackHighest hgist)) _ _ h
    obtain ⟨rfl, rfl⟩ := hq.monitors
    exact ⟨⟨.blocked (.same _), hh.trackHighest hgist⟩, hq.ended ho⟩

lemma corridorLayer_paired (hg : g = findingGist .inbound t.sessionId f)
    (ho : HeardAlike ((((env.part 2).part 2).part 1).part 0)
      ((((env'.part 2).part 2).part 1).part 0) g o o' A T)
    (hclock : env.clock = env'.clock) (hc : t.actionClass = c)
    (hh : SameHighest highest highest') :
    Paired (Linked t.sessionId c c' (Unheard P t.content .inbound t.sessionId f o o'))
      (corridorLayer P env t highest) (corridorLayer P env' { t with actionClass := c' } highest')
      (Agreeing t.sessionId c c' o A T (SameLayers c c')) := by
  refine corridorEvaluate_paired.bind fun w w' => ?_
  rintro p p' ⟨hw, h⟩
  refine arbitrate_paired (Supply.clock_part hclock 1) hw (fun r q q' hq _ => ?_)
    (overwatchLayer_paired hg ho (Supply.clock_part hclock 2) hc (hh.trackHighest hw.1)) p p' h
  obtain ⟨-, rfl, rfl⟩ := hq.monitors
  exact ⟨⟨.blocked (.same _), hh.trackHighest hw.1⟩, hq.ended ho⟩

/-- The signals tracked on the two sides, when there are some, say the same about the session. -/
def TrackedAlike (sessionId : Str) (highest highest' : Option GovernanceSignal) : Prop :=
  SameHighest highest highest' ∧ ∀ w, highest = some w → w.sessionId = sessionId

lemma TrackedAlike.trackHighest {sessionId : Str} (h : TrackedAlike sessionId highest highest')
    (hw : SameGist sessionId w w') :
    TrackedAlike sessionId (trackHighest w highest) (trackHighest w' highest') := by
  refine ⟨h.1.trackHighest hw.1, fun v hv => ?_⟩
  rcases trackHighest_eq w highest with heq | ⟨u, hu, heq⟩
  · exact Option.some.inj (heq.symm.trans hv) ▸ hw.2
  · exact h.2 v (hu.trans (heq.symm.trans hv))

lemma trackedAlike_none {sessionId : Str} : TrackedAlike sessionId none none := ⟨rfl, by simp⟩

/-- **The layers on two sides.** -/
theorem layers_paired (hg : g = findingGist .inbound t.sessionId f)
    (ho : HeardAlike (((((env.part 1).part 2).part 2).part 1).part 0)
      (((((env'.part 1).part 2).part 2).part 1).part 0) g o o' A T)
    (hclock : env.clock = env'.clock) (hc : t.actionClass = c)
    (hh : TrackedAlike t.sessionId highest highest') :
    Paired (Linked t.sessionId c c' (Unheard P t.content .inbound t.sessionId f o o'))
      (layers P env t highest) (layers P env' { t with actionClass := c' } highest')
      (Agreeing t.sessionId c c' o A T (SameLayers c c')) := by
  cases highest with
  | none =>
    obtain rfl : highest' = none := by simpa [TrackedAlike, SameHighest] using hh
    exact corridorLayer_paired hg ho (Supply.clock_part hclock 1) hc hh.1
  | some w =>
    obtain ⟨w', rfl, hw⟩ : ∃ w', highest' = some w' ∧ w.gist = w'.gist := by
      simpa [SameHighest, eq_comm] using hh.1
    refine arbitrate_paired (Supply.clock_part hclock 0) ⟨hw, hh.2 w rfl⟩
      (fun r q q' hq _ => ?_) (corridorLayer_paired hg ho (Supply.clock_part hclock 1) hc hh.1)
    obtain ⟨-, rfl, rfl⟩ := hq.monitors
    exact ⟨⟨.blocked (.same _), hh.1⟩, hq.ended ho⟩

/-! ### After the layers -/

variable {S : OverWatch → OIM → OIM → Prop}

lemma applyFloor_paired {state : SecurityState} {verdict : MemoryVerdict}
    (hclock : env.clock = env'.clock) : Paired (Linked t.sessionId c c' S)
      (applyFloor P env t state verdict)
      (applyFloor P env' { t with actionClass := c' } state verdict)
      fun r p r' p' => r = r' ∧ Linked t.sessionId c c' S p p' := by
  unfold applyFloor
  dsimp only
  split
  · refine buildMemorySignal_paired.bind fun w w' => ?_
    rintro p p' ⟨hw, h⟩
    exact ⟨rfl, (process_paired (Supply.clock_part hclock 1) hw p p' h).2⟩
  · exact Paired.pure fun p p' h => ⟨rfl, h⟩

lemma settle_paired {outcome outcome' : LayerOutcome} (hclock : env.clock = env'.clock)
    (hr : SameOutcome c c' outcome outcome') (hh : SameHighest highest highest') :
    Paired (Linked t.sessionId c c' S) (settle P env t outcome highest)
      (settle P env' { t with actionClass := c' } outcome' highest')
      fun r p r' p' => SameResult c c' r r' ∧ Linked t.sessionId c c' S p p' := by
  refine (ingestToMemory_paired (Supply.clock_part hclock 0) hh).bind fun verdict verdict' => ?_
  rintro p p' ⟨rfl, h⟩
  cases hr with
  | blocked hr => exact ⟨hr, h⟩
  | @passed state _ hs =>
    subst hs
    cases verdict with
    | none => exact ⟨.same _, h⟩
    | some v =>
      have hf := (applyFloor_paired (Supply.clock_part hclock 1) :
        Paired _ (applyFloor P (env.part 1) t state v) _ _) p p' h
      exact ⟨hf.1 ▸ .same _, hf.2⟩

/-- OIM is not asked. -/
def Unasked (p p' : Pipeline) : Prop := p'.oim = p.oim

instance : IsPreorder Pipeline Unasked where
  refl _ := rfl
  trans _ _ _ h h' := h'.trans h

lemma ingestToMemory_unasked {sessionId : Str} {classification : RequestClassification} :
    Along Unasked (ingestToMemory env sessionId highest classification) := by
  intro p
  unfold ingestToMemory
  rw [result_modifyGet]
  split <;> rfl

lemma settle_unasked {outcome : LayerOutcome} :
    Along Unasked (settle P env t outcome highest) := by
  refine ingestToMemory_unasked.bind fun verdict => ?_
  rcases outcome with r | state
  · exact .pure _
  rcases verdict with _ | v
  · exact .pure _
  unfold applyFloor
  dsimp only
  split
  · exact Along.bind (fun _ => rfl) fun w => Along.bind (fun _ => rfl) fun _ => .pure _
  · exact .pure _

theorem govern_paired (hg : g = findingGist .inbound t.sessionId f)
    (ho : HeardAlike ((((((env.part 0).part 1).part 2).part 2).part 1).part 0)
      ((((((env'.part 0).part 1).part 2).part 2).part 1).part 0) g o o' A T)
    (hclock : env.clock = env'.clock) (hc : t.actionClass = c)
    (hh : TrackedAlike t.sessionId highest highest') :
    Paired (Linked t.sessionId c c' (Unheard P t.content .inbound t.sessionId f o o'))
      (govern P env t highest) (govern P env' { t with actionClass := c' } highest')
      (Agreeing t.sessionId c c' o A T fun r r' => SameResult c c' r.1 r'.1) := by
  refine (layers_paired hg ho (Supply.clock_part hclock 0) hc hh).bind fun r r' => ?_
  obtain ⟨outcome, highest⟩ := r
  obtain ⟨outcome', highest'⟩ := r'
  intro p p' h hA
  have hkept := (settle_unasked : Along Unasked (settle P (env.part 1) t outcome highest)) p
  obtain ⟨hlayers, hlinked⟩ := h fun hne => hA fun heq => hne (hkept.symm.trans heq)
  exact settle_paired (Supply.clock_part hclock 1) hlayers.1 hlayers.2 p p' hlinked

end Layers

/-! ### The starts of a call -/

section Starts

variable {sessionId content : Str} {S : OverWatch → OIM → OIM → Prop}
  {highest highest' : Option GovernanceSignal}

/-- Two turns on one text of one session: the same, but for the action class. -/
structure SameTurn (sessionId content c c' : Str) (t t' : Turn) : Prop where
  eq : t' = { t with actionClass := c' }
  sessionId : t.sessionId = sessionId
  content : t.content = content
  actionClass : t.actionClass = c

lemma inboundTurn_paired (hclock : env.clock = env'.clock) :
    Paired (Linked sessionId c c' S) (inboundTurn P env content sessionId)
      (inboundTurn P env' content sessionId) fun r p r' p' =>
        SameTurn sessionId content "pipeline_inbound" "pipeline_inbound" r.1 r'.1 ∧
          TrackedAlike sessionId (some r.2) (some r'.2) ∧ Linked sessionId c c' S p p' := by
  refine (initSessionMemory_paired (Supply.clock_part hclock 0)).bind fun modifier modifier' => ?_
  rintro p p' ⟨rfl, h⟩
  have hi := (inspect_paired : Paired _ (inspect P (env.part 1) content .inbound sessionId)
    (inspect P (env'.part 1) content .inbound sessionId) _) p p' h
  exact ⟨⟨rfl, rfl, rfl, rfl⟩, trackedAlike_none.trackHighest hi.1, hi.2⟩

lemma inspectSegments_paired {segments : List ContextSegment} {k : ℕ}
    (hh : TrackedAlike sessionId highest highest') :
    Paired (Linked sessionId c c' S) (inspectSegments P env sessionId segments k highest)
      (inspectSegments P env' sessionId segments k highest') fun r p r' p' =>
        TrackedAlike sessionId r r' ∧ Linked sessionId c c' S p p' := by
  induction segments generalizing k highest highest' with
  | nil => exact Paired.pure fun p p' h => ⟨hh, h⟩
  | cons segment rest ih =>
    refine inspect_paired.bind fun w w' => ?_
    rintro p p' ⟨hw, h⟩
    exact ih (hh.trackHighest hw) p p' h

lemma contextTurn_paired {envelope : ModelContextEnvelope} (hclock : env.clock = env'.clock) :
    Paired (Linked envelope.sessionId c c' S) (contextTurn P env envelope)
      (contextTurn P env' envelope) fun r p r' p' =>
        SameTurn envelope.sessionId (concatenate envelope.segmentsRequiringInspection)
          "pipeline_inbound_context" "pipeline_inbound_context" r.1 r'.1 ∧
          TrackedAlike envelope.sessionId r.2 r'.2 ∧ Linked envelope.sessionId c c' S p p' := by
  refine (initSessionMemory_paired (Supply.clock_part hclock 0)).bind fun modifier modifier' => ?_
  rintro p p' ⟨rfl, h⟩
  have hi := (inspectSegments_paired trackedAlike_none : Paired _
    (inspectSegments P (env.part 1) envelope.sessionId envelope.segmentsRequiringInspection 0 none)
    (inspectSegments P (env'.part 1) envelope.sessionId envelope.segmentsRequiringInspection 0
      none) _) p p' h
  exact ⟨⟨rfl, rfl, rfl, rfl⟩, hi.1, hi.2⟩

/-- A context of one segment starts like a call on its text. -/
lemma inboundTurn_contextTurn_paired {envelope : ModelContextEnvelope} {segment : ContextSegment}
    (hclock : env.clock = env'.clock)
    (hs : envelope.segmentsRequiringInspection = [segment]) :
    Paired (Linked envelope.sessionId c c' S)
      (inboundTurn P env segment.content envelope.sessionId) (contextTurn P env' envelope)
      fun r p r' p' =>
        SameTurn envelope.sessionId segment.content "pipeline_inbound" "pipeline_inbound_context"
          r.1 r'.1 ∧ TrackedAlike envelope.sessionId (trackHighest r.2 none) r'.2 ∧
          Linked envelope.sessionId c c' S p p' := by
  unfold contextTurn
  rw [hs]
  refine (initSessionMemory_paired (Supply.clock_part hclock 0)).bind fun modifier modifier' => ?_
  rintro p p' ⟨rfl, h⟩
  have hi := (inspect_paired : Paired _
    (inspect P (env.part 1) segment.content .inbound envelope.sessionId)
    (inspect P ((env'.part 1).part 0) segment.content .inbound envelope.sessionId) _) p p' h
  exact ⟨⟨rfl, rfl, rfl, rfl⟩, trackedAlike_none.trackHighest hi.1, hi.2⟩

end Starts

/-! ### Whole calls -/

section Calls

variable {sessionId content govTxId govTxId' : Str} {f : Option Finding}

/-- The draws of OIM in an inbound call. -/
def inboundOimSite (env : Supply) : Supply :=
  ((((((env.part 1).part 0).part 1).part 2).part 2).part 1).part 0

lemma approve_paired {α α' : Type} {S : OverWatch → OIM → OIM → Prop} {r r' : EnforcementResult}
    {a : α} {a' : α'} {w w' : GovernanceSignal} {contextHash contextHash' runId runId' : Option Str}
    (hr : SameResult c c' r r') : Paired (Linked sessionId c c' S)
      (if r.isApproved then do
        let _ ← recordApproval env govTxId w contextHash runId
        pure a
      else pure a)
      (if r'.isApproved then do
        let _ ← recordApproval env' govTxId' w' contextHash' runId'
        pure a'
      else pure a')
      fun b p b' p' => b = a ∧ b' = a' ∧ Linked sessionId c c' S p p' := by
  rw [← hr.isApproved]
  split
  · exact recordApproval_paired.bind fun _ _ p p' h => ⟨rfl, rfl, h⟩
  · exact Paired.pure fun p p' h => ⟨rfl, rfl, h⟩

lemma approve_unasked {α : Type} {r : EnforcementResult} {a : α} {w : GovernanceSignal}
    {contextHash runId : Option Str} : Along Unasked
      (if r.isApproved then do
        let _ ← recordApproval env govTxId w contextHash runId
        pure a
      else pure a) := by
  split
  · exact Along.bind (fun _ => rfl) fun _ => .pure _
  · exact .pure _

/-- From alike turns on, two calls end alike when they go on alike and ask no monitor again. -/
lemma governed_paired {β β' : Type} {Q : β → β' → Prop} {t t' : Turn}
    {highest highest' : Option GovernanceSignal}
    {k : EnforcementResult × Option GovernanceSignal → StateM Pipeline β}
    {k' : EnforcementResult × Option GovernanceSignal → StateM Pipeline β'}
    (ht : SameTurn sessionId content c c' t t') (hh : TrackedAlike sessionId highest highest')
    (hclock : env.clock = env'.clock)
    (ho : HeardAlike (inboundOimSite env) (inboundOimSite env') (findingGist .inbound sessionId f)
      o o' A T)
    (hk : ∀ x x', SameResult c c' x.1 x'.1 → Paired (Linked sessionId c c' fun _ => T) (k x) (k' x')
      fun b p b' p' => Q b b' ∧ Linked sessionId c c' (fun _ => T) p p')
    (hquiet : ∀ x, Along Unasked (k x)) :
    Paired (Linked sessionId c c' (Unheard P content .inbound sessionId f o o'))
      (govern P (env.part 1) t highest >>= k) (govern P (env'.part 1) t' highest' >>= k')
      fun b p b' p' => (p.oim ≠ o → A) → Q b b' ∧ Linked sessionId c c' (fun _ => T) p p' := by
  obtain ⟨rfl, rfl, rfl, hc⟩ := ht
  refine (govern_paired rfl ho (Supply.clock_part hclock 1) hc hh).bind fun x x' => ?_
  intro q q' hg hA
  obtain ⟨hr, hlinked⟩ := hg fun hne => hA fun heq => hne ((hquiet x q).symm.trans heq)
  exact hk x x' hr q q' hlinked

theorem inbound_paired (hclock : env.clock = env'.clock)
    (ho : HeardAlike (inboundOimSite env) (inboundOimSite env') (findingGist .inbound sessionId f)
      o o' A T) :
    Paired (Linked sessionId "pipeline_inbound" "pipeline_inbound"
        (Unheard P content .inbound sessionId f o o'))
      (inbound P env content sessionId govTxId) (inbound P env' content sessionId govTxId')
      (Agreeing sessionId "pipeline_inbound" "pipeline_inbound" o A T Eq) := by
  refine (inboundTurn_paired (Supply.clock_part hclock 0)).bind fun ⟨t, w⟩ ⟨t', w'⟩ => ?_
  rintro p p' ⟨ht, hh, h⟩
  refine governed_paired ht hh hclock ho (fun ⟨r, _⟩ ⟨r', _⟩ hr => ?_)
    (fun _ => approve_unasked) p p' h
  exact (approve_paired hr).imp (fun _ _ => id) fun b q b' q' ⟨hb, hb', hend⟩ =>
    ⟨hb.trans (hr.eq.trans hb'.symm), hend⟩

/-- The call on a context, whatever texts of it are inspected. -/
theorem inboundContext_paired {envelope : ModelContextEnvelope} (hclock : env.clock = env'.clock)
    (ho : HeardAlike (inboundOimSite env) (inboundOimSite env')
      (findingGist .inbound envelope.sessionId f) o o' A T) :
    Paired (Linked envelope.sessionId "pipeline_inbound_context" "pipeline_inbound_context"
        (Unheard P (concatenate envelope.segmentsRequiringInspection) .inbound envelope.sessionId f
          o o'))
      (inboundContext P env envelope govTxId) (inboundContext P env' envelope govTxId')
      (Agreeing envelope.sessionId "pipeline_inbound_context" "pipeline_inbound_context" o A T
        Eq) := by
  unfold inboundContext
  cases envelope.verify P with
  | error e =>
    intro p p' h _
    obtain ⟨-, rfl, rfl⟩ := h.monitors
    exact ⟨rfl, h.ended ho⟩
  | ok u =>
    refine (contextTurn_paired (Supply.clock_part hclock 0)).bind fun ⟨t, w⟩ ⟨t', w'⟩ => ?_
    rintro p p' ⟨ht, hh, h⟩
    refine governed_paired ht hh hclock ho (fun ⟨r, _⟩ ⟨r', _⟩ hr => ?_)
      (fun _ => approve_unasked) p p' h
    exact (approve_paired hr).imp (fun _ _ => id) fun b q b' q' ⟨hb, hb', hend⟩ =>
      ⟨hb.trans ((congrArg Except.ok hr.eq).trans hb'.symm), hend⟩

/-- The context path passes on a result of the text path, but for the action class that a
gate's reason names. -/
def ContextAgreeing (sessionId c c' : Str) (o : OIM) (A : Prop) (T : OIM → OIM → Prop) :
    EnforcementResult → Pipeline → Except EnvelopeError EnforcementResult → Pipeline → Prop :=
  fun r p r' p' => (p.oim ≠ o → A) → (∃ r₁, r' = .ok r₁ ∧ SameResult c c' r r₁) ∧
    Linked sessionId c c' (fun _ => T) p p'

/-- A call on one text and a call on the context of this one text. -/
theorem inbound_inboundContext_paired {envelope : ModelContextEnvelope} {segment : ContextSegment}
    (hclock : env.clock = env'.clock) (hv : envelope.verify P = .ok ())
    (hs : envelope.segmentsRequiringInspection = [segment])
    (ho : HeardAlike (inboundOimSite env) (inboundOimSite env')
      (findingGist .inbound envelope.sessionId f) o o' A T) :
    Paired (Linked envelope.sessionId "pipeline_inbound" "pipeline_inbound_context"
        (Unheard P segment.content .inbound envelope.sessionId f o o'))
      (inbound P env segment.content envelope.sessionId govTxId)
      (inboundContext P env' envelope govTxId')
      (ContextAgreeing envelope.sessionId "pipeline_inbound" "pipeline_inbound_context" o A T) := by
  unfold inboundContext
  rw [hv]
  refine (inboundTurn_contextTurn_paired (Supply.clock_part hclock 0) hs).bind
    fun ⟨t, w⟩ ⟨t', w'⟩ => ?_
  rintro p p' ⟨ht, hh, h⟩
  refine governed_paired
    (Q := fun r (r' : Except EnvelopeError EnforcementResult) =>
      ∃ r₁, r' = .ok r₁ ∧ SameResult "pipeline_inbound" "pipeline_inbound_context" r r₁)
    ht hh hclock ho (fun ⟨r, _⟩ ⟨r', _⟩ hr => ?_) (fun _ => approve_unasked) p p' h
  exact (approve_paired hr).imp (fun _ _ => id) fun b q b' q' ⟨hb, hb', hend⟩ =>
    ⟨⟨r', hb', hb ▸ hr⟩, hend⟩

/-! ### Outbound calls -/

variable {modifier : ℚ} {w w' : GovernanceSignal}

lemma getThresholdModifier_of_view (h : p.view sessionId = p'.view sessionId) :
    p.getThresholdModifier sessionId = p'.getThresholdModifier sessionId := by
  simp only [getThresholdModifier, memory_of_view h]

lemma outboundSentinel_paired {S : OverWatch → OIM → OIM → Prop} (hclock : env.clock = env'.clock) :
    Paired (Linked sessionId c c' S) (outboundSentinel P env content sessionId modifier)
      (outboundSentinel P env' content sessionId modifier)
      fun r p r' p' => r = r' ∧ Linked sessionId c c' S p p' := by
  refine inspect_paired.bind fun w w' => ?_
  rintro p p' ⟨hw, h⟩
  obtain ⟨hs, hl⟩ := (processWithModifier_paired (Supply.clock_part hclock 1) hw :
    Paired _ (processWithModifier P (env.part 1) w modifier) _ _) p p' h
  exact ⟨congrArg (enforcementResult · content) hs, hl⟩

lemma arbitrate_unasked {α : Type} {stop : EnforcementResult → α} {next : StateM Pipeline α}
    (hnext : Along Unasked next) : Along Unasked (arbitrate P env w modifier stop next) := by
  refine Along.bind (fun _ => rfl) fun state => ?_
  split
  · exact .pure _
  · exact hnext

lemma outboundOim_paired {g : Gist} (ho : HeardAlike (env.part 0) (env'.part 0) g o o' A T)
    (hclock : env.clock = env'.clock) (hw : w.gist = g) (hw' : w'.gist = g)
    (hg : g.sessionId = sessionId) :
    Paired (Linked sessionId c c' fun _ x x' => x = o ∧ x' = o')
      (outboundOim P env content sessionId modifier w)
      (outboundOim P env' content sessionId modifier w') (Agreeing sessionId c c' o A T Eq) := by
  refine (oimObserve_paired ho hw hw' hg).bind fun v v' => ?_
  rintro p p' ⟨hne, hv, h⟩ hA
  have hrest : Along Unasked (arbitrate P (env.part 1) v modifier id
      (outboundSentinel P (env.part 2) content sessionId modifier)) :=
    arbitrate_unasked
      (Along.bind (fun _ => rfl) fun _ => Along.bind (fun _ => rfl) fun _ => .pure _)
  have hgist := hv (hA fun heq => hne ((hrest p).symm.trans heq))
  exact arbitrate_paired (Q := fun r p r' p' => r = r' ∧ Linked sessionId c c' (fun _ => T) p p')
    (Supply.clock_part hclock 1) hgist (fun r q q' hq => ⟨rfl, hq⟩)
    (outboundSentinel_paired (Supply.clock_part hclock 2)) p p' h

lemma outboundOverwatch_paired
    (ho : HeardAlike ((env.part 2).part 0) ((env'.part 2).part 0)
      (findingGist .outbound sessionId f) o o' A T) (hclock : env.clock = env'.clock) :
    Paired (Linked sessionId c c' (Unheard P content .outbound sessionId f o o'))
      (outboundOverwatch P env content sessionId modifier)
      (outboundOverwatch P env' content sessionId modifier)
      (Agreeing sessionId c c' o A T Eq) := by
  refine (overwatchEvaluate_paired (Supply.clock_part hclock 0)).bind fun w w' => ?_
  rintro p p' ⟨⟨hw, hw'⟩, h⟩
  have hsid : w.sessionId = sessionId :=
    (congrArg Gist.sessionId hw).trans (findingGist_sessionId _ _ _)
  refine arbitrate_paired (Supply.clock_part hclock 1) ⟨hw.trans hw'.symm, hsid⟩
    (fun r q q' hq _ => ?_) (outboundOim_paired ho (Supply.clock_part hclock 2) hw hw'
      (findingGist_sessionId _ _ _)) p p' h
  obtain ⟨rfl, rfl⟩ := hq.monitors
  exact ⟨rfl, hq.ended ho⟩

/-- The draws of OIM in an outbound call. -/
def outboundOimSite (env : Supply) : Supply := ((env.part 2).part 2).part 0

theorem outbound_paired (hclock : env.clock = env'.clock)
    (ho : HeardAlike (outboundOimSite env) (outboundOimSite env')
      (findingGist .outbound sessionId f) o o' A T) :
    Paired (Linked sessionId c c' (Unheard P content .outbound sessionId f o o'))
      (outbound P env content sessionId) (outbound P env' content sessionId)
      (Agreeing sessionId c c' o A T Eq) := by
  refine Paired.get.bind fun q q' => ?_
  rintro p p' ⟨rfl, rfl, h⟩
  rw [← getThresholdModifier_of_view h.view]
  refine corridorEvaluate_paired.bind (fun w w' => ?_) q q' h
  rintro p p' ⟨hw, h⟩
  refine arbitrate_paired (Supply.clock_part hclock 1) hw (fun r q q' hq _ => ?_)
    (outboundOverwatch_paired ho (Supply.clock_part hclock 2)) p p' h
  obtain ⟨-, rfl, rfl⟩ := hq.monitors
  exact ⟨rfl, hq.ended ho⟩

end Calls

end GovSec.Pipeline
