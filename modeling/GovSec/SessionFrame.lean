import GovSec.PairedCalls

/-!
What a call on one session leaves of the others.

A call works on the entries of its session only, so every other session keeps its view. The
signals that pass between the layers are about the session of the call, which is what the
arbiter needs to know.
-/

namespace GovSec.Pipeline

open GovSec.Lib.Text GovSec.Lib.Maps GovSec.Lib.Actions

variable {P : Platform} {env : Supply} {p p' : Pipeline} {sessionId payload : Str}
  {direction : Direction} {w : GovernanceSignal} {modifier : ℚ}

/-- Every session but one keeps its view. -/
def OthersKept (sessionId : Str) (p p' : Pipeline) : Prop :=
  ∀ r ≠ sessionId, p'.view r = p.view r

instance : IsPreorder Pipeline (OthersKept sessionId) where
  refl _ _ _ := rfl
  trans _ _ _ h h' r hr := (h' r hr).trans (h r hr)

/-! ### One layer -/

section Layer

/-- The signal is about the session. -/
def About (sessionId : Str) (w : GovernanceSignal) : Prop := w.sessionId = sessionId

lemma inspect_keeps : Keeps (OthersKept sessionId) (About sessionId)
    (inspect P env payload direction sessionId) :=
  fun _ => ⟨fun _ _ => rfl, reports_layerSignal.1⟩

lemma corridorEvaluate_keeps : Keeps (OthersKept sessionId) (About sessionId)
    (corridorEvaluate P env payload direction sessionId) :=
  fun _ => ⟨fun _ _ => rfl, reports_layerSignal.1⟩

lemma overwatchEvaluate_keeps : Keeps (OthersKept sessionId) (About sessionId)
    (overwatchEvaluate P env payload direction sessionId) := by
  refine fun p => ⟨fun r hr => ?_, reports_layerSignal.1⟩
  simp only [overwatchEvaluate, result_modifyGet, OverWatch.evaluate, view,
    Finmap.lookup_insert_of_ne _ hr]

lemma oimObserve_keeps (hw : About sessionId w) : Keeps (OthersKept sessionId) (About sessionId)
    (oimObserve P env w) :=
  fun _ => ⟨fun _ _ => rfl, reports_layerSignal.1.trans hw⟩

lemma processWithModifier_keeps (hw : About sessionId w) : Keeps (OthersKept sessionId)
    (fun _ => True) (processWithModifier P env w modifier) := by
  refine fun p => ⟨fun r hr => ?_, trivial⟩
  have hne : r ≠ w.sessionId := hw.symm ▸ hr
  simp only [processWithModifier, result_modifyGet, view, Arbiter.processWithModifier_lookup hne,
    Arbiter.processWithModifier_config]

lemma process_keeps (hw : About sessionId w) : Keeps (OthersKept sessionId) (fun _ => True)
    (process P env w) := by
  refine fun p => ⟨fun r hr => ?_, trivial⟩
  have hne : r ≠ w.sessionId := hw.symm ▸ hr
  simp only [process, result_modifyGet, Arbiter.process, view, Arbiter.processUnder_lookup hne,
    Arbiter.processUnder_config]

lemma initSessionMemory_keeps : Keeps (OthersKept sessionId) (fun _ => True)
    (initSessionMemory env sessionId) := by
  refine fun p => ⟨fun r hr => ?_, trivial⟩
  unfold initSessionMemory
  rw [result_modifyGet]
  split
  · rfl
  · simp only [view, Finmap.lookup_insert_of_ne _ hr]

lemma ingestToMemory_keeps {highest : Option GovernanceSignal}
    {classification : RequestClassification} : Keeps (OthersKept sessionId) (fun _ => True)
      (ingestToMemory env sessionId highest classification) := by
  refine fun p => ⟨fun r hr => ?_, trivial⟩
  unfold ingestToMemory
  rw [result_modifyGet]
  split
  · simp only [view, Finmap.lookup_insert_of_ne _ hr]
  · rfl

lemma buildMemorySignal_keeps {verdict : MemoryVerdict} :
    Keeps (OthersKept sessionId) (About sessionId)
      (buildMemorySignal P env sessionId verdict direction) :=
  fun _ => ⟨fun _ _ => rfl, rfl⟩

lemma recordApproval_keeps {govTxId : Str} {contextHash runId : Option Str} :
    Keeps (OthersKept sessionId) (fun _ => True)
      (recordApproval env govTxId w contextHash runId) :=
  fun _ => ⟨fun _ _ => rfl, trivial⟩

/-- Two gates with one threshold and one list of pre-authorizations for the session `r`. -/
def GateKept (r : Str) (g g' : HaapGate) : Prop :=
  g'.constitutionalBlockThreshold = g.constitutionalBlockThreshold ∧
    g'.preauth.lookup r = g.preauth.lookup r

lemma GateKept.trans {r : Str} {g g₁ g₂ : HaapGate} (h : GateKept r g g₁)
    (h' : GateKept r g₁ g₂) : GateKept r g g₂ := ⟨h'.1.trans h.1, h'.2.trans h.2⟩

lemma isPreauthorized_gateKept {g : HaapGate} {now : DateTime} {actionClass r : Str}
    (hr : r ≠ sessionId) : GateKept r g (g.isPreauthorized now sessionId actionClass).2 := by
  unfold HaapGate.isPreauthorized
  dsimp only
  split
  · exact ⟨rfl, Finmap.lookup_insert_of_ne _ hr⟩
  · exact ⟨rfl, rfl⟩

lemma verifyToken_gateKept {crypto : CryptoEngine} {g : HaapGate} {agency : AgencyLevel}
    {tokenId hash r : Str} :
    GateKept r g (HaapGate.verifyToken P env crypto g sessionId agency tokenId hash).2.1 := by
  unfold HaapGate.verifyToken
  split
  · exact ⟨rfl, rfl⟩
  · dsimp only
    split <;> exact ⟨rfl, rfl⟩

/-- The gate keeps its threshold and the pre-authorizations of other sessions. -/
lemma evaluate_gateKept (P : Platform) (env : Supply) (crypto : CryptoEngine) (g : HaapGate)
    (agency : AgencyLevel) (drs : ℕ) (actionClass : Str) (token : Option Str) {r : Str}
    (hr : r ≠ sessionId) :
    GateKept r g (HaapGate.evaluate P env crypto g sessionId agency drs actionClass token).2.1 := by
  have hp : GateKept r g (g.isPreauthorized (env.part 1).now sessionId actionClass).2 :=
    isPreauthorized_gateKept hr
  unfold HaapGate.evaluate
  dsimp only
  split
  · exact ⟨rfl, rfl⟩
  · split
    · exact ⟨rfl, rfl⟩
    · split
      · exact hp
      · split
        · exact hp.trans verifyToken_gateKept
        · exact hp

lemma haapEvaluate_keeps {agency : AgencyLevel} {actionClass : Str} {token : Option Str} :
    Keeps (OthersKept sessionId) (fun _ => True)
      (haapEvaluate P env sessionId agency actionClass token) := by
  refine fun p => ⟨fun r hr => ?_, trivial⟩
  obtain ⟨ht, hp⟩ := evaluate_gateKept P env p.crypto p.haap agency (p.sessionDrs sessionId)
    actionClass token hr
  simp only [haapEvaluate, result_modifyGet, view, HaapGate.preauthsOf, ht, hp]

end Layer

/-! ### Whole calls -/

section Calls

variable {t : Turn} {highest : Option GovernanceSignal} {content govTxId : Str}

lemma arbitrate_keeps {α : Type} {stop : EnforcementResult → α} {next : StateM Pipeline α}
    (hw : About sessionId w) (hnext : Keeps (OthersKept sessionId) (fun _ => True) next) :
    Keeps (OthersKept sessionId) (fun _ => True) (arbitrate P env w modifier stop next) := by
  refine (processWithModifier_keeps hw).bind fun state _ => ?_
  split
  · exact .pure trivial
  · exact hnext

lemma oimLayer_keeps (hw : About t.sessionId w) :
    Keeps (OthersKept t.sessionId) (fun _ => True) (oimLayer P env t w highest) :=
  (oimObserve_keeps hw).bind fun _ hv =>
    (processWithModifier_keeps hv).bind fun _ _ => .pure trivial

lemma haapLayer_keeps (hw : About t.sessionId w) :
    Keeps (OthersKept t.sessionId) (fun _ => True) (haapLayer P env t w highest) := by
  refine haapEvaluate_keeps.bind fun v _ => ?_
  split
  · exact .pure trivial
  · exact .pure trivial
  · exact .pure trivial
  · exact oimLayer_keeps hw

lemma overwatchLayer_keeps :
    Keeps (OthersKept t.sessionId) (fun _ => True) (overwatchLayer P env t highest) := by
  refine overwatchEvaluate_keeps.bind fun w hw => Keeps.get.bind fun p _ => ?_
  split
  · exact .pure trivial
  · exact arbitrate_keeps hw (haapLayer_keeps hw)

lemma corridorLayer_keeps :
    Keeps (OthersKept t.sessionId) (fun _ => True) (corridorLayer P env t highest) :=
  corridorEvaluate_keeps.bind fun _ hw => arbitrate_keeps hw overwatchLayer_keeps

/-- The tracked signal, when there is one, is about the session. -/
def AboutHighest (sessionId : Str) (highest : Option GovernanceSignal) : Prop :=
  ∀ w, highest = some w → About sessionId w

lemma AboutHighest.trackHighest (h : AboutHighest sessionId highest) (hw : About sessionId w) :
    AboutHighest sessionId (trackHighest w highest) := by
  intro v hv
  rcases trackHighest_eq w highest with heq | ⟨u, hu, heq⟩
  · exact Option.some.inj (heq.symm.trans hv) ▸ hw
  · exact h v (hu.trans (heq.symm.trans hv))

lemma layers_keeps (hh : AboutHighest t.sessionId highest) :
    Keeps (OthersKept t.sessionId) (fun _ => True) (layers P env t highest) := by
  cases highest with
  | none => exact corridorLayer_keeps
  | some w => exact arbitrate_keeps (hh w rfl) corridorLayer_keeps

lemma settle_keeps {outcome : LayerOutcome} :
    Keeps (OthersKept t.sessionId) (fun _ => True) (settle P env t outcome highest) := by
  refine ingestToMemory_keeps.bind fun verdict _ => ?_
  rcases outcome with r | state
  · exact .pure trivial
  rcases verdict with _ | v
  · exact .pure trivial
  unfold applyFloor
  dsimp only
  split
  · exact buildMemorySignal_keeps.bind fun w hw => (process_keeps hw).bind fun _ _ => .pure trivial
  · exact .pure trivial

lemma govern_keeps (hh : AboutHighest t.sessionId highest) :
    Keeps (OthersKept t.sessionId) (fun _ => True) (govern P env t highest) :=
  (layers_keeps hh).bind fun _ _ => settle_keeps.bind fun _ _ => .pure trivial

lemma inboundTurn_keeps : Keeps (OthersKept sessionId)
    (fun r => r.1.sessionId = sessionId ∧ About sessionId r.2)
    (inboundTurn P env content sessionId) :=
  initSessionMemory_keeps.bind fun _ _ => inspect_keeps.bind fun _ hw => .pure ⟨rfl, hw⟩

lemma inspectSegments_keeps {segments : List ContextSegment} {k : ℕ}
    (hh : AboutHighest sessionId highest) : Keeps (OthersKept sessionId) (AboutHighest sessionId)
      (inspectSegments P env sessionId segments k highest) := by
  induction segments generalizing k highest with
  | nil => exact .pure hh
  | cons segment rest ih => exact inspect_keeps.bind fun w hw => ih (hh.trackHighest hw)

lemma contextTurn_keeps {envelope : ModelContextEnvelope} :
    Keeps (OthersKept envelope.sessionId)
      (fun r => r.1.sessionId = envelope.sessionId ∧ AboutHighest envelope.sessionId r.2)
      (contextTurn P env envelope) :=
  initSessionMemory_keeps.bind fun _ _ =>
    (inspectSegments_keeps (by simp [AboutHighest])).bind fun _ hh => .pure ⟨rfl, hh⟩

theorem inbound_keeps : Keeps (OthersKept sessionId) (fun _ => True)
    (inbound P env content sessionId govTxId) := by
  refine inboundTurn_keeps.bind ?_
  rintro ⟨t, w⟩ ⟨rfl, hw⟩
  have hh : AboutHighest t.sessionId (trackHighest w none) :=
    AboutHighest.trackHighest (by simp [AboutHighest]) hw
  refine (govern_keeps hh).bind fun ⟨r, _⟩ _ => ?_
  dsimp only
  split
  · exact recordApproval_keeps.bind fun _ _ => .pure trivial
  · exact .pure trivial

theorem inboundContext_keeps {envelope : ModelContextEnvelope} :
    Keeps (OthersKept envelope.sessionId) (fun _ => True)
      (inboundContext P env envelope govTxId) := by
  unfold inboundContext
  split
  · exact .pure trivial
  · refine contextTurn_keeps.bind ?_
    rintro ⟨t, highest⟩ ⟨ht, hh⟩
    dsimp only at ht hh
    rw [← ht] at hh ⊢
    refine (govern_keeps hh).bind fun ⟨r, _⟩ _ => ?_
    dsimp only
    split
    · exact recordApproval_keeps.bind fun _ _ => .pure trivial
    · exact .pure trivial

lemma outboundSentinel_keeps : Keeps (OthersKept sessionId) (fun _ => True)
    (outboundSentinel P env content sessionId modifier) :=
  inspect_keeps.bind fun _ hw => (processWithModifier_keeps hw).bind fun _ _ => .pure trivial

theorem outbound_keeps : Keeps (OthersKept sessionId) (fun _ => True)
    (outbound P env content sessionId) :=
  Keeps.get.bind fun _ _ => corridorEvaluate_keeps.bind fun _ hw => arbitrate_keeps hw <|
    overwatchEvaluate_keeps.bind fun _ hw => arbitrate_keeps hw <|
      (oimObserve_keeps hw).bind fun _ hv => arbitrate_keeps hv outboundSentinel_keeps

end Calls

end GovSec.Pipeline
