import GovSec.InboundPaths
import GovSec.Lib.Isolation

/-!
What the calls on one session learn of the calls on others.

Inbound and outbound calls on a session read and write the session's own entries. The one thing
that the sessions share is OIM, which hears OverWatch's signals of all of them; as long as it
judges the calls on a session alike, their answers are the same whatever else is called.
-/

namespace GovSec.Pipeline

open GovSec.Lib.Text GovSec.Lib.Maps GovSec.Lib.Actions GovSec.Lib.Runs

/-- The session of a call that passes a text. -/
def Op.turnSession : Op → Option Str
  | .inbound _ _ sessionId _ => some sessionId
  | .inboundContext _ envelope _ => some envelope.sessionId
  | .outbound _ _ sessionId => some sessionId
  | _ => none

/-- A call on the session that passes a text. -/
def Op.turnOn (sessionId : Str) (op : Op) : Bool := op.turnSession = some sessionId

/-- The same call at the same time: only the fresh identifiers may differ. -/
inductive SameCall : Op → Op → Prop
  | inbound {env env' : Supply} (h : env.clock = env'.clock) (userInput sessionId govTxId : Str) :
    SameCall (.inbound env userInput sessionId govTxId) (.inbound env' userInput sessionId govTxId)
  | inboundContext {env env' : Supply} (h : env.clock = env'.clock)
      (envelope : ModelContextEnvelope) (govTxId : Str) :
    SameCall (.inboundContext env envelope govTxId) (.inboundContext env' envelope govTxId)
  | outbound {env env' : Supply} (h : env.clock = env'.clock) (modelOutput sessionId : Str) :
    SameCall (.outbound env modelOutput sessionId) (.outbound env' modelOutput sessionId)

variable {P : Platform} {env env' : Supply} {p p' : Pipeline} {sessionId : Str} {op : Op}

variable (P) in
/-- What OIM reports on OverWatch's signal on a text. -/
def reportOnText (p : Pipeline) (env : Supply) (payload : Str) (direction : Direction)
    (sessionId : Str) : Option Finding :=
  p.oim.reportOn env (OverWatch.evaluate P env p.crypto p.overwatch payload direction sessionId).1

variable (P) in
/-- What OIM reports on a call, if the call gets as far. -/
def oimReport (p : Pipeline) : Op → Option Finding
  | .inbound env userInput sessionId _ =>
    p.reportOnText P (inboundOimSite env) userInput .inbound sessionId
  | .inboundContext env envelope _ =>
    p.reportOnText P (inboundOimSite env) (concatenate envelope.segmentsRequiringInspection)
      .inbound envelope.sessionId
  | .outbound env modelOutput sessionId =>
    p.reportOnText P (outboundOimSite env) modelOutput .outbound sessionId
  | _ => none

variable (P) in
/-- OIM hears the call: it is no longer what it was before. -/
def HeardByOim (c : Pipeline × Op) : Prop := (step P c.1 c.2).2.oim ≠ c.1.oim

variable (P) in
/-- The same call, on which OIM reports the same if it hears it. -/
def JudgedAlike (c c' : Pipeline × Op) : Prop :=
  SameCall c.2 c'.2 ∧ (HeardByOim P c → c.1.oimReport P c.2 = c'.1.oimReport P c'.2)

/-! ### One call -/

lemma outboundOimSite_clock (h : env.clock = env'.clock) :
    (outboundOimSite env).clock = (outboundOimSite env').clock := by
  unfold outboundOimSite
  iterate 3 refine Supply.clock_part ?_ _
  exact h

/-- A call on another session leaves the view of this one. -/
lemma view_of_turn (hturn : op.turnSession.isSome = true) (h : op.turnOn sessionId = false) :
    (step P p op).2.view sessionId = p.view sessionId := by
  have hne (r : Str) (hr : op.turnSession = some r) : sessionId ≠ r := by
    rintro rfl
    simp [Op.turnOn, hr] at h
  cases op with
  | inbound env userInput r govTxId => exact (inbound_keeps p).1 _ (hne r rfl)
  | inboundContext env envelope govTxId => exact (inboundContext_keeps p).1 _ (hne _ rfl)
  | outbound env modelOutput r => exact (outbound_keeps p).1 _ (hne r rfl)
  | _ => simp [Op.turnSession] at hturn

/-- Two monitors that report alike on a text do so on every signal of its content. -/
lemma heardAlike_of_report {payload : Str} {direction : Direction}
    (hview : p.view sessionId = p'.view sessionId) :
    HeardAlike env env' (findingGist direction sessionId
        (p.overwatch.reportOn P payload direction sessionId)) p.oim p'.oim
      (p.reportOnText P env payload direction sessionId =
        p'.reportOnText P env' payload direction sessionId) fun _ _ => True where
  start := trivial
  after _ _ _ _ := trivial
  report hA w w' hw hw' := by
    have hg : w.gist = (OverWatch.evaluate P env p.crypto p.overwatch payload direction
        sessionId).1.gist := hw.trans (gist_layerSignal _).symm
    have hg' : w'.gist = (OverWatch.evaluate P env' p'.crypto p'.overwatch payload direction
        sessionId).1.gist := by
      rw [hw', reportOn_of_view P payload direction hview]
      exact (gist_layerSignal _).symm
    exact (OIM.reportOn_congr rfl hg).trans (hA.trans (OIM.reportOn_congr rfl hg').symm)

lemma reportOnText_congr {payload : Str} {direction : Direction} (h : env.clock = env'.clock) :
    p.reportOnText P env payload direction sessionId =
      p.reportOnText P env' payload direction sessionId :=
  OIM.reportOn_congr h ((gist_layerSignal _).trans (gist_layerSignal _).symm)

/-- One pipeline judges the same call alike. -/
lemma judgedAlike_of_sameCall {op' : Op} (h : SameCall op op') :
    JudgedAlike P (p, op) (p, op') := by
  refine ⟨h, fun _ => ?_⟩
  cases h with
  | inbound h => exact reportOnText_congr (inboundOimSite_clock h)
  | inboundContext h => exact reportOnText_congr (inboundOimSite_clock h)
  | outbound h => exact reportOnText_congr (outboundOimSite_clock h)

/-- Two pipelines with one view of the session, side by side before a call on it. -/
lemma linked_of_view {c payload : Str} {direction : Direction}
    (hview : p.view sessionId = p'.view sessionId) :
    Linked sessionId c c (Unheard P payload direction sessionId
      (p.overwatch.reportOn P payload direction sessionId) p.oim p'.oim) p p' :=
  ⟨hview, fun _ _ => Iff.rfl, rfl, rfl, rfl⟩

/-- **A call on a session works on the session's view**, if OIM judges it alike. -/
theorem step_of_judgedAlike {c c' : Pipeline × Op} (hmine : c.2.turnOn sessionId = true)
    (hview : c.1.view sessionId = c'.1.view sessionId) (h : JudgedAlike P c c') :
    (step P c.1 c.2).1 = (step P c'.1 c'.2).1 ∧
      (step P c.1 c.2).2.view sessionId = (step P c'.1 c'.2).2.view sessionId := by
  obtain ⟨p, op⟩ := c
  obtain ⟨p', op'⟩ := c'
  obtain ⟨hcall, hoim⟩ := h
  dsimp only at hcall hmine hview hoim
  cases hcall with
  | inbound hclock userInput r govTxId =>
    obtain rfl : r = sessionId := by simpa [Op.turnOn, Op.turnSession] using hmine
    obtain ⟨hr, hl⟩ := inbound_paired (P := P) hclock (heardAlike_of_report hview) p p'
      (linked_of_view hview) hoim
    exact ⟨congrArg Answer.enforced hr, hl.view⟩
  | inboundContext hclock envelope govTxId =>
    obtain rfl : envelope.sessionId = sessionId := by
      simpa [Op.turnOn, Op.turnSession] using hmine
    obtain ⟨hr, hl⟩ := inboundContext_paired (P := P) hclock (heardAlike_of_report hview) p p'
      (linked_of_view hview) hoim
    exact ⟨congrArg Answer.context hr, hl.view⟩
  | outbound hclock modelOutput r =>
    obtain rfl : r = sessionId := by simpa [Op.turnOn, Op.turnSession] using hmine
    obtain ⟨hr, hl⟩ := outbound_paired (P := P) hclock (heardAlike_of_report hview) p p'
      (linked_of_view (c := []) hview) hoim
    exact ⟨congrArg Answer.enforced hr, hl.view⟩

/-! ### Two runs -/

variable (P) in
/-- The answers to the calls on a session in a run. -/
def answersOn (p : Pipeline) (sessionId : Str) (ops : List Op) : List Answer :=
  (((system P).exec p ops).1.filter fun e => e.1.turnOn sessionId).map (·.2)

/-- **Session isolation.** Two runs from one pipeline make the same calls on a session, and OIM
reports the same on those it hears. Then the answers to these calls are the same, whatever
calls on other sessions are interleaved. -/
theorem answersOn_of_judgedAlike (P : Platform) (p : Pipeline) (sessionId : Str)
    (ops ops' : List Op) (hops : ∀ op ∈ ops, op.turnSession.isSome = true)
    (hops' : ∀ op ∈ ops', op.turnSession.isSome = true)
    (h : List.Forall₂ (JudgedAlike P) ((system P).calls (·.turnOn sessionId) p ops)
      ((system P).calls (·.turnOn sessionId) p ops')) :
    p.answersOn P sessionId ops = p.answersOn P sessionId ops' := by
  rw [answersOn, answersOn, ← System.map_answer_calls, ← System.map_answer_calls]
  exact System.answers_of_calls (fun p => p.view sessionId) (fun op => op.turnSession.isSome = true)
    (fun _ _ => view_of_turn) (fun _ _ _ _ hm hv hc => step_of_judgedAlike hm hv hc) hops hops' rfl
    h

/-- The answer "hi" to the session "s", with and without an answer to another session. -/
theorem answersOn_of_judgedAlike_hi :
    (fixedPipeline .default).answersOn silentPlatform "s" [.outbound (fixedSupply 0 0) "hi" "s"] =
      (fixedPipeline .default).answersOn silentPlatform "s"
        [.outbound (fixedSupply 0 1) "hi" "s", .outbound (fixedSupply 0 2) "[system]" "r"] :=
  answersOn_of_judgedAlike silentPlatform (fixedPipeline .default) "s" _ _ (by decide) (by decide)
    (.cons (judgedAlike_of_sameCall (.outbound (by rfl) "hi" "s")) .nil)

/-- The constructor of a result and the content it releases. -/
inductive Outcome
  | approved (content : Str)
  | restricted (content : Str)
  | quarantined
  | hardLocked
  | haapGated
  deriving DecidableEq

def outcome : EnforcementResult → Outcome
  | .approved content => .approved content
  | .restricted content _ => .restricted content
  | .quarantined _ => .quarantined
  | .hardLocked _ => .hardLocked
  | .haapGated _ _ _ => .haapGated

/-- `none` is an envelope that is refused. -/
def Answer.outcome : Answer → Option Outcome
  | .enforced r => some (Pipeline.outcome r)
  | .context (.ok r) => some (Pipeline.outcome r)
  | _ => none

/-- Answers to twenty other sessions, all reported by OverWatch. -/
def noisyOps : List Op :=
  (List.range 20).map fun i => .outbound (fixedSupply 0 0) "[system]" ("r" ++ natText i)

/-- An answer to the session "s", a quarter of an hour later. -/
def quietOps : List Op := [.outbound (fixedSupply (900 * nanosPerSec) 0) "hi" "s"]

/-- **OIM is shared**: after the answers to other sessions have set its baseline, the answer
to this session is an anomaly. -/
theorem answersOn_not_isolated : ¬ ∀ (P : Platform) (p : Pipeline) (sessionId : Str)
    (ops ops' : List Op), (∀ op ∈ ops, op.turnSession.isSome = true) →
      (∀ op ∈ ops', op.turnSession.isSome = true) →
      List.Forall₂ SameCall (ops.filter (·.turnOn sessionId)) (ops'.filter (·.turnOn sessionId)) →
      (p.answersOn P sessionId ops).map Answer.outcome =
        (p.answersOn P sessionId ops').map Answer.outcome := by
  intro h
  have heq := h silentPlatform (fixedPipeline .default) "s" (noisyOps ++ quietOps) quietOps
    (by decide) (by decide) (.cons (.outbound rfl "hi" "s") .nil)
  have hne : ((fixedPipeline .default).answersOn silentPlatform "s"
      (noisyOps ++ quietOps)).map Answer.outcome ≠
        ((fixedPipeline .default).answersOn silentPlatform "s" quietOps).map Answer.outcome := by
    decide +kernel
  exact hne heq

end GovSec.Pipeline
