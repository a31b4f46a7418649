import GovSec.ApprovalSteps

/-!
The outcomes that authorizations and consumptions keep in reserve, over all interleavings of
calls.

The joint invariant: a context index entry leads to the record of its context and session, the
index of decisions leads to a decision, decisions and tokens have the planes of their tools, and
stored tokens verify. Verdicts and decisions are only added, so what one call has read stays
true under the steps of the others.
-/

namespace GovSec.DefenceInDepth

open GovSec.Lib.Text GovSec.Lib.Maps GovSec.Lib.Actions GovSec.Lib.Threads GovSec.Pipeline

/-! ### What the maps keep -/

section Invariant

variable {P : Platform} {p p' : Pipeline} {l : VerdictLedger} {s s' : CapabilityStore}

/-- The record approves a context with the form of a hash. -/
structure Covers (r : VerdictRecord) (contextHash : Str) : Prop where
  approved : r.finalApproved = true
  direction : r.direction = .inbound
  context : r.contextHash = some contextHash
  wellFormed : isSha256Hex contextHash = true

/-- A context index entry leads to a record of its context and session. -/
def Indexed (l : VerdictLedger) : Prop :=
  ∀ key id, l.approvedByContext.lookup key = some id → ∃ r contextHash,
    l.verdicts.lookup id = some r ∧ Covers r contextHash ∧ key = indexKey contextHash r.sessionId

/-- The plane of an action scope is that of its tool. -/
def PlaneDerived (s : CapabilityScope) : Prop :=
  s.authority = authorityActionExecute →
    s.actionPlane = (deriveActionSemanticsForTool s.toolName).plane

/-- An index entry has its decision, decisions and tokens have the planes of their tools, and
stored tokens verify. -/
structure Sound (P : Platform) (s : CapabilityStore) : Prop where
  index : ∀ key id, s.decisionByTx.lookup key = some id → ∃ d, s.decisions.lookup id = some d
  decision : ∀ id d, s.decisions.lookup id = some d → PlaneDerived d.toCapabilityScope
  token : ∀ id t, s.capabilities.lookup id = some t →
    CryptoEngine.verifies P t.canonical t.signature = true ∧ PlaneDerived t.toCapabilityScope

def verdictIdOf (u : Uuid) : Str := "SV-" ++ u.simple

lemma verdictIdOf_injective {u v : Uuid} (h : verdictIdOf u = verdictIdOf v) : u = v :=
  Hex.text_injective (List.append_cancel_left h)

/-- Every stored verdict has an identifier that was drawn. -/
def Drawn (used : List Uuid) (l : VerdictLedger) : Prop :=
  ∀ id r, l.verdicts.lookup id = some r → ∃ u ∈ used, id = verdictIdOf u

/-- The joint invariant of the ledger's maps and the store's. -/
structure Good (P : Platform) (used : List Uuid) (p : Pipeline) : Prop where
  indexed : Indexed p.verdictLedger
  drawn : Drawn used p.verdictLedger
  sound : Sound P p.capabilityStore

/-- `p'` has the verdicts and the decisions of `p`. -/
structure Grows (p p' : Pipeline) : Prop where
  verdicts : ∀ id r, p.verdictLedger.verdicts.lookup id = some r →
    p'.verdictLedger.verdicts.lookup id = some r
  decisions : ∀ id d, p.capabilityStore.decisions.lookup id = some d →
    ∃ d', p'.capabilityStore.decisions.lookup id = some d'

lemma Grows.refl (p : Pipeline) : Grows p p := ⟨fun _ _ h => h, fun _ d h => ⟨d, h⟩⟩

/-- The outcomes that only a broken map could cause. -/
inductive Backstop : Answer → Prop
  | verdictNotFound : Backstop (.authorization (.error (.approval .verdictNotFound)))
  | verdictSessionMismatch :
    Backstop (.authorization (.error (.approval .verdictSessionMismatch)))
  | verdictNotFinalApproved :
    Backstop (.authorization (.error (.approval .verdictNotFinalApproved)))
  | verdictWrongDirection :
    Backstop (.authorization (.error (.approval .verdictWrongDirection)))
  | contextHashMismatch : Backstop (.authorization (.error (.approval .contextHashMismatch)))
  | decisionNotFound : Backstop (.authorization (.error .decisionNotFound))
  | signatureInvalid : Backstop (.consumed .signatureInvalid)
  | planeMismatch : Backstop (.consumed .planeMismatch)

/-- A call presents the plane of the tool it presents. -/
def Call.Derived : Call → Prop
  | .op (.consumeProviderCapability _ binding) =>
    binding.plane = (deriveActionSemanticsForTool binding.toolName).plane.text
  | _ => True

/-- The record is stored and approves what context it names. -/
structure Stored (p : Pipeline) (r : VerdictRecord) : Prop where
  lookup : p.verdictLedger.verdicts.lookup r.verdictId = some r
  covers : ∀ contextHash, r.contextHash = some contextHash → Covers r contextHash

/-- What a call knows where it stands. -/
def Pc.Ok (p : Pipeline) : Pc → Prop
  | .begin call => call.Derived
  | .insertVerdict _ signal contextHash _ answer => signal.direction = .inbound ∧
    (∀ h, contextHash = some h → isSha256Hex h = true) ∧ ¬ Backstop answer
  | .insertByTx record answer => Stored p record ∧ ¬ Backstop answer
  | .insertByContext record contextHash answer =>
    Stored p record ∧ record.contextHash = some contextHash ∧ ¬ Backstop answer
  | .readIndex _ => True
  | .readRecord req verdictId => ∃ r, p.verdictLedger.verdicts.lookup verdictId = some r ∧
    Covers r req.contextHash ∧ r.sessionId = req.sessionId
  | .evaluate _ _ => True
  | .recordDecision req => PlaneDerived req.toCapabilityScope
  | .issue decisionId => ∃ d, p.capabilityStore.decisions.lookup decisionId = some d
  | .done answer => ¬ Backstop answer
  | .indexPanic => False

/-- **Others only add.** What a call knows outlives the steps of other calls. -/
lemma Pc.Ok.mono {pc : Pc} (h : pc.Ok p) (hg : Grows p p') : pc.Ok p' := by
  have hstored : ∀ r, Stored p r → Stored p' r := fun r hr => ⟨hg.verdicts _ _ hr.lookup, hr.covers⟩
  cases pc with
  | insertByTx record answer => exact ⟨hstored _ h.1, h.2⟩
  | insertByContext record contextHash answer => exact ⟨hstored _ h.1, h.2⟩
  | readRecord req verdictId =>
    obtain ⟨r, hr, hcovers, hsession⟩ := h
    exact ⟨r, hg.verdicts _ _ hr, hcovers, hsession⟩
  | issue decisionId =>
    obtain ⟨d, hd⟩ := h
    exact hg.decisions _ _ hd
  | begin | insertVerdict | readIndex | evaluate | recordDecision | done | indexPanic => exact h

/-- What one step does: the invariant holds on, nothing is lost, and the call knows what it
should where it stands now. -/
structure Steps (P : Platform) (used : List Uuid) (p : Pipeline) (r : Pipeline × Pc) : Prop where
  good : Good P used r.1
  grows : Grows p r.1
  ok : r.2.Ok r.1

/-! ### The ledger -/

lemma Drawn.mono {used : List Uuid} (h : Drawn used l) (u : Uuid) : Drawn (used ++ [u]) l :=
  fun id r hl => by
    obtain ⟨v, hv, hid⟩ := h id r hl
    exact ⟨v, List.mem_append_left _ hv, hid⟩

lemma Good.mono {used : List Uuid} (h : Good P used p) (u : Uuid) : Good P (used ++ [u]) p :=
  ⟨h.indexed, h.drawn.mono u, h.sound⟩

/-- A step that leaves the ledger and the store alone. -/
lemma Steps.of_kept {used : List Uuid} {pc : Pc} (h : Good P used p)
    (hl : p'.verdictLedger = p.verdictLedger) (hs : p'.capabilityStore = p.capabilityStore)
    (hok : pc.Ok p') : Steps P used p (p', pc) where
  good := ⟨hl ▸ h.indexed, hl ▸ h.drawn, hs ▸ h.sound⟩
  grows := ⟨fun _ _ hr => by rw [hl, hr], fun _ d hd => ⟨d, by rw [hs, hd]⟩⟩
  ok := hok

/-- **A new verdict** overwrites none, since its identifier is fresh. -/
lemma steps_insertVerdict {used : List Uuid} {env : Supply} {govTxId : Str}
    {signal : GovernanceSignal} {contextHash runId : Option Str} {answer : Answer}
    (h : Good P used p) (hfresh : env.fresh ∉ used)
    (hok : (Pc.insertVerdict govTxId signal contextHash runId answer).Ok p) :
    Steps P (used ++ [env.fresh]) p
      (atomicStep P env p (.insertVerdict govTxId signal contextHash runId answer)) := by
  obtain ⟨hdir, hctx, hanswer⟩ := hok
  set record := VerdictLedger.newRecord env govTxId signal contextHash runId with hrecord
  have hnone : p.verdictLedger.verdicts.lookup record.verdictId = none := by
    by_contra hne
    obtain ⟨r, hr⟩ := Option.ne_none_iff_exists'.mp hne
    obtain ⟨u, hu, hid⟩ := h.drawn _ r hr
    obtain rfl : env.fresh = u := verdictIdOf_injective hid
    exact hfresh hu
  -- a stored verdict stays as it is
  have hkeep : ∀ id r, p.verdictLedger.verdicts.lookup id = some r →
      (p.verdictLedger.verdicts.insert record.verdictId record).lookup id = some r := by
    intro id r hr
    have hne : id ≠ record.verdictId := by
      rintro rfl
      rw [hnone] at hr
      cases hr
    rw [lookup_insert_eq_ite, if_neg hne, hr]
  have hcovers : ∀ c, record.contextHash = some c → Covers record c := fun c hc =>
    ⟨rfl, hdir, hc, hctx c hc⟩
  refine ⟨⟨fun key id hl => ?_, fun id r hl => ?_, h.sound⟩, ⟨hkeep, fun _ d hd => ⟨d, hd⟩⟩,
    ⟨⟨Finmap.lookup_insert _, hcovers⟩, hanswer⟩⟩
  · obtain ⟨r, c, hr, hrest⟩ := h.indexed key id hl
    exact ⟨r, c, hkeep id r hr, hrest⟩
  · have hl : (p.verdictLedger.verdicts.insert record.verdictId record).lookup id = some r := hl
    rw [lookup_insert_eq_ite] at hl
    split at hl
    · next hid => exact ⟨env.fresh, by simp, hid⟩
    · exact h.drawn.mono _ id r hl

lemma steps_insertByTx {used : List Uuid} {env : Supply} {record : VerdictRecord} {answer : Answer}
    (h : Good P used p) (hok : (Pc.insertByTx record answer).Ok p) :
    Steps P used p (atomicStep P env p (.insertByTx record answer)) := by
  obtain ⟨hstored, hanswer⟩ := hok
  refine ⟨⟨h.indexed, h.drawn, h.sound⟩, ⟨fun _ _ hr => hr, fun _ d hd => ⟨d, hd⟩⟩, ?_⟩
  simp only [atomicStep]
  cases hc : record.contextHash with
  | none => exact hanswer
  | some contextHash => exact ⟨⟨hstored.lookup, hstored.covers⟩, hc, hanswer⟩

/-- **A new index entry** leads to the record inserted before it. -/
lemma steps_insertByContext {used : List Uuid} {env : Supply} {record : VerdictRecord}
    {contextHash : Str} {answer : Answer} (h : Good P used p)
    (hok : (Pc.insertByContext record contextHash answer).Ok p) :
    Steps P used p (atomicStep P env p (.insertByContext record contextHash answer)) := by
  obtain ⟨hstored, hcontext, hanswer⟩ := hok
  refine ⟨⟨fun key id hl => ?_, h.drawn, h.sound⟩,
    ⟨fun _ _ hr => hr, fun _ d hd => ⟨d, hd⟩⟩, hanswer⟩
  have hl : (p.verdictLedger.approvedByContext.insert (indexKey contextHash record.sessionId)
    record.verdictId).lookup key = some id := hl
  rw [lookup_insert_eq_ite] at hl
  split at hl
  · next hkey =>
    obtain rfl : record.verdictId = id := Option.some.inj hl
    exact ⟨record, contextHash, hstored.lookup, hstored.covers _ hcontext, hkey⟩
  · exact h.indexed key id hl

/-- **What the index gives** for a request is a record of its context and session. -/
lemma steps_readIndex {used : List Uuid} {env : Supply} {req : Request} (h : Good P used p) :
    Steps P used p (atomicStep P env p (.readIndex req)) := by
  refine .of_kept h rfl rfl ?_
  cases hread : readIndex p.verdictLedger req with
  | error e =>
    have he : e = .malformedContextHash ∨ e = .approvedVerdictMissing := by
      simp only [readIndex, failIf, okOr, Bind.bind, Except.bind] at hread
      grind
    rcases he with rfl | rfl <;> rintro ⟨⟩
  | ok verdictId =>
    simp only [readIndex, bind_eq_ok, failIf_eq_ok, okOr_eq_ok] at hread
    obtain ⟨_, hwf, hid⟩ := hread
    obtain ⟨r, c, hr, hcovers, hkey⟩ := h.indexed _ _ hid
    obtain ⟨rfl, hsession⟩ := indexKey_inj (by simpa using hwf) hcovers.wellFormed hkey
    exact ⟨r, hr, hcovers, hsession.symm⟩

/-- **The checks on the record** fail only on the run. -/
lemma steps_readRecord {used : List Uuid} {env : Supply} {req : Request} {verdictId : Str}
    (h : Good P used p) (hok : (Pc.readRecord req verdictId).Ok p) :
    Steps P used p (atomicStep P env p (.readRecord req verdictId)) := by
  refine .of_kept h rfl rfl ?_
  obtain ⟨r, hr, hcovers, hsession⟩ := hok
  have hfound : VerdictLedger.foundRecord (p.verdictLedger.resolveByContext verdictId
      req.sessionId) = .ok r := VerdictLedger.foundRecord_eq_ok.mpr ⟨hr, hsession⟩
  cases hread : readRecord p.verdictLedger req verdictId with
  | error e =>
    have hrun : e = .runIdMismatch := by
      simp only [readRecord, hfound, hcovers.approved, hcovers.direction, hcovers.context, failIf,
        Bind.bind, Except.bind, Pure.pure, Except.pure] at hread
      grind
    rw [hrun]
    rintro ⟨⟩
  | ok record =>
    cases req with
    | provider req => exact fun hauth => absurd hauth authorityProviderExecute_ne
    | action req => trivial

/-! ### The store -/

/-- A step that changes the store only, and keeps its decisions. -/
lemma Steps.of_store {used : List Uuid} {pc : Pc} (h : Good P used p) (hs : Sound P s')
    (hgrows : ∀ id d, p.capabilityStore.decisions.lookup id = some d →
      ∃ d', s'.decisions.lookup id = some d')
    (hok : pc.Ok { p with capabilityStore := s' }) :
    Steps P used p ({ p with capabilityStore := s' }, pc) where
  good := ⟨h.indexed, h.drawn, hs⟩
  grows := ⟨fun _ _ hr => hr, hgrows⟩
  ok := hok

/-- **A new decision** is stored with its index entry, and the index never leads nowhere. -/
lemma steps_recordDecision {used : List Uuid} {env : Supply} {req : DecisionRequest}
    (h : Good P used p) (hok : (Pc.recordDecision req).Ok p) :
    Steps P used p (atomicStep P env p (.recordDecision req)) := by
  simp only [atomicStep]
  cases hrecord : CapabilityStore.recordDecision env p.capabilityStore req with
  | none =>
    exfalso
    unfold CapabilityStore.recordDecision at hrecord
    split at hrecord
    · cases hrecord
    · dsimp only at hrecord
      split at hrecord
      · next id hid =>
        obtain ⟨d, hd⟩ := h.sound.index _ id hid
        rw [hd] at hrecord
        dsimp only at hrecord
        split at hrecord <;> cases hrecord
      · cases hrecord
  | some answered =>
    obtain ⟨answer, s'⟩ := answered
    rcases CapabilityStore.recordDecision_cases hrecord with ⟨e, rfl, rfl⟩ |
      ⟨id, d, rfl, rfl, -, -, hd, -⟩ | ⟨-, -, rfl, rfl⟩
    · exact .of_kept h rfl rfl (by rintro ⟨⟩)
    · exact .of_kept h rfl rfl ⟨d, hd⟩
    · refine .of_store h ⟨fun key id hl => ?_, fun id d hd => ?_, h.sound.token⟩
        (fun id d hd => ?_) ⟨_, Finmap.lookup_insert _⟩
      · simp only [lookup_insert_eq_ite] at hl ⊢
        split at hl
        · obtain rfl := Option.some.inj hl
          exact ⟨_, if_pos rfl⟩
        · obtain ⟨d, hd⟩ := h.sound.index key id hl
          split
          · exact ⟨_, rfl⟩
          · exact ⟨d, hd⟩
      · simp only [lookup_insert_eq_ite] at hd
        split at hd
        · obtain rfl := Option.some.inj hd
          exact hok
        · exact h.sound.decision id d hd
      · simp only [lookup_insert_eq_ite]
        split
        · exact ⟨_, rfl⟩
        · exact ⟨d, hd⟩

/-- **A new token** verifies and has the plane of its decision. -/
lemma steps_issue (hsign : SignsCorrectly P) {used : List Uuid} {env : Supply} {decisionId : Str}
    (h : Good P used p) (hok : (Pc.issue decisionId).Ok p) :
    Steps P used p (atomicStep P env p (.issue decisionId)) := by
  obtain ⟨d, hd⟩ := hok
  simp only [atomicStep]
  cases hissue : CapabilityStore.issueAfterAuthorization P env p.capabilityStore decisionId with
  | none => exact .of_kept h rfl rfl (by rintro ⟨⟩)
  | some answered =>
    obtain ⟨outcome, s'⟩ := answered
    rcases CapabilityStore.issueAfterAuthorization_cases hissue with ⟨rfl, rfl | rfl⟩ |
      ⟨d', e, hd', -, rfl, rfl⟩
    · -- the decision is there
      unfold CapabilityStore.issueAfterAuthorization at hissue
      rw [hd] at hissue
      dsimp only at hissue
      split at hissue
      · cases hissue
      · split at hissue <;> cases hissue
    · exact .of_kept h rfl rfl (by rintro ⟨⟩)
    · have hlookup : ∀ id, (modifyAt p.capabilityStore.decisions decisionId fun d =>
          { d with issued := true }).lookup id = if id = decisionId then
            some { d' with issued := true } else p.capabilityStore.decisions.lookup id := by
        intro id
        rw [lookup_modifyAt, hd', Option.map_some]
      refine .of_store h ⟨fun key id hl => ?_, fun id d hd => ?_, fun id t ht => ?_⟩
        (fun id d hd => ?_) (by rintro ⟨⟩)
      · obtain ⟨d, hd⟩ := h.sound.index key id hl
        rw [hlookup]
        split
        · exact ⟨_, rfl⟩
        · exact ⟨d, hd⟩
      · rw [hlookup] at hd
        split at hd
        · obtain rfl := Option.some.inj hd
          exact h.sound.decision decisionId d' hd'
        · exact h.sound.decision id d hd
      · simp only [lookup_insert_eq_ite] at ht
        split at ht
        · obtain rfl := Option.some.inj ht
          refine ⟨?_, h.sound.decision decisionId d' hd'⟩
          exact (CryptoEngine.verifies_sign P _ _).trans (hsign _)
        · exact h.sound.token id t ht
      · rw [hlookup]
        split
        · exact ⟨_, rfl⟩
        · exact ⟨d, hd⟩

section Consume

variable {now : DateTime} {t : CapabilityToken} {binding : PresentedBinding}

lemma refusal_ne_signatureInvalid
    (hv : CryptoEngine.verifies P t.canonical t.signature = true) :
    CapabilityStore.refusal P now t binding ≠ some .signatureInvalid := by
  intro h
  have htail : CapabilityStore.refusal P now t binding = firstRefusal
      ((CapabilityStore.tokenChecks P now t binding).tail ++
        if t.authority = authorityActionExecute then CapabilityStore.actionChecks t binding
        else []) := by
    simp only [CapabilityStore.refusal, CapabilityStore.checks, CapabilityStore.tokenChecks, hv,
      List.cons_append, firstRefusal, if_true, List.tail_cons]
  rw [htail] at h
  have hmem := mem_of_firstRefusal h
  split at hmem <;> simp [CapabilityStore.tokenChecks, CapabilityStore.actionChecks] at hmem

/-- **The plane is compared last**, after the tool that determines it. -/
lemma refusal_ne_planeMismatch (ht : PlaneDerived t.toCapabilityScope)
    (hb : binding.plane = (deriveActionSemanticsForTool binding.toolName).plane.text) :
    CapabilityStore.refusal P now t binding ≠ some .planeMismatch := by
  intro h
  unfold CapabilityStore.refusal CapabilityStore.checks at h
  by_cases hauth : t.authority = authorityActionExecute
  · rw [if_pos hauth] at h
    set before := CapabilityStore.tokenChecks P now t binding ++
      (CapabilityStore.actionChecks t binding).take 4 with hbefore
    have hsplit : CapabilityStore.tokenChecks P now t binding ++
        CapabilityStore.actionChecks t binding =
        before ++ [(decide (t.actionPlane.text = binding.plane), .planeMismatch)] := by
      simp [before, CapabilityStore.actionChecks]
    rw [hsplit, firstRefusal_append] at h
    cases hfirst : firstRefusal before with
    | some o =>
      rw [hfirst, Option.some_or] at h
      have hmem := mem_of_firstRefusal (hfirst.trans h)
      simp [before, CapabilityStore.tokenChecks, CapabilityStore.actionChecks] at hmem
    | none =>
      have htool : t.toolName = binding.toolName := by
        have hall := firstRefusal_eq_none.mp hfirst
          (decide (t.toolName = binding.toolName), .toolMismatch)
          (by simp [before, CapabilityStore.actionChecks])
        simpa using hall
      have hplane : t.actionPlane.text = binding.plane := by rw [ht hauth, htool, hb]
      rw [hfirst, Option.none_or, hplane] at h
      simp [firstRefusal] at h
  · rw [if_neg hauth, List.append_nil] at h
    have hmem := mem_of_firstRefusal h
    simp [CapabilityStore.tokenChecks] at hmem

/-- **What a consumption can answer**, and what it leaves. -/
lemma steps_consume {used : List Uuid} (h : Good P used p)
    (hb : binding.plane = (deriveActionSemanticsForTool binding.toolName).plane.text) :
    Steps P used p (beginStep P p (.op (.consumeProviderCapability now binding))) := by
  have hbegin : beginStep P p (.op (.consumeProviderCapability now binding)) =
      ({ p with capabilityStore := (p.capabilityStore.consume P now binding).2 },
        .done (.consumed (p.capabilityStore.consume P now binding).1)) := rfl
  rw [hbegin]
  unfold CapabilityStore.consume
  cases ht : p.capabilityStore.capabilities.lookup binding.tokenId with
  | none => exact .of_kept h rfl rfl (by rintro ⟨⟩)
  | some t =>
    obtain ⟨hv, hplane⟩ := h.sound.token _ t ht
    dsimp only
    cases href : CapabilityStore.refusal P now t binding with
    | some o =>
      refine .of_kept h rfl rfl ?_
      rintro (_ | _)
      · exact refusal_ne_signatureInvalid hv href
      · exact refusal_ne_planeMismatch hplane hb href
    | none =>
      refine .of_store h ⟨h.sound.index, h.sound.decision, fun id t' ht' => ?_⟩
        (fun id d hd => ⟨d, hd⟩) (by rintro ⟨⟩)
      simp only [lookup_insert_eq_ite] at ht'
      split at ht'
      · obtain rfl := Option.some.inj ht'
        exact ⟨hv, hplane⟩
      · exact h.sound.token id t' ht'

end Consume

/-! ### Every step -/

/-- The layers touch neither the ledger nor the store, and their signal is inbound. -/
lemma decideInbound_meets (env : Supply) (userInput sessionId : Str) :
    Meets (decideInbound P env userInput sessionId) fun p r p' =>
      p'.verdictLedger = p.verdictLedger ∧ p'.capabilityStore = p.capabilityStore ∧
        r.2.direction = .inbound := by
  refine inboundTurn_begun.then fun p ⟨t, signal⟩ p₁ ⟨hb, hsid, ht⟩ => ?_
  dsimp only at hb hsid ht ⊢
  subst hsid
  obtain ⟨hk, hl, -, -⟩ := govern_kept P (env.part 1) ht hb.memory
  exact ⟨hl.trans hb.verdictLedger, hk.capabilityStore.trans hb.kept.capabilityStore,
    (ht signal rfl).2⟩

lemma decideContext_meets (env : Supply) (envelope : ModelContextEnvelope) :
    Meets (decideContext P env envelope) fun p r p' =>
      p'.verdictLedger = p.verdictLedger ∧ p'.capabilityStore = p.capabilityStore ∧
        r.2.direction = .inbound := by
  refine contextTurn_begun.then fun p ⟨t, highest⟩ p₁ ⟨hb, hsid, ht⟩ => ?_
  dsimp only at hb hsid ht ⊢
  rw [← hsid] at hb ht
  obtain ⟨hk, hl, htracks, signal, hsignal⟩ := govern_kept P (env.part 1) ht hb.memory
  refine ⟨hl.trans hb.verdictLedger, hk.capabilityStore.trans hb.kept.capabilityStore, ?_⟩
  rw [result_bind, result_pure]
  dsimp only
  rw [hsignal, Option.getD_some]
  exact (htracks signal hsignal).2

/-- An operation that is a step of its own and consumes nothing. -/
lemma steps_answered {used : List Uuid} {r : Answer × Pipeline} (h : Good P used p)
    (hl : r.2.verdictLedger = p.verdictLedger) (hs : r.2.capabilityStore = p.capabilityStore)
    (ha : ¬ Backstop r.1) : Steps P used p (r.2, .done r.1) := .of_kept h hl hs ha

/-- A quiet operation answers with none of the outcomes in reserve. -/
lemma not_backstop_of_quiet {op : Op} (hq : op.isQuiet = true) : ¬ Backstop (step P p op).1 := by
  cases op with
  | preauthorize now sessionId actionClass durationSecs =>
    simp only [step]
    cases p.haap.preauthorize now sessionId actionClass durationSecs <;> rintro ⟨⟩
  | inbound | inboundContext | authorizeProviderExecution | authorizeActionExecution
  | consumeProviderCapability => cases hq
  | _ => rintro ⟨⟩

lemma steps_quiet {used : List Uuid} {op : Op} (h : Good P used p) (hq : op.isQuiet = true) :
    Steps P used p ((step P p op).2, .done (step P p op).1) :=
  steps_answered h (step_quiet hq).verdictLedger (step_quiet hq).capabilityStore
    (not_backstop_of_quiet hq)

lemma steps_op {used : List Uuid} {op : Op} (h : Good P used p) (hd : (Call.op op).Derived) :
    Steps P used p (beginStep P p (.op op)) := by
  cases op with
  | inbound env userInput sessionId govTxId =>
    obtain ⟨hl, hs, hdir⟩ := decideInbound_meets (P := P) env userInput sessionId p
    simp only [beginStep]
    refine .of_kept h hl hs ?_
    split
    · exact ⟨hdir, by rintro _ ⟨⟩, by rintro ⟨⟩⟩
    · rintro ⟨⟩
  | inboundContext env envelope govTxId =>
    simp only [beginStep]
    cases hv : envelope.verify P with
    | error e => exact .of_kept h rfl rfl (by rintro ⟨⟩)
    | ok u =>
      obtain ⟨hl, hs, hdir⟩ := decideContext_meets (P := P) env envelope p
      refine .of_kept h hl hs ?_
      split
      · refine ⟨hdir, ?_, by rintro ⟨⟩⟩
        rintro _ ⟨⟩
        exact ModelContextEnvelope.isSha256Hex_of_verify hv
      · rintro ⟨⟩
  | authorizeProviderExecution env req => exact .of_kept h rfl rfl trivial
  | authorizeActionExecution env req => exact .of_kept h rfl rfl trivial
  | consumeProviderCapability now binding => exact steps_consume h hd
  | _ => exact steps_quiet h rfl

/-- **The step lemma.** Every step of a call keeps the joint invariant, and the call knows what
it should afterwards. -/
theorem steps_atomicStep (hsign : SignsCorrectly P) {used : List Uuid} {env : Supply} {pc : Pc}
    (h : Good P used p) (hfresh : env.fresh ∉ used) (hok : pc.Ok p) :
    Steps P (used ++ [env.fresh]) p (atomicStep P env p pc) := by
  have h' := h.mono env.fresh
  cases pc with
  | begin call =>
    cases call with
    | op op => exact steps_op h' hok
    | pruneExpired now =>
      refine .of_store h' ⟨h.sound.index, h.sound.decision, fun id t ht => ?_⟩
        (fun id d hd => ⟨d, hd⟩) (by rintro ⟨⟩)
      exact h.sound.token id t (lookup_retain_eq_some.mp ht).1
  | insertVerdict => exact steps_insertVerdict h hfresh hok
  | insertByTx => exact steps_insertByTx h' hok
  | insertByContext => exact steps_insertByContext h' hok
  | readIndex => exact steps_readIndex h'
  | readRecord => exact steps_readRecord h' hok
  | evaluate req verdictId =>
    simp only [atomicStep]
    refine .of_kept h' rfl rfl ?_
    cases ActionEnvelope.seal P req.envelope with
    | error e => rintro ⟨⟩
    | ok envelope =>
      dsimp only
      cases envelope.evaluateStrict P with
      | error e => rintro ⟨⟩
      | ok decision =>
        dsimp only
        split
        · rintro ⟨⟩
        · exact fun _ => rfl
  | recordDecision => exact steps_recordDecision h' hok
  | issue => exact steps_issue hsign h' hok
  | done answer => exact .of_kept h' rfl rfl hok
  | indexPanic => exact hok.elim

end Invariant

/-! ### Every interleaving -/

section Runs

variable {P : Platform} {ι : Type}

/-- The identifiers that the steps draw never repeat. -/
def FreshIds (xs : List (ι × Supply)) : Prop := (xs.map fun x => x.2.fresh).Nodup

lemma FreshIds.of_append {xs : List (ι × Supply)} {x : ι × Supply} (h : FreshIds (xs ++ [x])) :
    FreshIds xs ∧ x.2.fresh ∉ xs.map fun x => x.2.fresh := by
  unfold FreshIds at h
  rw [List.map_append, List.nodup_append] at h
  refine ⟨h.1, fun hmem => ?_⟩
  exact h.2.2 _ hmem x.2.fresh (by simp) rfl

/-- The invariant of a schedule: of the maps, and of where each call stands. -/
def Inv (P : Platform) (xs : List (ι × Supply)) (c : Config Pipeline Pc ι) : Prop :=
  Good P (xs.map fun x => x.2.fresh) c.shared ∧ ∀ i, (c.thread i).Ok c.shared

lemma inv_calls {p : Pipeline} (hl : p.verdictLedger = .new) (hs : p.capabilityStore = .new)
    {call : ι → Call} (hd : ∀ i, (call i).Derived) : Inv P [] (calls p call) := by
  refine ⟨⟨?_, ?_, ?_⟩, hd⟩
  · intro key id hkey
    rw [show (calls p call).shared.verdictLedger = .new from hl] at hkey
    simp [VerdictLedger.new] at hkey
  · intro id r hr
    rw [show (calls p call).shared.verdictLedger = .new from hl] at hr
    simp [VerdictLedger.new] at hr
  · rw [show (calls p call).shared.capabilityStore = .new from hs]
    constructor <;> simp [CapabilityStore.new]

variable [DecidableEq ι]

lemma inv_stepAt (hsign : SignsCorrectly P) {xs : List (ι × Supply)} {c : Config Pipeline Pc ι}
    {x : ι × Supply} (hf : FreshIds (xs ++ [x])) (h : Inv P xs c) :
    Inv P (xs ++ [x]) (c.stepAt (atomicStep P) x) := by
  have hstep := steps_atomicStep hsign h.1 hf.of_append.2 (h.2 x.1)
  refine ⟨by rw [List.map_append]; exact hstep.good, fun i => ?_⟩
  by_cases hi : i = x.1
  · rw [hi, Config.stepAt_thread_self]
    exact hstep.ok
  · rw [Config.stepAt_thread_of_ne hi]
    exact (h.2 i).mono hstep.grows

/-- **The backstops are never reached.** However the lock-guarded steps of any calls interleave,
no call answers with an outcome that only a broken map could cause, and the index of decisions
never leads nowhere. -/
theorem never_backstop (hsign : SignsCorrectly P) (arbiterConfig : ArbiterConfig)
    (constitutionalEvaluator : Option ConstitutionalEvaluator) (crypto : CryptoEngine)
    (strategicMemory : StrategicMemory) (govmem : GovMem) (call : ι → Call)
    (hd : ∀ i, (call i).Derived) (xs : List (ι × Supply)) (hf : FreshIds xs) (i : ι) :
    let c := (calls (new arbiterConfig constitutionalEvaluator crypto strategicMemory govmem)
      call).exec (atomicStep P) xs
    c.thread i ≠ .indexPanic ∧ ∀ answer, c.thread i = .done answer → ¬ Backstop answer := by
  intro c
  have hinv : Inv P xs c := Config.exec_invariant_of (F := FreshIds)
    (fun _ _ h => h.of_append.1) (inv_calls rfl rfl hd) (fun _ _ _ hf h => inv_stepAt hsign hf h) hf
  have hok := hinv.2 i
  refine ⟨fun h => ?_, fun answer h => ?_⟩
  · rw [h] at hok
    exact hok
  · rw [h] at hok
    exact hok

/-- An approval of the context "hi" and a request to execute it. -/
def approveAndExecute (i : Bool) : Call :=
  if i then .op (.authorizeProviderExecution (fixedSupply 0 0) (fixedRequest "groq" "llama"))
  else .op (.inboundContext (fixedSupply 0 0) (fixedContext "hi") "tx")

/-- The request comes between the insertions of the approval. -/
def interleaved : List (Bool × Supply) :=
  [(false, fixedSupply 0 1), (true, fixedSupply 0 2), (false, fixedSupply 0 3),
    (false, fixedSupply 0 4), (false, fixedSupply 0 5), (true, fixedSupply 0 6),
    (true, fixedSupply 0 7), (true, fixedSupply 0 8), (true, fixedSupply 0 9)]

theorem never_backstop_interleaved :
    let c := (calls (fixedPipeline .default) approveAndExecute).exec (atomicStep silentPlatform)
      interleaved
    c.thread true ≠ .indexPanic ∧ ∀ answer, c.thread true = .done answer → ¬ Backstop answer :=
  never_backstop (fun _ => rfl) _ _ _ _ _ _ (by rintro (_ | _) <;> trivial) _
    (by unfold FreshIds; decide +kernel) _

end Runs

end GovSec.DefenceInDepth
