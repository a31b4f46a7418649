import GovSec.SessionFrame
import GovSec.PipelineRuns

/-!
What the authorizations on a session read: the approvals behind its contexts and the decisions
under its transactions.

A call that is made in two pipelines where these are the same leaves them the same, whatever
else the ledger and the store hold.
-/

namespace GovSec

open GovSec.Lib.Text GovSec.Lib.Maps GovSec.Lib.Actions

/-! ### Approvals -/

/-- What the checks of an approval read of its record. -/
structure Approval where
  sessionId : Str
  finalApproved : Bool
  direction : Direction
  contextHash : Option Str
  runId : Option Str

def VerdictRecord.approval (r : VerdictRecord) : Approval :=
  ⟨r.sessionId, r.finalApproved, r.direction, r.contextHash, r.runId⟩

namespace VerdictLedger

/-- The approval behind a context of a session, with its verdict id. -/
def behind (l : VerdictLedger) (contextHash sessionId : Str) : Option (Str × Option Approval) :=
  indexed VerdictRecord.approval l.approvedByContext l.verdicts (indexKey contextHash sessionId)

variable {env : Supply} {l l' : VerdictLedger} {c id sessionId runId govTxId govTxId' : Str}
  {signal signal' : GovernanceSignal} {contextHash run : Option Str}

lemma behind_eq_none :
    l.behind c sessionId = none ↔ l.approvedVerdictIdByContext c sessionId = none :=
  Option.map_eq_none_iff

/-- Two ledgers that lead to one approval have one verdict id for it. -/
lemma approvedVerdictId_of_behind (h : l.behind c sessionId = l'.behind c sessionId) :
    l.approvedVerdictIdByContext c sessionId = l'.approvedVerdictIdByContext c sessionId := by
  have hfst (l : VerdictLedger) :
      (l.behind c sessionId).map Prod.fst = l.approvedVerdictIdByContext c sessionId := by
    simp [behind, indexed, approvedVerdictIdByContext, Function.comp_def]
  rw [← hfst, h, hfst]

lemma record_of_behind (h : l.behind c sessionId = l'.behind c sessionId)
    (hid : l.approvedVerdictIdByContext c sessionId = some id) :
    (l.verdicts.lookup id).map VerdictRecord.approval =
      (l'.verdicts.lookup id).map VerdictRecord.approval := by
  have hid' := (approvedVerdictId_of_behind h).symm.trans hid
  simp only [behind, indexed] at h
  rw [approvedVerdictIdByContext] at hid hid'
  rw [hid, hid', Option.map_some, Option.map_some, Option.some.injEq, Prod.mk.injEq] at h
  exact h.2

variable (sessionId) in
lemma foundRecord_congr (h : (l.verdicts.lookup id).map VerdictRecord.approval =
      (l'.verdicts.lookup id).map VerdictRecord.approval) :
    VerdictRecord.approval <$> foundRecord (l.resolveByContext id sessionId) =
      VerdictRecord.approval <$> foundRecord (l'.resolveByContext id sessionId) := by
  unfold resolveByContext
  cases hr : l.verdicts.lookup id with
  | none =>
    rw [hr, Option.map_none, eq_comm, Option.map_eq_none_iff] at h
    rw [h]
  | some r =>
    rw [hr, Option.map_some, eq_comm, Option.map_eq_some_iff] at h
    obtain ⟨r', hr', ha⟩ := h
    have hsession : r'.sessionId = r.sessionId := congrArg Approval.sessionId ha
    rw [hr']
    dsimp only
    rw [hsession]
    split
    · rfl
    · exact congrArg Except.ok ha.symm

/-- The checks of an approval read no more than what is behind the context. -/
theorem resolveApproval_congr (runId : Str)
    (h : isSha256Hex c = true → l.behind c sessionId = l'.behind c sessionId) :
    Prod.fst <$> l.resolveApproval c sessionId runId =
      Prod.fst <$> l'.resolveApproval c sessionId runId := by
  simp only [resolveApproval, map_bind, map_pure]
  cases hwf : isSha256Hex c with
  | false => rfl
  | true =>
    rw [← approvedVerdictId_of_behind (h hwf)]
    cases hid : l.approvedVerdictIdByContext c sessionId with
    | none => rfl
    | some id =>
      have hfound := foundRecord_congr sessionId (record_of_behind (h hwf) hid)
      change (foundRecord (l.resolveByContext id sessionId) >>= _) =
        (foundRecord (l'.resolveByContext id sessionId) >>= _)
      generalize foundRecord (l.resolveByContext id sessionId) = x at hfound ⊢
      generalize foundRecord (l'.resolveByContext id sessionId) = x' at hfound ⊢
      cases x with
      | error e =>
        cases x' with
        | error e' => rw [Except.error.inj hfound]
        | ok r' => cases hfound
      | ok r =>
        cases x' with
        | error e' => cases hfound
        | ok r' =>
          have ha : r.approval = r'.approval := Except.ok.inj hfound
          have hfinal : r.finalApproved = r'.finalApproved := congrArg Approval.finalApproved ha
          have hdirection : r.direction = r'.direction := congrArg Approval.direction ha
          have hcontext : r.contextHash = r'.contextHash := congrArg Approval.contextHash ha
          have hrun : r.runId = r'.runId := congrArg Approval.runId ha
          simp only [Bind.bind, Except.bind, hfinal, hdirection, hcontext, hrun]

/-- The new approval is behind its context, and behind every key that led to its verdict id. -/
lemma behind_recordFinalApprovedInner :
    (recordFinalApprovedInner env l govTxId signal contextHash run).2.behind c sessionId =
      if contextHash.map (indexKey · signal.sessionId) = some (indexKey c sessionId) then
        some ("SV-" ++ env.fresh.simple,
          some ⟨signal.sessionId, true, signal.direction, contextHash, run⟩)
      else (l.behind c sessionId).map (reread ("SV-" ++ env.fresh.simple) fun _ =>
        some ⟨signal.sessionId, true, signal.direction, contextHash, run⟩) := by
  cases contextHash with
  | none => exact indexed_insert_table ..
  | some c' =>
    refine (indexed_insert ..).trans (if_congr ?_ rfl rfl)
    rw [Option.map_some, Option.some.injEq, eq_comm]

/-- Equal recordings on two sides lead to one approval where the two sides did. -/
lemma behind_recordFinalApprovedInner_congr (hsession : signal.sessionId = signal'.sessionId)
    (hdirection : signal.direction = signal'.direction)
    (h : l.behind c sessionId = l'.behind c sessionId) :
    (recordFinalApprovedInner env l govTxId signal contextHash run).2.behind c sessionId =
      (recordFinalApprovedInner env l' govTxId' signal' contextHash run).2.behind c sessionId := by
  rw [behind_recordFinalApprovedInner, behind_recordFinalApprovedInner, hsession, hdirection, h]

/-- A context of another session is not behind one of this session. -/
lemma behind_recordFinalApprovedInner_ne (hne : sessionId ≠ signal.sessionId)
    (hc : isSha256Hex c = true) (hhash : ∀ c', contextHash = some c' → isSha256Hex c' = true)
    (h : l.behind c sessionId = none) :
    (recordFinalApprovedInner env l govTxId signal contextHash run).2.behind c sessionId =
      none := by
  rw [behind_recordFinalApprovedInner, if_neg, h, Option.map_none]
  rw [Option.map_eq_some_iff]
  rintro ⟨c', hc', hkey⟩
  exact hne (indexKey_inj (hhash c' hc') hc hkey).2.symm

end VerdictLedger

/-! ### Decisions -/

namespace CapabilityStore

/-- The decision under a transaction key, with its id. -/
def under (s : CapabilityStore) (key : Str) : Option (Str × Option Decision) :=
  indexed id s.decisionByTx s.decisions key

/-- Two stores with one lifetime of tokens and one decision under each key of a set. -/
structure SameUnder (K : Set Str) (s s' : CapabilityStore) : Prop where
  ttl : s.defaultTtlSecs = s'.defaultTtlSecs
  decision : ∀ key ∈ K, s.under key = s'.under key

variable {P : Platform} {env : Supply} {K : Set Str} {s s' : CapabilityStore}
  {req : DecisionRequest} {key decisionId : Str} {o : Option Decision}

lemma under_eq_some : s.under key = some (decisionId, o) ↔
    s.decisionByTx.lookup key = some decisionId ∧ s.decisions.lookup decisionId = o := by
  unfold under indexed
  cases s.decisionByTx.lookup key with
  | none => simp
  | some id =>
    simp only [Option.map_some, Option.map_id_fun, id_eq, Option.some.injEq, Prod.mk.injEq]
    constructor
    · rintro ⟨rfl, h⟩
      exact ⟨rfl, h⟩
    · rintro ⟨rfl, h⟩
      exact ⟨rfl, h⟩

lemma under_eq_none : s.under key = none ↔ s.decisionByTx.lookup key = none :=
  Option.map_eq_none_iff

/-- Two stores answer alike and stay alike, or both panic. -/
inductive SameStep {α : Type} (K : Set Str) :
    Option (α × CapabilityStore) → Option (α × CapabilityStore) → Prop
  | panicked : SameStep K none none
  | answered (a : α) {s s' : CapabilityStore} (h : SameUnder K s s') :
    SameStep K (some (a, s)) (some (a, s'))

/-- A decision may be recorded in both stores alike. -/
lemma SameUnder.withDecision (h : SameUnder K s s') (key decisionId : Str) (d : Decision) :
    SameUnder K
      { s with
        decisions := s.decisions.insert decisionId d
        decisionByTx := s.decisionByTx.insert key decisionId }
      { s' with
        decisions := s'.decisions.insert decisionId d
        decisionByTx := s'.decisionByTx.insert key decisionId } where
  ttl := h.ttl
  decision k hk := by
    refine (indexed_insert ..).trans (Eq.trans ?_ (indexed_insert ..).symm)
    have hu : indexed id s.decisionByTx s.decisions k =
      indexed id s'.decisionByTx s'.decisions k := h.decision k hk
    rw [hu]

lemma recordDecision_sameStep (env : Supply) (h : SameUnder K s s')
    (hk : txKey req.govTxId req.authority ∈ K) :
    SameStep K (recordDecision env s req) (recordDecision env s' req) := by
  cases hv : req.validate with
  | error e =>
    rw [recordDecision_of_invalid hv, recordDecision_of_invalid hv]
    exact .answered _ h
  | ok u =>
    have hu := h.decision _ hk
    cases hd : s.under (txKey req.govTxId req.authority) with
    | none =>
      rw [recordDecision_of_new hv (under_eq_none.mp hd),
        recordDecision_of_new hv (under_eq_none.mp (hu.symm.trans hd))]
      exact .answered _ (h.withDecision _ _ _)
    | some e =>
      obtain ⟨id, o⟩ := e
      obtain ⟨hid, ho⟩ := under_eq_some.mp hd
      obtain ⟨hid', ho'⟩ := under_eq_some.mp (hu.symm.trans hd)
      rw [recordDecision_of_lookup hv hid, recordDecision_of_lookup hv hid', ho, ho']
      cases o with
      | none => exact .panicked
      | some d => exact .answered _ h

/-- A recorded decision is under the key of its request. -/
lemma under_of_recordDecision {s₁ : CapabilityStore}
    (h : recordDecision env s req = some (.ok decisionId, s₁)) :
    ∃ o, s₁.under (txKey req.govTxId req.authority) = some (decisionId, o) := by
  rcases recordDecision_cases h with ⟨_, he, -⟩ | ⟨id', d, he, rfl, -, hid, hd, -⟩ | ⟨-, -, he, rfl⟩
  · cases he
  · obtain rfl := Except.ok.inj he
    exact ⟨_, under_eq_some.mpr ⟨hid, rfl⟩⟩
  · obtain rfl := Except.ok.inj he
    exact ⟨_, under_eq_some.mpr ⟨Finmap.lookup_insert _, rfl⟩⟩

lemma issueAfterAuthorization_sameStep (P : Platform) (env : Supply) (h : SameUnder K s s')
    (hk : key ∈ K) (hu : s.under key = some (decisionId, o)) :
    SameStep K (issueAfterAuthorization P env s decisionId)
      (issueAfterAuthorization P env s' decisionId) := by
  obtain ⟨-, ho⟩ := under_eq_some.mp hu
  obtain ⟨-, ho'⟩ := under_eq_some.mp ((h.decision key hk).symm.trans hu)
  unfold issueAfterAuthorization
  rw [ho, ho']
  cases o with
  | none => exact .answered _ h
  | some d =>
    dsimp only
    split
    · exact .answered _ h
    · have httl := congrArg (addSeconds env.now) h.ttl
      cases hadd : addSeconds env.now s.defaultTtlSecs with
      | none =>
        rw [← httl, hadd]
        exact .panicked
      | some expiresAt =>
        rw [← httl, hadd]
        refine .answered _ ⟨h.ttl, fun k hk => ?_⟩
        refine (indexed_modifyAt ..).trans (Eq.trans ?_ (indexed_modifyAt ..).symm)
        exact congrArg (Option.map _) (h.decision k hk)

/-- **Two stores with one decision under the key of a request** answer it alike. -/
theorem authorize_sameUnder (P : Platform) (env : Supply) (h : SameUnder K s s')
    (hk : txKey req.govTxId req.authority ∈ K) :
    (authorize P env s req).1 = (authorize P env s' req).1 ∧
      SameUnder K (authorize P env s req).2 (authorize P env s' req).2 := by
  have hrec := recordDecision_sameStep (env.part 0) h hk
  unfold authorize
  generalize hr : recordDecision (env.part 0) s req = x at hrec
  generalize recordDecision (env.part 0) s' req = x' at hrec
  cases hrec with
  | panicked => exact ⟨rfl, h⟩
  | @answered r s₁ s₁' h₁ =>
    cases r with
    | error e => exact ⟨rfl, h₁⟩
    | ok id =>
      obtain ⟨o, ho⟩ := under_of_recordDecision hr
      have hissue := issueAfterAuthorization_sameStep P (env.part 1) h₁ hk ho
      dsimp only
      generalize issueAfterAuthorization P (env.part 1) s₁ id = y at hissue ⊢
      generalize issueAfterAuthorization P (env.part 1) s₁' id = y' at hissue ⊢
      cases hissue with
      | panicked => exact ⟨rfl, h₁⟩
      | @answered outcome s₂ s₂' h₂ => cases outcome <;> exact ⟨rfl, h₂⟩

end CapabilityStore

/-! ### What a call records -/

namespace Pipeline

/-- The ledger after a call on a session: with one approval more, if the call approves. -/
def RecordsApproval (env : Supply) (sessionId : Str) (contextHash run : Option Str)
    (approved : Bool) (l l' : VerdictLedger) : Prop :=
  ∃ govTxId signal, Reports sessionId .inbound signal ∧
    l' = if approved then (l.recordFinalApprovedInner env govTxId signal contextHash run).2 else l

variable {P : Platform} {env : Supply} {p p' : Pipeline} {sessionId c userInput govTxId : Str}
  {contextHash run : Option Str} {l l₁ l' l₁' : VerdictLedger} {b : Bool}
  {envelope : ModelContextEnvelope}

lemma RecordsApproval.behind_eq (h : RecordsApproval env sessionId contextHash run b l l₁)
    (h' : RecordsApproval env sessionId contextHash run b l' l₁')
    (hl : l.behind c sessionId = l'.behind c sessionId) :
    l₁.behind c sessionId = l₁'.behind c sessionId := by
  obtain ⟨_, w, hw, rfl⟩ := h
  obtain ⟨_, w', hw', rfl⟩ := h'
  split
  · exact VerdictLedger.behind_recordFinalApprovedInner_congr (hw.1.trans hw'.1.symm)
      (hw.2.trans hw'.2.symm) hl
  · exact hl

lemma RecordsApproval.behind_ne {r : Str} (h : RecordsApproval env r contextHash run b l l₁)
    (hne : sessionId ≠ r) (hc : isSha256Hex c = true)
    (hhash : ∀ c', contextHash = some c' → isSha256Hex c' = true)
    (hl : l.behind c sessionId = none) : l₁.behind c sessionId = none := by
  obtain ⟨_, w, hw, rfl⟩ := h
  split
  · exact VerdictLedger.behind_recordFinalApprovedInner_ne (hw.1.symm ▸ hne) hc hhash hl
  · exact hl

variable (P env userInput sessionId govTxId) in
/-- The ledger after a plain text: an approval of the transaction, if the text is approved. -/
theorem inbound_ledger : Meets (inbound P env userInput sessionId govTxId) fun p r p' =>
    ∃ signal, Reports sessionId .inbound signal ∧ p'.verdictLedger =
      if r.isApproved then
        (p.verdictLedger.recordFinalApprovedInner (env.part 2) govTxId signal none none).2
      else p.verdictLedger := by
  refine inboundTurn_begun.then fun p ⟨t, signal⟩ p₁ ⟨hb, hsid, ht⟩ => ?_
  dsimp only at hb hsid ht ⊢
  subst hsid
  obtain ⟨-, hl, -, -⟩ := govern_kept P (env.part 1) ht hb.memory
  have hledger := hl.trans hb.verdictLedger
  rw [result_bind]
  refine ⟨signal, ht signal rfl, ?_⟩
  split
  · next happ =>
    simp only [result_bind, result_pure, happ, if_true]
    rw [← hledger]
    rfl
  · next happ =>
    simp only [result_pure, happ]
    exact hledger

variable (P env userInput sessionId govTxId) in
/-- A plain text is approved without a context. -/
theorem inbound_records : Meets (inbound P env userInput sessionId govTxId) fun p r p' =>
    RecordsApproval (env.part 2) sessionId none none r.isApproved p.verdictLedger
      p'.verdictLedger :=
  (inbound_ledger P env sessionId userInput govTxId).imp
    fun _ _ _ ⟨signal, hsignal, hledger⟩ => ⟨govTxId, signal, hsignal, hledger⟩

variable (P env envelope govTxId) in
/-- The ledger after a context: an approval of the transaction under the hash of the context and
for its run, if the context is approved. -/
theorem inboundContext_ledger : Meets (inboundContext P env envelope govTxId) fun p answer p' =>
    (∃ e, answer = .error e ∧ p' = p) ∨ envelope.verify P = .ok () ∧ ∃ r signal, answer = .ok r ∧
      Reports envelope.sessionId .inbound signal ∧ p'.verdictLedger =
        if r.isApproved then
          (p.verdictLedger.recordFinalApprovedInner (env.part 3) govTxId signal
            (some envelope.contextHash) (some envelope.runId)).2
        else p.verdictLedger := by
  unfold inboundContext
  cases hv : envelope.verify P with
  | error e => exact Meets.pure fun p => .inl ⟨e, rfl, rfl⟩
  | ok u =>
    refine contextTurn_begun.then fun p ⟨t, highest⟩ p₁ ⟨hb, hsid, ht⟩ => .inr ⟨rfl, ?_⟩
    dsimp only at hb hsid ht ⊢
    rw [← hsid] at hb ht ⊢
    obtain ⟨-, hl, htracks, signal, hsignal⟩ := govern_kept P (env.part 1) ht hb.memory
    have hledger := hl.trans hb.verdictLedger
    rw [result_bind]
    split
    · next happ =>
      refine ⟨_, signal, rfl, htracks signal hsignal, ?_⟩
      simp only [result_bind, happ, if_true]
      rw [← hledger]
      simp only [recordApproval, result_modifyGet, hsignal, Option.getD_some]
      rfl
    · next happ =>
      refine ⟨_, signal, rfl, htracks signal hsignal, ?_⟩
      simp only [result_pure, happ]
      exact hledger

variable (P env envelope govTxId) in
/-- A context that verifies is approved under its hash, for its run. -/
theorem inboundContext_records : Meets (inboundContext P env envelope govTxId) fun p answer p' =>
    (∃ e, answer = .error e ∧ p' = p) ∨ envelope.verify P = .ok () ∧ ∃ r, answer = .ok r ∧
      RecordsApproval (env.part 3) envelope.sessionId (some envelope.contextHash)
        (some envelope.runId) r.isApproved p.verdictLedger p'.verdictLedger :=
  (inboundContext_ledger P env govTxId envelope).imp fun _ _ _ => Or.imp_right <| And.imp_right
    fun ⟨r, signal, hr, hsignal, hledger⟩ => ⟨r, hr, govTxId, signal, hsignal, hledger⟩

end Pipeline

end GovSec
