import GovSec.CapabilityRuns

/-!
The decision that answers a request, over runs of the store.

A retry is answered with the decision already recorded for its transaction and authority, once
`same_scope` holds. That comparison leaves out the policy hash and the verdict id, which the
token of the decision carries.
-/

namespace GovSec

open GovSec.Lib.Text GovSec.Lib.Maps GovSec.Lib.Runs

/-- An authority that requests are accepted for. -/
def KnownAuthority (authority : Str) : Prop :=
  authority = authorityProviderExecute ∨ authority = authorityActionExecute

lemma KnownAuthority.bar_notMem {authority : Str} (h : KnownAuthority authority) :
    '|' ∉ authority := by
  rcases h with rfl | rfl
  · decide
  · decide

/-- The key of a transaction and a known authority names both. -/
lemma txKey_inj {tx tx' authority authority' : Str} (h : KnownAuthority authority)
    (h' : KnownAuthority authority') (hkey : txKey tx authority = txKey tx' authority') :
    tx = tx' ∧ authority = authority' := by
  have hcount := congrArg (List.count '|') hkey
  unfold txKey at hcount hkey
  rw [List.count_append, List.count_append, List.count_cons_self, List.count_cons_self,
    List.count_eq_zero.mpr h.bar_notMem, List.count_eq_zero.mpr h'.bar_notMem] at hcount
  exact append_sep_inj (by omega) hkey

namespace DecisionRequest

lemma knownAuthority_of_validate {r : DecisionRequest} (h : r.validate = .ok ()) :
    KnownAuthority r.authority := by
  unfold validate at h
  simp only [bind_eq_ok] at h
  obtain ⟨_, -, _, -, _, -, _, -, _, -, _, -, _, -, _, -, _, -, _, -, h⟩ := h
  split at h
  · next hprovider => exact .inl hprovider
  · split at h
    · next haction => exact .inr haction
    · cases h

/-- What the comparison of a retry leaves to be compared. -/
lemma scope_eq_iff_of_sameScope {r : DecisionRequest} {d : Decision}
    (h : r.sameScope d = true) (htx : d.govTxId = r.govTxId)
    (hauthority : d.authority = r.authority) :
    d.toCapabilityScope = r.toCapabilityScope ↔
      d.policyHash = r.policyHash ∧ d.sentinelVerdictId = r.sentinelVerdictId := by
  simp only [sameScope, Bool.and_eq_true, decide_eq_true_eq] at h
  constructor
  · intro hscope
    exact ⟨congrArg CapabilityScope.policyHash hscope,
      congrArg CapabilityScope.sentinelVerdictId hscope⟩
  · rintro ⟨hpolicy, hverdict⟩
    obtain ⟨⟨scope, _⟩, _⟩ := d
    obtain ⟨scope', _⟩ := r
    cases scope
    cases scope'
    simp_all

end DecisionRequest

namespace CapabilityStore

variable {P : Platform} {es : History} {s s₀ s' : CapabilityStore} {env : Supply}
  {req : DecisionRequest}

/-! ### The index names the decision of its key -/

/-- An index entry leads to a decision of that transaction and authority. -/
def Indexed (s : CapabilityStore) : Prop :=
  ∀ key id, s.decisionByTx.lookup key = some id → ∃ d, s.decisions.lookup id = some d ∧
    key = txKey d.govTxId d.authority ∧ KnownAuthority d.authority

/-- What a step does to the decisions: a stored one keeps its request, and the index grows with
the new decision of its key. -/
structure Records (s s' : CapabilityStore) : Prop where
  kept : ∀ id d, s.decisions.lookup id = some d →
    ∃ d', s'.decisions.lookup id = some d' ∧ d'.toDecisionRequest = d.toDecisionRequest
  indexed : ∀ key id, s'.decisionByTx.lookup key = some id →
    s.decisionByTx.lookup key = some id ∨ ∃ d, s'.decisions.lookup id = some d ∧
      key = txKey d.govTxId d.authority ∧ KnownAuthority d.authority

lemma Records.of_eq (hd : s'.decisions = s.decisions) (hi : s'.decisionByTx = s.decisionByTx) :
    Records s s' where
  kept id d hl := ⟨d, by rw [hd, hl], rfl⟩
  indexed key id hl := .inl (by rw [← hi, hl])

lemma Records.indexed_of {s s' : CapabilityStore} (h : Records s s') (hs : Indexed s) :
    Indexed s' := by
  intro key id hl
  rcases h.indexed key id hl with hold | hnew
  · obtain ⟨d, hd, hkey, hauthority⟩ := hs key id hold
    obtain ⟨d', hd', hreq⟩ := h.kept id d hd
    have htx : d'.govTxId = d.govTxId := congrArg (·.govTxId) hreq
    have hauthority' : d'.authority = d.authority := congrArg (·.authority) hreq
    exact ⟨d', hd', by rw [hkey, htx, hauthority'], hauthority' ▸ hauthority⟩
  · exact hnew

/-- **Step lemma.** Every call keeps what is recorded. -/
lemma records_step (c : Call) (h : Inv es s) (hf : FreshDraws (es ++ [(c, (step P s c).1)])) :
    Records s (step P s c).2 := by
  cases c with
  | recordDecision env req =>
    simp only [step] at hf ⊢
    split
    · next r s' hr =>
      rcases recordDecision_cases hr with ⟨e, -, rfl⟩ | ⟨id, d, -, rfl, -⟩ | ⟨hv, hk, -, rfl⟩
      · exact .of_eq rfl rfl
      · exact .of_eq rfl rfl
      · have hnone : s.decisions.lookup (newDecision env req).decisionId = none :=
          h.decision_fresh hf
        constructor
        · intro id d hl
          have hne : id ≠ (newDecision env req).decisionId := by
            rintro rfl
            rw [hnone] at hl
            cases hl
          exact ⟨d, by rw [lookup_insert_eq_ite, if_neg hne, hl], rfl⟩
        · intro key id hl
          simp only [lookup_insert_eq_ite] at hl
          split at hl
          · next hkey =>
            obtain rfl : (newDecision env req).decisionId = id := by simpa using hl
            exact .inr ⟨newDecision env req, by simp, hkey,
              DecisionRequest.knownAuthority_of_validate hv⟩
          · exact .inl hl
    · exact .of_eq rfl rfl
  | issueAfterAuthorization env id =>
    simp only [step]
    split
    · next o s' ho =>
      rcases issueAfterAuthorization_cases ho with ⟨rfl, -⟩ | ⟨d, e, hd, -, -, rfl⟩
      · exact .of_eq rfl rfl
      · constructor
        · intro id' d' hl
          by_cases hid : id' = id
          · subst hid
            exact ⟨{ d' with issued := true }, by simp [lookup_modifyAt, hl], rfl⟩
          · exact ⟨d', by simp [lookup_modifyAt, hid, hl], rfl⟩
        · exact fun key id' hl => .inl hl
    · exact .of_eq rfl rfl
  | consume now p =>
    rcases consume_cases P s now p with ⟨-, hs⟩ | ⟨t, -, -, hc⟩
    · exact .of_eq (by rw [step, hs]) (by rw [step, hs])
    · exact .of_eq (by simp only [step, hc]) (by simp only [step, hc])
  | pruneExpired now => exact .of_eq rfl rfl

/-- The index is right in every reachable store. -/
lemma run_indexed (h0 : Empty s₀) (h : (system P).Run s₀ es s) (hf : FreshDraws es) :
    Indexed s := by
  have hboth : Inv es s ∧ Indexed s := by
    refine h.invariant_of (I := fun es s => Inv es s ∧ Indexed s)
      (fun _ _ => FreshDraws.of_append) ⟨inv_new h0.decisions h0.capabilities h0.decisionByTx, ?_⟩
      (fun es s c hf hs => ?_) hf
    · intro key id hl
      simp [h0.decisionByTx] at hl
    · exact ⟨inv_step c hf hs.1, (records_step c hs.1 hf).indexed_of hs.2⟩
  exact hboth.2

/-- **Run lemma.** A recorded decision keeps its request in every later store. -/
lemma kept_of_exec (h0 : Empty s₀) (h : (system P).Run s₀ es s) {ops : List Call}
    (hf : FreshDraws (es ++ ((system P).exec s ops).1)) {id : Str} {d : Decision}
    (hd : s.decisions.lookup id = some d) :
    ∃ d', ((system P).exec s ops).2.decisions.lookup id = some d' ∧
      d'.toDecisionRequest = d.toDecisionRequest := by
  induction ops generalizing es s d with
  | nil => exact ⟨d, hd, rfl⟩
  | cons c ops ih =>
    have hsplit : es ++ ((system P).exec s (c :: ops)).1 =
        (es ++ [(c, (step P s c).1)]) ++ ((system P).exec (step P s c).2 ops).1 := by
      simp [System.exec, system]
    rw [hsplit] at hf
    have hf₁ := FreshDraws.of_append hf
    have hinv := run_inv (inv_new h0.decisions h0.capabilities h0.decisionByTx) h
      (FreshDraws.of_append hf₁)
    obtain ⟨d₁, hd₁, hreq₁⟩ := (records_step c hinv hf₁).kept id d hd
    obtain ⟨d₂, hd₂, hreq₂⟩ := ih (h.snoc c) hf hd₁
    exact ⟨d₂, hd₂, hreq₂.trans hreq₁⟩

/-! ### The answer to a request -/

/-- The decision stored for the transaction and authority of the request, if there is one, has
the request's policy hash and verdict id. -/
def RepeatsPolicy (s : CapabilityStore) (req : DecisionRequest) : Prop :=
  ∀ id d, s.decisionByTx.lookup (txKey req.govTxId req.authority) = some id →
    s.decisions.lookup id = some d →
      d.policyHash = req.policyHash ∧ d.sentinelVerdictId = req.sentinelVerdictId

lemma recordDecision_scope {id : Str} (hs : Indexed s)
    (h : recordDecision env s req = some (.ok id, s')) :
    ∃ d, s'.decisions.lookup id = some d ∧
      (d.toCapabilityScope = req.toCapabilityScope ↔ RepeatsPolicy s req) := by
  rcases recordDecision_cases h with ⟨e, he, -⟩ | ⟨id', d, hid, rfl, hv, hindex, hd, hsame⟩ |
    ⟨-, hnone, hid, rfl⟩
  · cases he
  · obtain rfl := Except.ok.inj hid
    obtain ⟨d', hd', hkey, hauthority⟩ := hs _ id hindex
    obtain rfl : d = d' := Option.some.inj (hd.symm.trans hd')
    obtain ⟨htx, hauth⟩ :=
      txKey_inj (DecisionRequest.knownAuthority_of_validate hv) hauthority hkey
    refine ⟨d, hd, ?_⟩
    rw [DecisionRequest.scope_eq_iff_of_sameScope hsame htx.symm hauth.symm]
    constructor
    · intro hpolicy id' d' hindex' hd'
      obtain rfl : id = id' := Option.some.inj (hindex.symm.trans hindex')
      obtain rfl : d = d' := Option.some.inj (hd.symm.trans hd')
      exact hpolicy
    · exact fun hpolicy => hpolicy id d hindex hd
  · obtain rfl := Except.ok.inj hid
    refine ⟨newDecision env req, by simp, iff_of_true rfl fun id d hindex => ?_⟩
    rw [hnone] at hindex
    cases hindex

/-- **When the decision of an answered request is the request's own**, in the store after the
call and in every later one, and with it the token issued for it: when no other policy hash or
verdict id was recorded before under its transaction and authority. -/
theorem recordDecision_scope_iff (h0 : Empty s₀) (h : (system P).Run s₀ es s) {id : Str}
    (hrecord : recordDecision env s req = some (.ok id, s')) (ops : List Call)
    (hf : FreshDraws (es ++ ((system P).exec s (.recordDecision env req :: ops)).1)) :
    let later := ((system P).exec s (.recordDecision env req :: ops)).2
    ((∃ d, later.decisions.lookup id = some d ∧ d.toCapabilityScope = req.toCapabilityScope) ↔
      RepeatsPolicy s req) ∧
    ∀ env' token s'', issueAfterAuthorization P env' later id = some (.issued token, s'') →
      (token.toCapabilityScope = req.toCapabilityScope ↔ RepeatsPolicy s req) := by
  intro later
  have hstep : (step P s (.recordDecision env req)).2 = s' := by simp only [step, hrecord]
  obtain ⟨d, hd, hiff⟩ := recordDecision_scope
    (run_indexed h0 h (FreshDraws.of_append hf)) hrecord
  have hsplit : es ++ ((system P).exec s (.recordDecision env req :: ops)).1 =
      (es ++ [(.recordDecision env req, (step P s (.recordDecision env req)).1)]) ++
        ((system P).exec s' ops).1 := by
    simp [System.exec, system, hstep]
  have hlater : later = ((system P).exec s' ops).2 := by
    simp [later, System.exec, system, hstep]
  have hrun : (system P).Run s₀
      (es ++ [(.recordDecision env req, (step P s (.recordDecision env req)).1)]) s' := by
    have hsnoc := h.snoc (Call.recordDecision env req)
    change (system P).Run s₀ _ (step P s (.recordDecision env req)).2 at hsnoc
    rwa [hstep] at hsnoc
  obtain ⟨d', hd', hreq⟩ := kept_of_exec h0 hrun (hsplit ▸ hf) hd
  rw [← hlater] at hd'
  have hscope : d'.toCapabilityScope = d.toCapabilityScope :=
    congrArg DecisionRequest.toCapabilityScope hreq
  rw [← hscope] at hiff
  refine ⟨⟨?_, fun hpolicy => ⟨d', hd', hiff.mpr hpolicy⟩⟩, fun env' token s'' hissue => ?_⟩
  · rintro ⟨d'', hd'', hsame⟩
    obtain rfl : d' = d'' := Option.some.inj (hd'.symm.trans hd'')
    exact hiff.mp hsame
  · rcases issueAfterAuthorization_cases hissue with ⟨-, ho | ho⟩ | ⟨d'', e, hd'', -, ho, -⟩
    · cases ho
    · cases ho
    · obtain rfl : d' = d'' := Option.some.inj (hd'.symm.trans hd'')
      obtain rfl := IssueOutcome.issued.inj ho
      rw [newToken_scope]
      exact hiff

/-! ### A retry after the policy changed -/

/-- The same provider request under a policy hash and a verdict. -/
def retriedRequest (policyHash sentinelVerdictId : Str) : DecisionRequest where
  govTxId := "tx1"
  sessionId := "s1"
  principalFingerprint := "fp"
  authority := authorityProviderExecute
  backend := "groq"
  model := "llama"
  actionClass := "chat"
  sentinelVerdictId
  policyHash
  runId := "run1"
  contextHash := List.replicate 64 'c'
  policyVersion := "policy-v1"
  actionHash := []
  toolName := []
  resourceKind := []
  resourceLocator := []
  toolCallId := []
  actionPlane := .tool
  normalizedAction := []
  requiredForSafeCompletion := true
  authorizationBasis := "BelowRiskThreshold"
  agency := "L2"
  drs := 20

def firstRequest : DecisionRequest := retriedRequest (List.replicate 64 'd') "sv1"
def secondRequest : DecisionRequest := retriedRequest (List.replicate 64 'e') "sv2"

/-- The store after the first request. -/
def firstStore : CapabilityStore :=
  (step silentPlatform new (.recordDecision (fixedSupply 0 0) firstRequest)).2

def firstId : Str := decisionIdOf (fixedSupply 0 0).fresh

lemma firstStore_run : (system silentPlatform).Run new
    [(.recordDecision (fixedSupply 0 0) firstRequest,
      (step silentPlatform new (.recordDecision (fixedSupply 0 0) firstRequest)).1)] firstStore :=
  System.Run.nil.snoc (Call.recordDecision (fixedSupply 0 0) firstRequest)

lemma recordDecision_secondRequest :
    recordDecision (fixedSupply 0 2) firstStore secondRequest = some (.ok firstId, firstStore) :=
  rfl

theorem recordDecision_scope_iff_secondRequest :
    (∃ d, ((system silentPlatform).exec firstStore
        [.recordDecision (fixedSupply 0 2) secondRequest]).2.decisions.lookup firstId = some d ∧
      d.toCapabilityScope = secondRequest.toCapabilityScope) ↔
    RepeatsPolicy firstStore secondRequest :=
  (recordDecision_scope_iff new_empty firstStore_run recordDecision_secondRequest []
    ⟨by decide +kernel, by decide +kernel⟩).1

/-- **The second request is answered with the decision of the first**, which has another policy
hash and another verdict id. -/
theorem recordDecision_keeps_policy :
    ¬ ∀ es s, (system silentPlatform).Run new es s → FreshDraws es →
      ∀ env req id s', recordDecision env s req = some (.ok id, s') →
        ∃ d, s'.decisions.lookup id = some d ∧ d.policyHash = req.policyHash ∧
          d.sentinelVerdictId = req.sentinelVerdictId := by
  intro h
  obtain ⟨d, hd, hpolicy, -⟩ := h _ _ firstStore_run ⟨by decide +kernel, by decide +kernel⟩
    _ _ _ _ recordDecision_secondRequest
  have hfirst : firstStore.decisions.lookup firstId =
      some (newDecision (fixedSupply 0 0) firstRequest) := rfl
  obtain rfl := Option.some.inj (hfirst.symm.trans hd)
  exact absurd hpolicy (by decide +kernel)

end CapabilityStore

end GovSec
