import GovSec.Capability
import GovSec.Lib.Runs

/-!
Runs of one capability store. A token is spent at most once, and so is the pair of a
transaction and an authority, over every sequence of calls.

The invariant ties the three maps together: the transaction index names the decision of its
key, a token belongs to one issued decision and repeats its scope, and once a binding was
authorized every stored token of its decision is used up.
-/

namespace GovSec.CapabilityStore

open GovSec.Lib.Text GovSec.Lib.Maps GovSec.Lib.Runs

inductive Call
  | recordDecision (env : Supply) (req : DecisionRequest)
  | issueAfterAuthorization (env : Supply) (decisionId : Str)
  | consume (now : DateTime) (p : PresentedBinding)
  /-- The clock reading for each stored token. -/
  | pruneExpired (now : Str → DateTime)

inductive Answer
  | recorded (r : Except CapabilityError Str)
  | issued (o : IssueOutcome)
  | consumed (o : ConsumeOutcome)
  | pruned (n : ℕ)
  /-- The call panicked; no state was written. -/
  | panicked

variable (P : Platform)

/-- Each call holds one write lock, so it is one step. -/
def step (s : CapabilityStore) : Call → Answer × CapabilityStore
  | .recordDecision env req =>
    match recordDecision env s req with
    | some (r, s') => (.recorded r, s')
    | none => (.panicked, s)
  | .issueAfterAuthorization env decisionId =>
    match issueAfterAuthorization P env s decisionId with
    | some (o, s') => (.issued o, s')
    | none => (.panicked, s)
  | .consume now p =>
    let (o, s') := consume P s now p
    (.consumed o, s')
  | .pruneExpired now =>
    let (n, s') := pruneExpired s now
    (.pruned n, s')

def system : System CapabilityStore Call Answer := ⟨step P⟩

abbrev History := List (Call × Answer)

/-- The bindings a `consume` call answered `Authorized` to. -/
def authorizedBindings (es : History) : List PresentedBinding :=
  es.filterMap fun
    | (.consume _ p, .consumed .authorized) => some p
    | _ => none

/-- The identifiers drawn for decisions. -/
def decisionDraws (es : History) : List Uuid :=
  es.filterMap fun
    | (.recordDecision env _, _) => some env.fresh
    | _ => none

/-- The identifiers drawn for tokens. -/
def tokenDraws (es : History) : List Uuid :=
  es.filterMap fun
    | (.issueAfterAuthorization env _, _) => some env.fresh
    | _ => none

/-- Freshly generated decision and token ids never repeat. -/
structure FreshDraws (es : History) : Prop where
  decisions : (decisionDraws es).Nodup
  tokens : (tokenDraws es).Nodup

variable {P} {es : History} {s s₀ : CapabilityStore}

lemma FreshDraws.of_append {fs : History} (h : FreshDraws (es ++ fs)) : FreshDraws es where
  decisions := (List.nodup_append.mp (by simpa [decisionDraws] using h.decisions)).1
  tokens := (List.nodup_append.mp (by simpa [tokenDraws] using h.tokens)).1

/-! ### The invariant -/

def decisionIdOf (u : Uuid) : Str := "DEC-" ++ u.simple
def tokenIdOf (u : Uuid) : Str := "CAP-" ++ u.simple

lemma decisionIdOf_injective {u v : Uuid} (h : decisionIdOf u = decisionIdOf v) : u = v :=
  Hex.text_injective (List.append_cancel_left h)

lemma tokenIdOf_injective {u v : Uuid} (h : tokenIdOf u = tokenIdOf v) : u = v :=
  Hex.text_injective (List.append_cancel_left h)

/-- `t` is a token of an issued decision and repeats its scope. -/
structure Backed (s : CapabilityStore) (t : CapabilityToken) : Prop where
  maxUses : t.maxUses = 1
  decision : ∃ d, s.decisions.lookup t.haapDecisionId = some d ∧ d.issued = true ∧
    t.toCapabilityScope = d.toCapabilityScope

/-- The decision behind an authorized binding was issued, and every stored token of that
decision or under that token id is used up. -/
structure Spent (es : History) (s : CapabilityStore) (p : PresentedBinding) : Prop where
  drawn : ∃ u ∈ tokenDraws es, p.tokenId = tokenIdOf u
  decision : ∃ id d, s.decisions.lookup id = some d ∧ d.issued = true ∧
    d.govTxId = p.govTxId ∧ d.authority = p.authority ∧
    ∀ tid t, s.capabilities.lookup tid = some t → t.haapDecisionId = id ∨ tid = p.tokenId →
      t.maxUses ≤ t.useCount

/-- Two bindings with neither a token id nor a transaction and authority in common. -/
def Apart (p q : PresentedBinding) : Prop :=
  p.tokenId ≠ q.tokenId ∧ (p.govTxId, p.authority) ≠ (q.govTxId, q.authority)

structure Inv (es : History) (s : CapabilityStore) : Prop where
  /-- A decision is stored under its own drawn id, which the index gives for its key. -/
  decision : ∀ id d, s.decisions.lookup id = some d → d.decisionId = id ∧
    (∃ u ∈ decisionDraws es, id = decisionIdOf u) ∧
    s.decisionByTx.lookup (txKey d.govTxId d.authority) = some id
  index : ∀ key id, s.decisionByTx.lookup key = some id → ∃ d, s.decisions.lookup id = some d
  token : ∀ tid t, s.capabilities.lookup tid = some t →
    (∃ u ∈ tokenDraws es, tid = tokenIdOf u) ∧ Backed s t
  oneToken : ∀ tid t tid' t', s.capabilities.lookup tid = some t →
    s.capabilities.lookup tid' = some t' → t.haapDecisionId = t'.haapDecisionId → tid = tid'
  spent : ∀ p ∈ authorizedBindings es, Spent es s p
  once : (authorizedBindings es).Pairwise Apart

lemma inv_new (hd : s.decisions = ∅) (hc : s.capabilities = ∅) (hi : s.decisionByTx = ∅) :
    Inv [] s where
  decision := by simp [hd]
  index := by simp [hi]
  token := by simp [hc]
  oneToken := by simp [hc]
  spent := by simp [authorizedBindings]
  once := by simp [authorizedBindings]

lemma authorizedBindings_append_of_ne {now : DateTime} {p : PresentedBinding} {o : ConsumeOutcome}
    (ho : o ≠ .authorized) :
    authorizedBindings (es ++ [(.consume now p, .consumed o)]) = authorizedBindings es := by
  cases o <;> simp_all [authorizedBindings]

/-- A step that authorizes nothing and leaves the store alone keeps the invariant. -/
lemma Inv.append_event {e : Call × Answer} (h : Inv es s)
    (he : authorizedBindings (es ++ [e]) = authorizedBindings es) : Inv (es ++ [e]) s := by
  have hd : ∀ u ∈ decisionDraws es, u ∈ decisionDraws (es ++ [e]) := fun u hu => by
    simp [decisionDraws] at hu ⊢; exact .inl hu
  have ht : ∀ u ∈ tokenDraws es, u ∈ tokenDraws (es ++ [e]) := fun u hu => by
    simp [tokenDraws] at hu ⊢; exact .inl hu
  refine ⟨fun id d hl => ?_, h.index, fun tid t hl => ?_, h.oneToken, fun p hp => ?_, he ▸ h.once⟩
  · obtain ⟨hid, ⟨u, hu, hu'⟩, hk⟩ := h.decision id d hl
    exact ⟨hid, ⟨u, hd u hu, hu'⟩, hk⟩
  · obtain ⟨⟨u, hu, hu'⟩, hb⟩ := h.token tid t hl
    exact ⟨⟨u, ht u hu, hu'⟩, hb⟩
  · obtain ⟨⟨u, hu, hu'⟩, hb⟩ := h.spent p (he ▸ hp)
    exact ⟨⟨u, ht u hu, hu'⟩, hb⟩

/-- A drawn id is new among the decisions when the draws of the history are distinct. -/
lemma Inv.decision_fresh {env : Supply} {req : DecisionRequest} {a : Answer} (h : Inv es s)
    (hf : FreshDraws (es ++ [(.recordDecision env req, a)])) :
    s.decisions.lookup (decisionIdOf env.fresh) = none := by
  by_contra hne
  obtain ⟨d, hd⟩ := Option.ne_none_iff_exists'.mp hne
  obtain ⟨-, ⟨u, hu, hu'⟩, -⟩ := h.decision _ _ hd
  have hn := hf.decisions
  rw [decisionDraws, List.filterMap_append, List.nodup_append] at hn
  exact hn.2.2 u hu env.fresh (by simp) (decisionIdOf_injective hu').symm

lemma Inv.token_fresh {env : Supply} {id : Str} {a : Answer}
    (hf : FreshDraws (es ++ [(.issueAfterAuthorization env id, a)])) :
    ∀ u ∈ tokenDraws es, u ≠ env.fresh := by
  have hn := hf.tokens
  rw [tokenDraws, List.filterMap_append, List.nodup_append] at hn
  exact fun u hu => hn.2.2 u hu env.fresh (by simp)

/-! ### Each call keeps the invariant -/

/-- A new decision. -/
lemma Inv.recordDecision {env : Supply} {req : DecisionRequest} (h : Inv es s)
    (hd : s.decisions.lookup (newDecision env req).decisionId = none)
    (hk : s.decisionByTx.lookup (txKey req.govTxId req.authority) = none)
    (hu : env.fresh ∈ decisionDraws es) :
    Inv es { s with
      decisions := s.decisions.insert (newDecision env req).decisionId (newDecision env req)
      decisionByTx := s.decisionByTx.insert (txKey req.govTxId req.authority)
        (newDecision env req).decisionId } := by
  -- the decisions already there stay, under other ids and other keys
  have hstay : ∀ id d, s.decisions.lookup id = some d → id ≠ (newDecision env req).decisionId := by
    rintro id d hl rfl
    simp [hd] at hl
  have hkey : ∀ id d, s.decisions.lookup id = some d →
      txKey d.govTxId d.authority ≠ txKey req.govTxId req.authority := by
    intro id d hl heq
    have hid := (h.decision id d hl).2.2
    rw [heq, hk] at hid
    simp at hid
  have hkeep : ∀ id d, s.decisions.lookup id = some d → (s.decisions.insert
      (newDecision env req).decisionId (newDecision env req)).lookup id = some d := by
    intro id d hl
    rw [lookup_insert_eq_ite, if_neg (hstay id d hl), hl]
  constructor
  case decision =>
    intro id d hl
    simp only [lookup_insert_eq_ite] at hl
    split at hl
    · next hid =>
      obtain rfl : newDecision env req = d := by simpa using hl
      exact ⟨hid.symm, ⟨env.fresh, hu, hid⟩, by rw [hid]; exact Finmap.lookup_insert _⟩
    · rw [lookup_insert_eq_ite, if_neg (hkey id d hl)]
      exact h.decision id d hl
  case index =>
    intro key id hl
    simp only [lookup_insert_eq_ite] at hl
    split at hl
    · obtain rfl : (newDecision env req).decisionId = id := by simpa using hl
      exact ⟨newDecision env req, by simp⟩
    · obtain ⟨d, hd⟩ := h.index key id hl
      exact ⟨d, hkeep id d hd⟩
  case token =>
    intro tid t hl
    obtain ⟨hu, hm, d, hd, hrest⟩ := h.token tid t hl
    exact ⟨hu, hm, d, hkeep _ d hd, hrest⟩
  case oneToken => exact h.oneToken
  case spent =>
    intro p hp
    obtain ⟨hu, id, d, hd, hrest⟩ := h.spent p hp
    exact ⟨hu, id, d, hkeep id d hd, hrest⟩
  case once => exact h.once

/-- A new token, whose decision becomes issued. -/
lemma Inv.issueAfterAuthorization {env : Supply} {d : Decision} {id : Str} {i e : DateTime}
    (h : Inv es s) (hd : s.decisions.lookup id = some d) (hi : d.issued = false)
    (hold : ∀ u ∈ tokenDraws es, u ≠ env.fresh) {ev : Call × Answer}
    (hev : authorizedBindings (es ++ [ev]) = authorizedBindings es)
    (hnew : env.fresh ∈ tokenDraws (es ++ [ev])) :
    Inv (es ++ [ev]) { s with
      decisions := modifyAt s.decisions id fun d => { d with issued := true }
      capabilities := s.capabilities.insert ("CAP-" ++ env.fresh.simple)
        (newToken P env d i e) } := by
  have h' := h.append_event hev
  have hdid := (h.decision id d hd).1
  -- an issued decision stays as it is, since it is not this one
  have hkeep : ∀ id' d', s.decisions.lookup id' = some d' → d'.issued = true →
      id' ≠ id ∧ (modifyAt s.decisions id fun d => { d with issued := true }).lookup id' =
        some d' := by
    intro id' d' hl hi'
    have hne : id' ≠ id := by
      rintro rfl
      obtain rfl : d = d' := by simpa [hd] using hl
      simp [hi] at hi'
    exact ⟨hne, by rw [lookup_modifyAt, if_neg hne, hl]⟩
  -- a token already there belongs to another decision
  have hother : ∀ tid t, s.capabilities.lookup tid = some t → t.haapDecisionId ≠ d.decisionId := by
    intro tid t ht
    obtain ⟨-, -, d', hd', hi', -⟩ := h.token tid t ht
    rw [hdid]
    exact (hkeep _ d' hd' hi').1
  have hissued : (modifyAt s.decisions id fun d => { d with issued := true }).lookup id =
      some { d with issued := true } := by simp [lookup_modifyAt, hd]
  constructor
  case decision =>
    intro id' d' hl
    simp only [lookup_modifyAt] at hl
    split at hl
    · next hid =>
      subst hid
      obtain rfl : { d with issued := true } = d' := by simpa [hd] using hl
      exact h'.decision id' d hd
    · exact h'.decision id' d' hl
  case index =>
    intro key id' hl
    obtain ⟨d', hd'⟩ := h.index key id' hl
    by_cases hid : id' = id
    · exact ⟨{ d with issued := true }, by rw [hid]; exact hissued⟩
    · exact ⟨d', by simp [lookup_modifyAt, hid, hd']⟩
  case token =>
    intro tid t hl
    simp only [lookup_insert_eq_ite] at hl
    split at hl
    · next htid =>
      obtain rfl : newToken P env d i e = t := by simpa using hl
      refine ⟨⟨env.fresh, hnew, htid⟩, rfl, { d with issued := true }, ?_, rfl, rfl⟩
      have hid : (newToken P env d i e).haapDecisionId = id := hdid
      rw [hid]
      exact hissued
    · obtain ⟨hu, hm, d', hd', hi', hs⟩ := h'.token tid t hl
      exact ⟨hu, hm, d', (hkeep _ d' hd' hi').2, hi', hs⟩
  case oneToken =>
    intro tid t tid' t' hl hl' heq
    simp only [lookup_insert_eq_ite] at hl hl'
    split at hl
    · next htid =>
      obtain rfl : newToken P env d i e = t := by simpa using hl
      split at hl'
      · next htid' => rw [htid, htid']
      · exact absurd heq.symm (hother tid' t' hl')
    · split at hl'
      · obtain rfl : newToken P env d i e = t' := by simpa using hl'
        exact absurd heq (hother tid t hl)
      · exact h.oneToken tid t tid' t' hl hl' heq
  case spent =>
    intro p hp
    obtain ⟨hu, id', d', hd', hi', htx, hau, hall⟩ := h'.spent p hp
    refine ⟨hu, id', d', (hkeep id' d' hd' hi').2, hi', htx, hau, fun tid t hl hor => ?_⟩
    simp only [lookup_insert_eq_ite] at hl
    split at hl
    · next htid =>
      -- the new token is under neither the spent decision nor the spent token id
      obtain rfl : newToken P env d i e = t := by simpa using hl
      exfalso
      rcases hor with hor | hor
      · exact (hkeep id' d' hd' hi').1 (by rw [← hor, newToken_haapDecisionId, hdid])
      · obtain ⟨u, hu, hu'⟩ := (h.spent p (hev ▸ hp)).drawn
        exact hold u hu (tokenIdOf_injective (hu'.symm.trans (hor.symm.trans htid)))
    · exact hall tid t hl hor
  case once => exact h'.once

/-- A token is used. It was not used before, so no earlier binding used it or its decision. -/
lemma Inv.consume {p : PresentedBinding} {t : CapabilityToken} (h : Inv es s)
    (ht : s.capabilities.lookup p.tokenId = some t) (hu : t.useCount < t.maxUses)
    (hm : Matches t p) {ev : Call × Answer}
    (hev : authorizedBindings (es ++ [ev]) = authorizedBindings es ++ [p])
    (hdr : tokenDraws (es ++ [ev]) = tokenDraws es)
    (hdd : decisionDraws (es ++ [ev]) = decisionDraws es) :
    Inv (es ++ [ev]) { s with
      capabilities := s.capabilities.insert p.tokenId { t with useCount := t.useCount + 1 } } := by
  obtain ⟨htok, hmax, d, hd, hi, hscope⟩ := h.token _ t ht
  have htx : d.govTxId = p.govTxId := by
    rw [← hm.govTx]; exact (congrArg (·.govTxId) hscope).symm
  have hau : d.authority = p.authority := by
    rw [← hm.authority]; exact (congrArg (·.authority) hscope).symm
  constructor
  case decision => rw [hdd]; exact h.decision
  case index => exact h.index
  case token =>
    intro tid t' hl
    rw [hdr]
    simp only [lookup_insert_eq_ite] at hl
    split at hl
    · next htid =>
      obtain rfl : { t with useCount := t.useCount + 1 } = t' := by simpa using hl
      exact ⟨htid ▸ htok, hmax, d, hd, hi, hscope⟩
    · obtain ⟨htok', hmax', hdec'⟩ := h.token tid t' hl
      exact ⟨htok', hmax', hdec'⟩
  case oneToken =>
    intro tid t₁ tid' t₂ hl hl' heq
    simp only [lookup_insert_eq_ite] at hl hl'
    split at hl <;> split at hl'
    · next h₁ h₂ => rw [h₁, h₂]
    · next h₁ _ =>
      obtain rfl : { t with useCount := t.useCount + 1 } = t₁ := by simpa using hl
      exact h₁ ▸ h.oneToken _ t _ t₂ ht hl' heq
    · next _ h₂ =>
      obtain rfl : { t with useCount := t.useCount + 1 } = t₂ := by simpa using hl'
      exact h₂ ▸ h.oneToken _ t₁ _ t hl ht heq
    · exact h.oneToken tid t₁ tid' t₂ hl hl' heq
  case spent =>
    intro q hq
    rw [hev, List.mem_append, List.mem_singleton] at hq
    rcases hq with hq | rfl
    · obtain ⟨hqu, id, d', hd', hi', hqtx, hqau, hall⟩ := h.spent q hq
      refine ⟨hdr ▸ hqu, id, d', hd', hi', hqtx, hqau, fun tid t' hl hor => ?_⟩
      simp only [lookup_insert_eq_ite] at hl
      split at hl
      · next htid =>
        obtain rfl : { t with useCount := t.useCount + 1 } = t' := by simpa using hl
        exact (hall _ t ht (htid ▸ hor)).trans (Nat.le_succ _)
      · exact hall tid t' hl hor
    · refine ⟨hdr ▸ htok, t.haapDecisionId, d, hd, hi, htx, hau, fun tid t' hl hor => ?_⟩
      simp only [lookup_insert_eq_ite] at hl
      split at hl
      · obtain rfl : { t with useCount := t.useCount + 1 } = t' := by simpa using hl
        simp [hmax]
      · next htid =>
        rcases hor with hor | hor
        · exact absurd (h.oneToken tid t' _ t hl ht hor) htid
        · exact absurd hor htid
  case once =>
    rw [hev, List.pairwise_append]
    refine ⟨h.once, List.pairwise_singleton _ _, fun q hq r hr => ?_⟩
    obtain rfl := List.mem_singleton.mp hr
    obtain ⟨-, id, d', hd', hi', hqtx, hqau, hall⟩ := h.spent q hq
    -- the token is unspent, so it is not under the earlier binding's id or decision
    have hunspent : ¬ (t.haapDecisionId = id ∨ r.tokenId = q.tokenId) := fun hor =>
      absurd (hall _ t ht hor) (not_le.mpr hu)
    refine ⟨fun heq => hunspent (.inr heq.symm), fun heq => hunspent (.inl ?_)⟩
    obtain ⟨htx', hau'⟩ := Prod.mk.inj heq
    have hk := (h.decision _ d hd).2.2
    have hk' := (h.decision _ d' hd').2.2
    rw [htx, hau, ← htx', ← hau', ← hqtx, ← hqau, hk'] at hk
    exact (Option.some.inj hk).symm

/-- Tokens are dropped. -/
lemma Inv.pruneExpired {keep : Str → CapabilityToken → Bool} (h : Inv es s) :
    Inv es { s with capabilities := retain keep s.capabilities } where
  decision := h.decision
  index := h.index
  token tid t hl := by
    obtain ⟨hu, hm, hd⟩ := h.token tid t (lookup_retain_eq_some.mp hl).1
    exact ⟨hu, hm, hd⟩
  oneToken tid t tid' t' hl hl' heq :=
    h.oneToken tid t tid' t' (lookup_retain_eq_some.mp hl).1 (lookup_retain_eq_some.mp hl').1 heq
  spent p hp := by
    obtain ⟨hu, id, d, hd, hi, htx, hau, hall⟩ := h.spent p hp
    exact ⟨hu, id, d, hd, hi, htx, hau,
      fun tid t hl hor => hall tid t (lookup_retain_eq_some.mp hl).1 hor⟩
  once := h.once

/-! ### Runs -/

theorem inv_step (c : Call) (hf : FreshDraws (es ++ [(c, (step P s c).1)])) (h : Inv es s) :
    Inv (es ++ [(c, (step P s c).1)]) (step P s c).2 := by
  cases c with
  | recordDecision env req =>
    have happ : ∀ a, Inv (es ++ [(.recordDecision env req, a)]) s := fun a =>
      h.append_event (by simp [authorizedBindings])
    have hdraw : ∀ a, env.fresh ∈ decisionDraws (es ++ [(.recordDecision env req, a)]) := by
      simp [decisionDraws]
    simp only [step] at hf ⊢
    split
    · next r s' hr =>
      rcases recordDecision_cases hr with ⟨e, -, rfl⟩ | ⟨id, d, -, rfl, -⟩ | ⟨-, hk, -, rfl⟩
      · exact happ _
      · exact happ _
      · exact (happ _).recordDecision (h.decision_fresh hf) hk (hdraw _)
    · exact happ _
  | issueAfterAuthorization env id =>
    have hev : ∀ a, authorizedBindings (es ++ [(.issueAfterAuthorization env id, a)]) =
        authorizedBindings es := by simp [authorizedBindings]
    simp only [step] at hf ⊢
    split
    · next o s' ho =>
      rcases issueAfterAuthorization_cases ho with ⟨rfl, -⟩ | ⟨d, e, hd, hi, rfl, rfl⟩
      · exact h.append_event (hev _)
      · exact h.issueAfterAuthorization hd hi (Inv.token_fresh hf) (hev _) (by simp [tokenDraws])
    · exact h.append_event (hev _)
  | consume now p =>
    rcases consume_cases P s now p with ⟨ho, hs⟩ | ⟨t, ht, hr, hc⟩
    · simp only [step, hs]
      exact h.append_event (authorizedBindings_append_of_ne ho)
    · obtain ⟨-, hu, -, hm⟩ := refusal_eq_none.mp hr
      simp only [step, hc]
      exact h.consume ht hu hm (by simp [authorizedBindings]) (by simp [tokenDraws])
        (by simp [decisionDraws])
  | pruneExpired now =>
    exact (h.append_event (by simp [authorizedBindings])).pruneExpired

/-- **A run keeps the invariant.** -/
theorem run_inv (h0 : Inv [] s₀) (h : (system P).Run s₀ es s) (hf : FreshDraws es) : Inv es s :=
  h.invariant_of (fun _ _ => FreshDraws.of_append) h0 (fun _ _ c => inv_step c) hf

/-- A store without decisions, tokens and index entries, with any time to live. -/
structure Empty (s : CapabilityStore) : Prop where
  decisions : s.decisions = ∅
  capabilities : s.capabilities = ∅
  decisionByTx : s.decisionByTx = ∅

lemma new_empty : Empty new := ⟨rfl, rfl, rfl⟩

lemma withTtlSecs_empty {ttl : ℤ} {s' : CapabilityStore} (h : Empty s)
    (hs : s.withTtlSecs ttl = .ok s') : Empty s' := by
  unfold withTtlSecs at hs
  split at hs
  · simp at hs
  · obtain rfl : _ = s' := by simpa using hs
    exact ⟨h.decisions, h.capabilities, h.decisionByTx⟩

lemma length_le_one_of_pairwise {α : Type} {R : α → α → Prop} {l : List α} (h : l.Pairwise R)
    (hR : ∀ a ∈ l, ∀ b ∈ l, ¬ R a b) : l.length ≤ 1 := by
  match l with
  | [] => simp
  | [_] => simp
  | a :: b :: _ => exact absurd (List.rel_of_pairwise_cons h (by simp)) (hR a (by simp) b (by simp))

/-- **Single use.** Over every sequence of calls with fresh draws, `consume` authorizes at most
once for each token id and at most once for each transaction and authority. -/
theorem consume_authorized_at_most_once (h0 : Empty s₀) (h : (system P).Run s₀ es s)
    (hf : FreshDraws es) :
    (∀ tokenId, ((authorizedBindings es).filter (·.tokenId = tokenId)).length ≤ 1) ∧
    ∀ govTxId authority, ((authorizedBindings es).filter
      fun p => p.govTxId = govTxId ∧ p.authority = authority).length ≤ 1 := by
  have honce := (run_inv (inv_new h0.decisions h0.capabilities h0.decisionByTx) h hf).once
  constructor
  · refine fun tokenId => length_le_one_of_pairwise (honce.filter _) fun a ha b hb hab => ?_
    simp only [List.mem_filter, decide_eq_true_eq] at ha hb
    exact hab.1 (ha.2.trans hb.2.symm)
  · intro govTxId authority
    refine length_le_one_of_pairwise (honce.filter _) fun a ha b hb hab => ?_
    simp only [List.mem_filter, decide_eq_true_eq] at ha hb
    exact hab.2 (by rw [ha.2.1, ha.2.2, hb.2.1, hb.2.2])

/-- A decision, a token, and a retry of each: the token is consumed once and then refused. -/
def replayCalls : List Call :=
  let scope : CapabilityScope :=
    { govTxId := "tx1", sessionId := "s1", principalFingerprint := "fp"
      authority := authorityProviderExecute, backend := "groq", model := "llama"
      actionClass := "chat", sentinelVerdictId := "sv1", policyHash := List.replicate 64 'd'
      runId := "run1", contextHash := List.replicate 64 'c', policyVersion := "policy-v1"
      actionHash := [], toolName := [], resourceKind := [], resourceLocator := []
      toolCallId := [], actionPlane := .tool, normalizedAction := []
      requiredForSafeCompletion := true }
  let req : DecisionRequest :=
    { scope with authorizationBasis := "BelowRiskThreshold", agency := "L2", drs := 20 }
  let p : PresentedBinding :=
    { scope with tokenId := tokenIdOf (fixedSupply 0 1).fresh, plane := [] }
  let decisionId := decisionIdOf (fixedSupply 0 0).fresh
  [.recordDecision (fixedSupply 0 0) req, .issueAfterAuthorization (fixedSupply 0 1) decisionId,
    .recordDecision (fixedSupply 0 2) req, .issueAfterAuthorization (fixedSupply 0 3) decisionId,
    .consume 1 p, .consume 2 p, .pruneExpired fun _ => 3]

def replayHistory : History :=
  ((system silentPlatform).exec new replayCalls).1

theorem consume_authorized_at_most_once_replay :
    (authorizedBindings replayHistory).length = 1 ∧ FreshDraws replayHistory ∧
    (∀ tokenId, ((authorizedBindings replayHistory).filter (·.tokenId = tokenId)).length ≤ 1) ∧
    ∀ govTxId authority, ((authorizedBindings replayHistory).filter
      fun p => p.govTxId = govTxId ∧ p.authority = authority).length ≤ 1 := by
  have hf : FreshDraws replayHistory := ⟨by decide +kernel, by decide +kernel⟩
  exact ⟨by decide +kernel, hf,
    consume_authorized_at_most_once new_empty (System.Run.of_exec new replayCalls) hf⟩

/-- No call of a run panics on the index. -/
theorem recordDecision_isSome (h0 : Empty s₀) (h : (system P).Run s₀ es s) (hf : FreshDraws es)
    (env : Supply) (req : DecisionRequest) : (recordDecision env s req).isSome = true := by
  have hinv := run_inv (inv_new h0.decisions h0.capabilities h0.decisionByTx) h hf
  unfold recordDecision
  split
  · rfl
  · simp only
    split
    · next id hid =>
      obtain ⟨d, hd⟩ := hinv.index _ id hid
      rw [hd]
      simp only
      split <;> rfl
    · rfl

end GovSec.CapabilityStore
