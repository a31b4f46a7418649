import GovSec.CapabilityRuns
import GovSec.Lib.Isolation

/-!
What time does to the capability store.

Pruning forgets the tokens that have expired. As long as the clock does not go back a forgotten
token would have been refused anyway, and nothing but the reason of the refusal shows that it was
pruned. The expiry of a new token is a sum that the clock's range may not hold: the validation of
the time to live bounds it from below only.
-/

namespace GovSec.CapabilityStore

open GovSec.Lib.Text GovSec.Lib.Maps GovSec.Lib.Runs

variable {P : Platform} {env : Supply} {s s' : CapabilityStore} {c : Call} {cs : List Call}
  {m : HashMap Str CapabilityToken}

/-! ### Pruning -/

/-- The clock readings of a call. -/
def Call.Reads : Call → DateTime → Prop
  | .recordDecision env _, x => x = env.now
  | .issueAfterAuthorization env _, x => x = env.now
  | .consume now _, x => x = now
  | .pruneExpired now, x => ∃ id, x = now id

/-- The readings of a call are not later than those of the calls after it. -/
def ClockOrdered (cs : List Call) : Prop :=
  cs.Pairwise fun c c' => ∀ x y, c.Reads x → c'.Reads y → x ≤ y

/-- Every call but `prune_expired`. -/
def Call.live : Call → Bool
  | .pruneExpired _ => false
  | _ => true

/-- How a call in `s` and the same call with tokens pruned are answered: alike, but that the refusal
of an expired token may become `NotFound`. -/
inductive Agrees (s : CapabilityStore) : Call → Answer → Answer → Prop
  | same (c : Call) (a : Answer) : Agrees s c a a
  | forgotten (now : DateTime) (p : PresentedBinding) (o : ConsumeOutcome) (t : CapabilityToken)
      (hstored : s.capabilities.lookup p.tokenId = some t) (hexpired : ¬ now < t.expiresAt)
      (hrefused : o ≠ .authorized) : Agrees s (.consume now p) (.consumed o) (.consumed .notFound)

/-- A token that no call to come finds unexpired. -/
def Stale (cs : List Call) (t : CapabilityToken) : Prop :=
  ∀ c ∈ cs, ∀ x, c.Reads x → t.expiresAt ≤ x

/-- `m` holds the tokens of `s` without some that are stale for the calls to come. -/
structure Pruned (s : CapabilityStore) (m : HashMap Str CapabilityToken) (cs : List Call) :
    Prop where
  ordered : ClockOrdered cs
  tokens : ∀ id, m.lookup id = s.capabilities.lookup id ∨
    m.lookup id = none ∧ ∃ t, s.capabilities.lookup id = some t ∧ Stale cs t

/-- The same store with other tokens. -/
def withTokens (s : CapabilityStore) (m : HashMap Str CapabilityToken) : CapabilityStore :=
  { s with capabilities := m }

lemma Stale.tail {t : CapabilityToken} (h : Stale (c :: cs) t) : Stale cs t :=
  fun c' hc' => h c' (List.mem_cons_of_mem _ hc')

lemma Pruned.refl (h : ClockOrdered cs) : Pruned s s.capabilities cs := ⟨h, fun _ => .inl rfl⟩

lemma Pruned.tail (h : Pruned s m (c :: cs)) : Pruned s m cs where
  ordered := h.ordered.of_cons
  tokens id := (h.tokens id).imp_right fun ⟨hnone, t, ht, hstale⟩ => ⟨hnone, t, ht, hstale.tail⟩

/-- Only the tokens of the store matter. -/
lemma Pruned.congr (h : Pruned s m cs) (heq : s'.capabilities = s.capabilities) :
    Pruned s' m cs where
  ordered := h.ordered
  tokens := by rw [heq]; exact h.tokens

/-- A token stored in both. -/
lemma Pruned.insert (h : Pruned s m cs) {id : Str} {t : CapabilityToken}
    (hs : s'.capabilities = s.capabilities.insert id t) : Pruned s' (m.insert id t) cs where
  ordered := h.ordered
  tokens id' := by
    rw [hs, lookup_insert_eq_ite, lookup_insert_eq_ite]
    split
    · exact .inl rfl
    · exact h.tokens id'

lemma Pruned.pruneExpired {now : Str → DateTime} (h : Pruned s m (.pruneExpired now :: cs)) :
    Pruned s (retain (fun id t => now id < t.expiresAt) m) cs where
  ordered := h.ordered.of_cons
  tokens id := by
    rw [lookup_retain]
    obtain heq | ⟨hnone, t, ht, hstale⟩ := h.tokens id
    · cases ht : m.lookup id with
      | none => exact .inl (by rw [← heq, ht, Option.filter_none])
      | some t =>
        by_cases hlive : now id < t.expiresAt
        · left
          rw [← heq, ht, Option.filter_some, if_pos (by simpa using hlive)]
        · -- the token goes; later readings are not before this one
          right
          refine ⟨by rw [Option.filter_some, if_neg (by simpa using hlive)], t, heq ▸ ht,
            fun c hc x hx => ?_⟩
          have hlater := List.rel_of_pairwise_cons h.ordered hc (now id) x ⟨id, rfl⟩ hx
          exact (not_lt.mp hlive).trans hlater
    · exact .inr ⟨by rw [hnone, Option.filter_none], t, ht, hstale.tail⟩

/-! ### What the other calls do with fewer tokens -/

/-- Recording a decision does not look at the tokens. -/
lemma recordDecision_withTokens (req : DecisionRequest) :
    recordDecision env (s.withTokens m) req =
      (recordDecision env s req).map fun r => (r.1, r.2.withTokens m) := by
  unfold recordDecision
  cases req.validate with
  | error e => rfl
  | ok u =>
    cases hid : s.decisionByTx.lookup (txKey req.govTxId req.authority) with
    | none => simp only [withTokens, hid, Option.map_some]
    | some id =>
      cases hd : s.decisions.lookup id with
      | none => simp only [withTokens, hid, hd, Option.map_none]
      | some d =>
        simp only [withTokens, hid, hd]
        split <;> rfl

lemma recordDecision_capabilities {req : DecisionRequest} {r : Except CapabilityError Str}
    (h : recordDecision env s req = some (r, s')) : s'.capabilities = s.capabilities := by
  rcases recordDecision_cases h with ⟨e, -, rfl⟩ | ⟨id, d, -, rfl, -⟩ | ⟨-, -, -, rfl⟩ <;> rfl

/-- A call does the same with fewer tokens, which stay fewer. -/
def Follows (P : Platform) (s : CapabilityStore) (m : HashMap Str CapabilityToken) (c : Call)
    (cs : List Call) : Prop :=
  ∃ m', (step P (s.withTokens m) c).2 = (step P s c).2.withTokens m' ∧
    Pruned (step P s c).2 m' cs ∧ Agrees s c (step P s c).1 (step P (s.withTokens m) c).1

lemma follows_recordDecision (h : Pruned s m cs) (req : DecisionRequest) :
    Follows P s m (.recordDecision env req) cs := by
  simp only [Follows, step, recordDecision_withTokens]
  cases hr : recordDecision env s req with
  | none => exact ⟨m, rfl, h, .same _ _⟩
  | some r => exact ⟨m, rfl, h.congr (recordDecision_capabilities hr), .same _ _⟩

/-- A token is issued from a decision alone. -/
lemma follows_issueAfterAuthorization (h : Pruned s m cs) (decisionId : Str) :
    Follows P s m (.issueAfterAuthorization env decisionId) cs := by
  simp only [Follows, step, issueAfterAuthorization]
  cases hd : s.decisions.lookup decisionId with
  | none =>
    simp only [withTokens, hd]
    exact ⟨m, rfl, h, .same _ _⟩
  | some d =>
    cases hi : d.issued with
    | true =>
      simp only [withTokens, hd, hi, if_true]
      exact ⟨m, rfl, h, .same _ _⟩
    | false =>
      cases he : addSeconds env.now s.defaultTtlSecs with
      | none =>
        simp only [withTokens, hd, hi, he, Bool.false_eq_true, if_false]
        exact ⟨m, rfl, h, .same _ _⟩
      | some expiresAt =>
        simp only [withTokens, hd, hi, he, Bool.false_eq_true, if_false]
        exact ⟨_, rfl, h.insert rfl, .same _ _⟩

/-- A token that is there is treated alike; one that was pruned would have been refused. -/
lemma follows_consume {now : DateTime} {p : PresentedBinding}
    (h : Pruned s m (.consume now p :: cs)) : Follows P s m (.consume now p) cs := by
  rw [Follows]
  obtain heq | ⟨hnone, t, ht, hstale⟩ := h.tokens p.tokenId
  · cases ht : s.capabilities.lookup p.tokenId with
    | none =>
      have hm : m.lookup p.tokenId = none := heq.trans ht
      simp only [step, consume, withTokens, ht, hm]
      exact ⟨m, rfl, h.tail, .same _ _⟩
    | some t =>
      have hm : m.lookup p.tokenId = some t := heq.trans ht
      cases hr : refusal P now t p with
      | some o =>
        simp only [step, consume, withTokens, ht, hm, hr]
        exact ⟨m, rfl, h.tail, .same _ _⟩
      | none =>
        simp only [step, consume, withTokens, ht, hm, hr]
        exact ⟨_, rfl, h.tail.insert rfl, .same _ _⟩
  · have hexpired : ¬ now < t.expiresAt :=
      not_lt.mpr (hstale _ List.mem_cons_self now rfl)
    obtain ⟨o, ho⟩ : ∃ o, refusal P now t p = some o :=
      Option.ne_none_iff_exists'.mp fun hr => hexpired (refusal_eq_none.mp hr).2.2.1
    simp only [step, consume, withTokens, ht, hnone, ho]
    refine ⟨m, rfl, h.tail, .forgotten now p o t ht hexpired ?_⟩
    rintro rfl
    exact refusal_ne_authorized ho

/-- **Pruning is transparent.** A run without its `prune_expired` calls answers every other call
as the run with them does, but that the refusal of an expired token may become `NotFound`. -/
theorem pruneExpired_transparent (s : CapabilityStore) (h : ClockOrdered cs) :
    List.Forall₂ (fun c c' => c.2 = c'.2 ∧
        Agrees c.1 c.2 ((system P).answer c) ((system P).answer c'))
      ((system P).calls Call.live s (cs.filter Call.live)) ((system P).calls Call.live s cs) := by
  refine System.calls_filter (B := fun s s' cs => ∃ m, s' = s.withTokens m ∧ Pruned s m cs)
    ?_ ?_ ⟨s.capabilities, rfl, .refl h⟩
  · rintro s s' c cs hlive ⟨m, rfl, hm⟩
    have hfollows : Follows P s m c cs := by
      cases c with
      | recordDecision env req => exact follows_recordDecision hm.tail req
      | issueAfterAuthorization env id => exact follows_issueAfterAuthorization hm.tail id
      | consume now p => exact follows_consume hm
      | pruneExpired now => simp [Call.live] at hlive
    obtain ⟨m', heq, hm', hagrees⟩ := hfollows
    exact ⟨hagrees, m', heq, hm'⟩
  · rintro s s' c cs hprune ⟨m, rfl, hm⟩
    cases c with
    | pruneExpired now => exact ⟨_, rfl, hm.pruneExpired⟩
    | _ => simp [Call.live] at hprune

/-- The token of `replayCalls`, presented twice when its time to live has just passed. -/
def expiryCalls : List Call :=
  replayCalls.take 2 ++ .pruneExpired (fun _ => 30 * nanosPerSec) :: replayCalls.filterMap fun
    | .consume _ p => some (.consume (30 * nanosPerSec) p)
    | _ => none

def consumeOutcomes (es : History) : List ConsumeOutcome :=
  es.filterMap fun
    | (_, .consumed o) => some o
    | _ => none

theorem pruneExpired_transparent_expiry :
    ClockOrdered expiryCalls ∧
    consumeOutcomes ((system silentPlatform).exec new (expiryCalls.filter Call.live)).1 =
      [.expired, .expired] ∧
    consumeOutcomes ((system silentPlatform).exec new expiryCalls).1 = [.notFound, .notFound] ∧
    List.Forall₂ (fun c c' => c.2 = c'.2 ∧
        Agrees c.1 c.2 ((system silentPlatform).answer c) ((system silentPlatform).answer c'))
      ((system silentPlatform).calls Call.live new (expiryCalls.filter Call.live))
      ((system silentPlatform).calls Call.live new expiryCalls) := by
  have hordered : ClockOrdered expiryCalls := by
    simp [ClockOrdered, expiryCalls, replayCalls, Call.Reads, fixedSupply, Supply.now, nanosPerSec]
  exact ⟨hordered, by decide +kernel, by decide +kernel, pruneExpired_transparent new hordered⟩

/-! ### The expiry of a new token -/

/-- The most seconds a duration can have. -/
def maxDurationSecs : ℤ := (2 ^ 63 - 1) / 1000

/-- The decision is turned into a token that is valid for a while. -/
def Completes (P : Platform) (env : Supply) (s : CapabilityStore) (decisionId : Str) : Prop :=
  ∃ token s', issueAfterAuthorization P env s decisionId = some (.issued token, s') ∧
    token.issuedAt < token.expiresAt

lemma withTtlSecs_eq_ok {ttl : ℤ} (h : s.withTtlSecs ttl = .ok s') :
    ∃ hpos : 0 < ttl, s' = { s with defaultTtlSecs := ttl, ttl_pos := hpos } := by
  unfold withTtlSecs at h
  split at h
  · simp at h
  · next hpos => exact ⟨not_le.mp hpos, by simpa using h.symm⟩

lemma lt_add_seconds {now : DateTime} {secs : ℤ} (hpos : 0 < secs) :
    now < now + secs * nanosPerSec :=
  lt_add_of_pos_right now (mul_pos hpos (by decide))

/-- The sum of an instant and a positive number of seconds. -/
lemma addSeconds_of_pos {now : DateTime} {secs : ℤ} (hpos : 0 < secs) (hnow : minUtc ≤ now) :
    addSeconds now secs = if secs ≤ maxDurationSecs ∧ now + secs * nanosPerSec ≤ maxUtc then
      some (now + secs * nanosPerSec) else none := by
  have hmin : minUtc ≤ now + secs * nanosPerSec := hnow.trans (lt_add_seconds hpos).le
  have hlow : ¬ secs < -((2 ^ 63 - 1) / 1000) := by omega
  rcases le_or_gt secs maxDurationSecs with hle | hgt
  · have hdur : ¬ (2 ^ 63 - 1) / 1000 < secs := not_lt.mpr hle
    simp only [addSeconds, hlow, hdur, hmin, hle, or_self, if_false, true_and]
  · have hdur : (2 ^ 63 - 1) / 1000 < secs := hgt
    simp only [addSeconds, hdur, or_true, if_true, not_le.mpr hgt, false_and, if_false]

/-- **The range of the expiry.** A token is issued from an unissued decision exactly when the time
to live is a duration and its end is a date. Otherwise the call panics. -/
theorem issueAfterAuthorization_completes_iff {ttl : ℤ} {decisionId : Str} {d : Decision}
    (hs : s.withTtlSecs ttl = .ok s') (hd : s'.decisions.lookup decisionId = some d)
    (hissued : d.issued = false) (hnow : minUtc ≤ env.now ∧ env.now ≤ maxUtc) :
    Completes P env s' decisionId ↔
      ttl ≤ maxDurationSecs ∧ env.now + ttl * nanosPerSec ≤ maxUtc := by
  obtain ⟨hpos, rfl⟩ := withTtlSecs_eq_ok hs
  simp only [Completes, issueAfterAuthorization, hd, hissued, addSeconds_of_pos hpos hnow.1,
    Bool.false_eq_true, if_false]
  split_ifs with hrange
  · exact ⟨fun _ => hrange, fun _ => ⟨_, _, rfl, lt_add_seconds hpos⟩⟩
  · constructor
    · rintro ⟨token, s'', hissue, -⟩
      cases hissue
    · exact fun h => absurd h hrange

/-- The decision of `replayCalls`, without a token, in a store with a time to live of `ttl`. -/
def decidedStore (ttl : ℤ) : Except CapabilityError CapabilityStore :=
  ((system silentPlatform).exec new (replayCalls.take 1)).2.withTtlSecs ttl

def decidedId : Str := decisionIdOf (fixedSupply 0 0).fresh

lemma exists_decidedStore (ttl : ℤ) (hpos : 0 < ttl) : ∃ s d, decidedStore ttl = .ok s ∧
    s.decisions.lookup decidedId = some d ∧ d.issued = false := by
  have hunissued : (((system silentPlatform).exec new (replayCalls.take 1)).2.decisions.lookup
      decidedId).map (·.issued) = some false := by decide +kernel
  obtain ⟨d, hd, hissued⟩ := Option.map_eq_some_iff.mp hunissued
  exact ⟨_, d, dif_neg (not_le.mpr hpos), hd, hissued⟩

theorem issueAfterAuthorization_completes_iff_hour :
    ∃ s d, decidedStore 3600 = .ok s ∧ s.decisions.lookup decidedId = some d ∧
      d.issued = false ∧ (minUtc ≤ (fixedSupply 0 1).now ∧ (fixedSupply 0 1).now ≤ maxUtc) ∧
      (Completes silentPlatform (fixedSupply 0 1) s decidedId ↔
        3600 ≤ maxDurationSecs ∧ (fixedSupply 0 1).now + 3600 * nanosPerSec ≤ maxUtc) := by
  obtain ⟨s, d, hs, hd, hissued⟩ := exists_decidedStore 3600 (by decide)
  have hnow : minUtc ≤ (fixedSupply 0 1).now ∧ (fixedSupply 0 1).now ≤ maxUtc := by decide
  exact ⟨s, d, hs, hd, hissued, hnow, issueAfterAuthorization_completes_iff hs hd hissued hnow⟩

/-- The longest time to live that is accepted panics. -/
theorem withTtlSecs_accepts_panic :
    ∃ s d, decidedStore (2 ^ 63 - 1) = .ok s ∧ s.decisions.lookup decidedId = some d ∧
      d.issued = false ∧ (minUtc ≤ (fixedSupply 0 1).now ∧ (fixedSupply 0 1).now ≤ maxUtc) ∧
      issueAfterAuthorization silentPlatform (fixedSupply 0 1) s decidedId = none ∧
      ¬ Completes silentPlatform (fixedSupply 0 1) s decidedId := by
  obtain ⟨s, d, hs, hd, hissued⟩ := exists_decidedStore (2 ^ 63 - 1) (by decide)
  obtain ⟨hpos, httl⟩ := withTtlSecs_eq_ok hs
  have hpanic : issueAfterAuthorization silentPlatform (fixedSupply 0 1) s decidedId = none := by
    have hoverflow : addSeconds (fixedSupply 0 1).now s.defaultTtlSecs = none := by
      have hgt : (2 ^ 63 - 1) / 1000 < (2 ^ 63 - 1 : ℤ) := by decide
      rw [httl]
      exact if_pos (.inr hgt)
    simp only [issueAfterAuthorization, hd, hissued, hoverflow, Bool.false_eq_true, if_false]
  refine ⟨s, d, hs, hd, hissued, by decide, hpanic, ?_⟩
  rintro ⟨token, s', hissue, -⟩
  simp [hpanic] at hissue

end GovSec.CapabilityStore
