import GovSec.Haap
import GovSec.Lib.Runs

/-!
Runs of the gate, and how often a token is used.

The registry counts the uses of a token beside the token's own limit, and a registration
replaces both. The signature covers neither, so a token that is registered again is as good as
new. The limit holds as long as no registration grants more than what is left of it.
-/

namespace GovSec.HaapGate

open GovSec.Lib.Text GovSec.Lib.Maps GovSec.Lib.Runs

/-- A call with its arguments, its clock readings and its fresh identifiers. -/
inductive Op
  | registerToken (now : DateTime) (token : IntentToken)
  | evaluate (env : Supply) (sessionId : Str) (agency : AgencyLevel) (drs : ℕ) (actionClass : Str)
      (token : Option Str)
  | preauthorize (now : DateTime) (sessionId actionClass : Str) (durationSecs : ℕ)
  | revokeSession (sessionId : Str)

inductive Answer
  | registered (r : Except Str Unit)
  | verdict (v : HaapVerdict)
  | done
  | panicked

/-- The gate after a preauthorization, which may panic. -/
def preauthorized (s : HaapGate × CryptoEngine) : Option HaapGate → Answer × HaapGate × CryptoEngine
  | some g => (.done, g, s.2)
  | none => (.panicked, s)

variable (P : Platform)

/-- One call on a gate and the chain it extends. -/
def step (s : HaapGate × CryptoEngine) : Op → Answer × HaapGate × CryptoEngine
  | .registerToken now token =>
    let (answer, g) := s.1.registerToken now token
    (.registered answer, g, s.2)
  | .evaluate env sessionId agency drs actionClass token =>
    (evaluate P env s.2 s.1 sessionId agency drs actionClass token).map .verdict id
  | .preauthorize now sessionId actionClass durationSecs =>
    preauthorized s (s.1.preauthorize now sessionId actionClass durationSecs)
  | .revokeSession sessionId => (.done, s.1.revokeSession sessionId, s.2)

def system : System (HaapGate × CryptoEngine) Op Answer := ⟨step P⟩

abbrev History := List (Op × Answer)

/-- The verdict `TokenVerified` for the token. -/
def Answer.verifies (tokenId : Str) : Answer → Bool
  | .verdict (.tokenVerified tokenId' _ _ _) => tokenId' = tokenId
  | _ => false

def verifiedCount (tokenId : Str) (es : History) : ℕ := es.countP fun e => e.2.verifies tokenId

/-- The token has at most `n` uses left. -/
def UsesLeft (token : IntentToken) (n : ℕ) : Prop :=
  ∃ max, token.maxUses = some max ∧ max - token.useCount ≤ n

/-- No registration under the id grants more than what is left of `n` uses: the uses that the
registered token has left and those verified before it are at most `n` together. -/
def WithinLimit (tokenId : Str) (n : ℕ) (es : History) : Prop :=
  ∀ pre now token post, es = pre ++ (.registerToken now token, .registered (.ok ())) :: post →
    token.tokenId = tokenId →
      verifiedCount tokenId pre ≤ n ∧ UsesLeft token (n - verifiedCount tokenId pre)

/-! ### What an evaluation does to the registry -/

section Evaluate

variable {P} {env : Supply} {crypto : CryptoEngine} {g : HaapGate} {sessionId actionClass : Str}
  {agency : AgencyLevel} {drs : ℕ} {now : DateTime}

lemma isPreauthorized_tokens :
    (g.isPreauthorized now sessionId actionClass).2.tokens = g.tokens := by
  unfold isPreauthorized
  split <;> rfl

lemma preauthorize_tokens {g' : HaapGate} {durationSecs : ℕ}
    (h : g.preauthorize now sessionId actionClass durationSecs = some g') :
    g'.tokens = g.tokens := by
  obtain ⟨_, -, rfl⟩ := Option.map_eq_some_iff.mp h
  rfl

lemma not_exhausted_of_tokenRefusal {tokenId : Str} {t : IntentToken}
    (h : tokenRefusal P now sessionId agency tokenId t = none) : t.isExhausted = false := by
  unfold tokenRefusal at h
  split at h
  · cases h
  · split at h
    · cases h
    · split at h
      · cases h
      · next hex => simpa using hex

/-- A token is used, or the registry stays and no token is verified. -/
def Evaluated (g : HaapGate) (v : HaapVerdict) (g' : HaapGate) : Prop :=
  (g'.tokens = g.tokens ∧ ∀ tokenId, (Answer.verdict v).verifies tokenId = false) ∨
    ∃ tokenId t usesRemaining signal agency, g.tokens.lookup tokenId = some t ∧
      t.isExhausted = false ∧ v = .tokenVerified t.tokenId agency usesRemaining signal ∧
      g'.tokens = g.tokens.insert tokenId { t with useCount := t.useCount + 1 }

variable (P env crypto g sessionId agency) in
lemma verifyToken_evaluated (tokenId payloadHash : Str) :
    Evaluated g (verifyToken P env crypto g sessionId agency tokenId payloadHash).1
      (verifyToken P env crypto g sessionId agency tokenId payloadHash).2.1 := by
  unfold verifyToken
  cases ht : g.tokens.lookup tokenId with
  | none => exact .inl ⟨rfl, fun _ => rfl⟩
  | some t =>
    dsimp only
    cases hr : tokenRefusal P (env.part 0).now sessionId agency tokenId t with
    | some r => exact .inl ⟨rfl, fun _ => rfl⟩
    | none =>
      exact .inr ⟨tokenId, t, _, _, agency, ht, not_exhausted_of_tokenRefusal hr, rfl, rfl⟩

variable (P env crypto g sessionId agency drs actionClass) in
/-- **One evaluation.** -/
theorem evaluate_evaluated (token : Option Str) :
    Evaluated g (evaluate P env crypto g sessionId agency drs actionClass token).1
      (evaluate P env crypto g sessionId agency drs actionClass token).2.1 := by
  simp only [evaluate]
  split
  · exact .inl ⟨rfl, fun _ => rfl⟩
  · split
    · exact .inl ⟨rfl, fun _ => rfl⟩
    · have htokens : (g.isPreauthorized (env.part 1).now sessionId actionClass).2.tokens =
          g.tokens := isPreauthorized_tokens
      split
      · exact .inl ⟨htokens, fun _ => rfl⟩
      · cases token with
        | none => exact .inl ⟨htokens, fun _ => rfl⟩
        | some tokenId =>
          have h := verifyToken_evaluated P (env.part 2) crypto
            (g.isPreauthorized (env.part 1).now sessionId actionClass).2 sessionId agency tokenId
            (computeHash P
              (joinWith '|' ["haap", sessionId, agency.text, natText drs, actionClass]))
          unfold Evaluated at h ⊢
          rwa [htokens] at h

end Evaluate

/-! ### The limit -/

variable {P} {tokenId : Str} {n : ℕ} {es : History} {s : HaapGate × CryptoEngine}

/-- The uses verified so far are within the limit, and so are those that the registered token
still has. -/
structure Limited (tokenId : Str) (n : ℕ) (es : History) (g : HaapGate) : Prop where
  count : verifiedCount tokenId es ≤ n
  keyed : ∀ key t, g.tokens.lookup key = some t → t.tokenId = key
  left : ∀ t, g.tokens.lookup tokenId = some t → UsesLeft t (n - verifiedCount tokenId es)

lemma verifiedCount_concat {e : Op × Answer} :
    verifiedCount tokenId (es ++ [e]) =
      verifiedCount tokenId es + if e.2.verifies tokenId then 1 else 0 := by
  simp [verifiedCount, List.countP_append, List.countP_singleton]

/-- A call that verifies nothing and only takes tokens away. -/
lemma Limited.of_subset {g g' : HaapGate} {e : Op × Answer} (h : Limited tokenId n es g)
    (he : e.2.verifies tokenId = false)
    (hsub : ∀ key t, g'.tokens.lookup key = some t → g.tokens.lookup key = some t) :
    Limited tokenId n (es ++ [e]) g' := by
  have hcount : verifiedCount tokenId (es ++ [e]) = verifiedCount tokenId es := by
    rw [verifiedCount_concat, he]
    rfl
  refine ⟨hcount ▸ h.count, fun key t ht => h.keyed key t (hsub key t ht), fun t ht => ?_⟩
  rw [hcount]
  exact h.left t (hsub tokenId t ht)

lemma Limited.registerToken {g : HaapGate} {now : DateTime} {token : IntentToken}
    (h : Limited tokenId n es g)
    (hes : WithinLimit tokenId n
      (es ++ [(.registerToken now token, .registered (g.registerToken now token).1)])) :
    Limited tokenId n
      (es ++ [(.registerToken now token, .registered (g.registerToken now token).1)])
      (g.registerToken now token).2 := by
  unfold HaapGate.registerToken at hes ⊢
  split
  · exact h.of_subset rfl fun _ _ => id
  · next hexpired =>
    rw [if_neg hexpired] at hes
    split
    · exact h.of_subset rfl fun _ _ => id
    · next hsig =>
      rw [if_neg hsig] at hes
      have hcount : ∀ e : Except Str Unit,
          verifiedCount tokenId (es ++ [(.registerToken now token, .registered e)]) =
            verifiedCount tokenId es := by
        intro e
        rw [verifiedCount_concat]
        rfl
      refine ⟨(hcount _).le.trans h.count, fun key t ht => ?_, fun t ht => ?_⟩
      · rw [lookup_insert_eq_ite] at ht
        split at ht
        · next hkey => rw [← Option.some.inj ht, hkey]
        · exact h.keyed key t ht
      · rw [hcount]
        rw [lookup_insert_eq_ite] at ht
        split at ht
        · next hkey =>
          obtain rfl := Option.some.inj ht
          exact (hes es now token [] rfl hkey.symm).2
        · exact h.left t ht

/-- A use takes one of the uses that are left. -/
lemma Limited.evaluate {g g' : HaapGate} {op : Op} {v : HaapVerdict} (h : Limited tokenId n es g)
    (hv : Evaluated g v g') : Limited tokenId n (es ++ [(op, .verdict v)]) g' := by
  rcases hv with ⟨heq, hno⟩ | ⟨key, t, usesRemaining, signal, agency, ht, hex, rfl, heq⟩
  · exact h.of_subset (hno tokenId) fun _ _ ht => heq ▸ ht
  · have hkey := h.keyed key t ht
    have hkeyed : ∀ key' t', g'.tokens.lookup key' = some t' → t'.tokenId = key' := by
      intro key' t' ht'
      rw [heq, lookup_insert_eq_ite] at ht'
      split at ht'
      · next hk => rw [← Option.some.inj ht', hk, ← hkey]
      · exact h.keyed key' t' ht'
    by_cases hid : key = tokenId
    · subst hid
      obtain ⟨max, hmax, hleft⟩ := h.left t ht
      have hlt : t.useCount < max := by simpa [IntentToken.isExhausted, hmax] using hex
      have hcount := h.count
      have hone : verifiedCount key (es ++ [(op, .verdict (.tokenVerified t.tokenId agency
          usesRemaining signal))]) = verifiedCount key es + 1 := by
        rw [verifiedCount_concat]
        simp [Answer.verifies, hkey]
      refine ⟨by omega, hkeyed, fun t' ht' => ?_⟩
      rw [heq, Finmap.lookup_insert] at ht'
      obtain rfl := Option.some.inj ht'
      exact ⟨max, hmax, by simp only; omega⟩
    · have hzero : verifiedCount tokenId (es ++ [(op, .verdict (.tokenVerified t.tokenId agency
          usesRemaining signal))]) = verifiedCount tokenId es := by
        rw [verifiedCount_concat]
        simp [Answer.verifies, hkey, hid]
      refine ⟨hzero ▸ h.count, hkeyed, fun t' ht' => ?_⟩
      rw [heq, Finmap.lookup_insert_of_ne _ (Ne.symm hid)] at ht'
      rw [hzero]
      exact h.left t' ht'

lemma Limited.preauthorized {op : Op} {g? : Option HaapGate} (h : Limited tokenId n es s.1)
    (hg : ∀ g, g? = some g → g.tokens = s.1.tokens) :
    Limited tokenId n (es ++ [(op, (HaapGate.preauthorized s g?).1)])
      (HaapGate.preauthorized s g?).2.1 := by
  cases g? with
  | some g => exact h.of_subset rfl fun _ _ ht => hg g rfl ▸ ht
  | none => exact h.of_subset rfl fun _ _ => id

/-- **Every call keeps the limit.** -/
theorem Limited.step (h : Limited tokenId n es s.1) (op : Op)
    (hes : WithinLimit tokenId n (es ++ [(op, (step P s op).1)])) :
    Limited tokenId n (es ++ [(op, (HaapGate.step P s op).1)]) (HaapGate.step P s op).2.1 := by
  cases op with
  | registerToken now token => exact h.registerToken hes
  | evaluate env sessionId agency drs actionClass token =>
    exact h.evaluate (evaluate_evaluated P env s.2 s.1 sessionId actionClass agency drs token)
  | preauthorize now sessionId actionClass durationSecs =>
    have hstep : HaapGate.step P s (.preauthorize now sessionId actionClass durationSecs) =
        HaapGate.preauthorized s (s.1.preauthorize now sessionId actionClass durationSecs) := rfl
    rw [hstep]
    exact h.preauthorized fun g hp => preauthorize_tokens hp
  | revokeSession sessionId =>
    exact h.of_subset rfl fun key t ht => (lookup_retain_eq_some.mp ht).1

lemma WithinLimit.of_concat {e : Op × Answer} (h : WithinLimit tokenId n (es ++ [e])) :
    WithinLimit tokenId n es := by
  rintro pre now token post rfl
  exact h pre now token (post ++ [e]) (by simp)

/-- A token for one use in session `s`, built at time 0. -/
def oneUseToken : IntentToken where
  tokenId := "IT-" ++ List.replicate 32 '0'
  issuedBy := "op"
  sessionId := "s"
  agencyCeiling := .executeActions
  permittedActions := []
  forbiddenActions := []
  expiresAt := 14400 * nanosPerSec
  maxUses := some 1
  signature := List.replicate 128 '0'
  useCount := 0

lemma build_oneUseToken :
    ((IntentTokenBuilder.new "op" "s").withMaxUses 1).build silentPlatform (fixedSupply 0 0) =
      some oneUseToken := by
  have hexpiry : addSeconds 0 (asI64 14400) = some (14400 * nanosPerSec) := by decide +kernel
  exact Option.map_eq_some_iff.mpr ⟨14400 * nanosPerSec, hexpiry, rfl⟩

/-- The token is presented for an action above the gate. -/
def useToken : Op :=
  .evaluate (fixedSupply 0 0) "s" .executeActions 60 "deploy" (some oneUseToken.tokenId)

end GovSec.HaapGate
