import GovSec.HaapDecisions
import GovSec.Lib.Histories

/-!
Where the authority that the gate acts on comes from.

Tokens are kept by their id and pre-authorizations by their session. A revocation empties both for
its session, so everything that the gate finds for a session was put there after the last
revocation of that session.
-/

namespace GovSec

open GovSec.Lib.Text GovSec.Lib.Maps GovSec.Lib.Runs GovSec.Lib.Histories

def HaapVerdict.isAuthorized : HaapVerdict → Bool
  | authorized .. => true
  | _ => false

namespace HaapGate

variable {P : Platform} {env : Supply} {crypto : CryptoEngine} {g g' : HaapGate}
  {sessionId actionClass : Str} {agency : AgencyLevel} {drs : ℕ} {now : DateTime}
  {s : HaapGate × CryptoEngine} {es : History}

/-! ### Live authority -/

/-- The call revokes the session. -/
def Revokes (sessionId : Str) (e : Op × Answer) : Prop := e.1 = .revokeSession sessionId

/-- The call registers the token. -/
def Registers (token : IntentToken) (e : Op × Answer) : Prop :=
  ∃ now, e = (.registerToken now token, .registered (.ok ()))

/-- The call pre-authorizes an action class of the session until `expiry`. -/
def Preauthorizes (sessionId actionClass : Str) (expiry : DateTime) (e : Op × Answer) : Prop :=
  ∃ now durationSecs, e = (.preauthorize now sessionId actionClass durationSecs, .done) ∧
    addSeconds now (asI64 durationSecs) = some expiry

variable (P) in
/-- A token with this id was registered for the session after its last revocation. At the time
`now` it is not expired, it covers the agency level, and its signature is valid. -/
def LiveToken (es : History) (sessionId : Str) (agency : AgencyLevel) (tokenId : Str)
    (now : DateTime) : Prop :=
  ∃ token, Since (Revokes sessionId) (Registers token) es ∧ token.tokenId = tokenId ∧
    token.sessionId = sessionId ∧ token.isExpired now = false ∧
    agency.rank ≤ token.agencyCeiling.rank ∧
    CryptoEngine.verifies P token.canonical token.signature = true

/-- The action class was pre-authorized for the session after its last revocation, beyond the
time `now`. -/
def LivePreauthorization (es : History) (sessionId actionClass : Str) (now : DateTime) : Prop :=
  ∃ expiry, now < expiry ∧
    Since (Revokes sessionId) (Preauthorizes sessionId actionClass expiry) es

/-! ### The invariant -/

/-- A stored token is a registered one, with its uses counted. -/
def StoredAs (key : Str) (t token : IntentToken) : Prop :=
  token.tokenId = key ∧ t = { token with useCount := t.useCount }

/-- What the gate holds was put there after the last revocation of its session. -/
structure Granted (es : History) (g : HaapGate) : Prop where
  token : ∀ key t, g.tokens.lookup key = some t →
    ∃ token, StoredAs key t token ∧ Since (Revokes t.sessionId) (Registers token) es
  preauth : ∀ sessionId entries, g.preauth.lookup sessionId = some entries →
    ∀ entry ∈ entries, Since (Revokes sessionId) (Preauthorizes sessionId entry.1 entry.2) es

lemma granted_new : Granted [] HaapGate.new :=
  ⟨fun _ _ h => by simp [HaapGate.new] at h, fun _ _ h => by simp [HaapGate.new] at h⟩

/-- Every entry of `g'` is one of `g`. -/
def OnlyPrunes (g g' : HaapGate) : Prop :=
  ∀ sessionId entries', g'.preauth.lookup sessionId = some entries' →
    ∃ entries, g.preauth.lookup sessionId = some entries ∧ entries' ⊆ entries

lemma onlyPrunes_refl : OnlyPrunes g g := fun _ entries h => ⟨entries, h, fun _ => id⟩

lemma onlyPrunes_isPreauthorized :
    OnlyPrunes g (g.isPreauthorized now sessionId actionClass).2 := by
  unfold isPreauthorized
  split
  · next entries hentries =>
    intro sid entries' h
    rw [lookup_insert_eq_ite] at h
    split at h
    · next hsid =>
      obtain rfl := Option.some.inj h
      exact ⟨entries, hsid ▸ hentries, fun _ h => (List.mem_filter.mp h).1⟩
    · exact ⟨entries', h, fun _ => id⟩
  · exact onlyPrunes_refl

lemma verifyToken_preauth (tokenId payloadHash : Str) :
    (verifyToken P env crypto g sessionId agency tokenId payloadHash).2.1.preauth = g.preauth := by
  unfold verifyToken
  split
  · rfl
  · dsimp only
    split <;> rfl

variable (P env crypto g sessionId agency drs actionClass) in
lemma onlyPrunes_evaluate (token : Option Str) :
    OnlyPrunes g (evaluate P env crypto g sessionId agency drs actionClass token).2.1 := by
  simp only [evaluate]
  split
  · exact onlyPrunes_refl
  · split
    · exact onlyPrunes_refl
    · split
      · exact onlyPrunes_isPreauthorized
      · cases token with
        | none => exact onlyPrunes_isPreauthorized
        | some tokenId =>
          unfold OnlyPrunes
          rw [verifyToken_preauth]
          exact onlyPrunes_isPreauthorized

/-- A call that revokes nothing and takes nothing in. -/
lemma Granted.of_subset {e : Op × Answer} (h : Granted es g) (he : ∀ sid, ¬ Revokes sid e)
    (htokens : ∀ key t, g'.tokens.lookup key = some t → g.tokens.lookup key = some t)
    (hprunes : OnlyPrunes g g') : Granted (es ++ [e]) g' := by
  refine ⟨fun key t ht => ?_, fun sid entries' hentries' entry hentry => ?_⟩
  · obtain ⟨token, hstored, hsince⟩ := h.token key t (htokens key t ht)
    exact ⟨token, hstored, since_concat.mpr (.inr ⟨he _, hsince⟩)⟩
  · obtain ⟨entries, hentries, hsub⟩ := hprunes sid entries' hentries'
    exact since_concat.mpr (.inr ⟨he sid, h.preauth sid entries hentries entry (hsub hentry)⟩)

lemma Granted.evaluate {v : HaapVerdict} {token : Option Str} (h : Granted es g)
    (hv : Evaluated g v g') (hprunes : OnlyPrunes g g') :
    Granted (es ++ [(.evaluate env sessionId agency drs actionClass token, .verdict v)]) g' := by
  have hnot (sid : Str) : ¬ Revokes sid
      (.evaluate env sessionId agency drs actionClass token, .verdict v) := nofun
  rcases hv with ⟨heq, -⟩ | ⟨key', t', _, _, _, ht', -, -, heq⟩
  · exact h.of_subset hnot (fun _ _ ht => heq ▸ ht) hprunes
  · have hsame : Granted (es ++ [(.evaluate env sessionId agency drs actionClass token,
        .verdict v)]) { g' with tokens := g.tokens } :=
      h.of_subset hnot (fun _ _ => id) hprunes
    refine ⟨fun key t ht => ?_, hsame.preauth⟩
    rw [heq, lookup_insert_eq_ite] at ht
    split at ht
    · next hkey =>
      -- the token that was used
      obtain rfl := Option.some.inj ht
      obtain ⟨token, ⟨hid, hcount⟩, hsince⟩ := hsame.token key' t' ht'
      refine ⟨token, ⟨hid.trans hkey.symm, ?_⟩, hsince⟩
      rw [hcount]
    · exact hsame.token key t ht

lemma Granted.registerToken {token : IntentToken} (h : Granted es g) :
    Granted (es ++ [(.registerToken now token, .registered (g.registerToken now token).1)])
      (g.registerToken now token).2 := by
  have hnot (sid : Str) (r : Except Str Unit) :
      ¬ Revokes sid (.registerToken now token, .registered r) := nofun
  have hsame (r : Except Str Unit) :
      Granted (es ++ [(.registerToken now token, .registered r)]) g :=
    h.of_subset (fun sid => hnot sid r) (fun _ _ => id) onlyPrunes_refl
  unfold HaapGate.registerToken
  split
  · exact hsame _
  · split
    · exact hsame _
    · refine ⟨fun key t ht => ?_, (hsame _).preauth⟩
      rw [lookup_insert_eq_ite] at ht
      split at ht
      · next hkey =>
        obtain rfl := Option.some.inj ht
        exact ⟨token, ⟨hkey.symm, rfl⟩, since_concat.mpr (.inl ⟨now, rfl⟩)⟩
      · exact (hsame _).token key t ht

lemma Granted.preauthorize {durationSecs : ℕ} (h : Granted es s.1) :
    Granted
      (es ++ [(.preauthorize now sessionId actionClass durationSecs,
        (preauthorized s (s.1.preauthorize now sessionId actionClass durationSecs)).1)])
      (preauthorized s (s.1.preauthorize now sessionId actionClass durationSecs)).2.1 := by
  have hnot (sid : Str) (a : Answer) :
      ¬ Revokes sid (.preauthorize now sessionId actionClass durationSecs, a) := nofun
  have hsame (a : Answer) :
      Granted (es ++ [(.preauthorize now sessionId actionClass durationSecs, a)]) s.1 :=
    h.of_subset (fun sid => hnot sid a) (fun _ _ => id) onlyPrunes_refl
  cases hg : s.1.preauthorize now sessionId actionClass durationSecs with
  | none => exact hsame _
  | some g' =>
    obtain ⟨expiry, hexpiry, rfl⟩ := Option.map_eq_some_iff.mp hg
    refine ⟨(hsame _).token, fun sid entries he entry hentry => ?_⟩
    change (s.1.preauth.insert _ _).lookup sid = some entries at he
    rw [lookup_insert_eq_ite] at he
    split at he
    · next hsid =>
      obtain rfl := Option.some.inj he
      rcases List.mem_append.mp hentry with hold | hnew
      · cases hlookup : s.1.preauth.lookup sessionId with
        | none => simp [hlookup] at hold
        | some old =>
          rw [hlookup] at hold
          exact (hsame _).preauth sid old (hsid ▸ hlookup) entry hold
      · obtain rfl := List.mem_singleton.mp hnew
        exact since_concat.mpr (.inl ⟨now, durationSecs, hsid ▸ rfl, hexpiry⟩)
    · exact (hsame _).preauth sid entries he entry hentry

lemma Granted.revokeSession (h : Granted es g) :
    Granted (es ++ [(.revokeSession sessionId, .done)]) (g.revokeSession sessionId) := by
  have hnot {sid : Str} (hne : sid ≠ sessionId) :
      ¬ Revokes sid (.revokeSession sessionId, .done) := by
    intro hr
    exact hne (Op.revokeSession.inj hr).symm
  refine ⟨fun key t ht => ?_, fun sid entries he entry hentry => ?_⟩
  · obtain ⟨hlookup, hne⟩ := lookup_retain_eq_some.mp ht
    obtain ⟨token, hstored, hsince⟩ := h.token key t hlookup
    exact ⟨token, hstored, since_concat.mpr (.inr ⟨hnot (of_decide_eq_true hne), hsince⟩)⟩
  · change (g.preauth.erase sessionId).lookup sid = some entries at he
    rw [lookup_erase_eq_ite] at he
    split at he
    · cases he
    · next hne => exact since_concat.mpr (.inr ⟨hnot hne, h.preauth sid entries he entry hentry⟩)

/-- **Every call keeps what the gate holds granted.** -/
theorem Granted.step (h : Granted es s.1) (op : Op) :
    Granted (es ++ [(op, (HaapGate.step P s op).1)]) (HaapGate.step P s op).2.1 := by
  cases op with
  | registerToken now token => exact h.registerToken
  | evaluate env sessionId agency drs actionClass token =>
    exact h.evaluate (evaluate_evaluated P env s.2 s.1 sessionId actionClass agency drs token)
      (onlyPrunes_evaluate P env s.2 s.1 sessionId actionClass agency drs token)
  | preauthorize now sessionId actionClass durationSecs =>
    have hstep : HaapGate.step P s (.preauthorize now sessionId actionClass durationSecs) =
        HaapGate.preauthorized s (s.1.preauthorize now sessionId actionClass durationSecs) := rfl
    rw [hstep]
    exact h.preauthorize
  | revokeSession sessionId => exact h.revokeSession

lemma granted_of_run (h : (system P).Run (HaapGate.new, crypto) es s) : Granted es s.1 :=
  h.invariant (I := fun es s => Granted es s.1) granted_new fun _ _ op hI => hI.step op

/-! ### What a gated evaluation relies on -/

lemma liveToken_of_accepted {tokenId : Str} {t : IntentToken} (h : Granted es g)
    (ht : accepted P now g sessionId agency tokenId = some t) :
    LiveToken P es sessionId agency tokenId now := by
  obtain ⟨hlookup, hrefusal⟩ := accepted_eq_some.mp ht
  obtain ⟨token, ⟨hid, hcount⟩, hsince⟩ := h.token tokenId t hlookup
  unfold tokenRefusal at hrefusal
  split_ifs at hrefusal with hsession hexpired hexhausted hceiling hsignature
  rw [hcount] at hsession hexpired hceiling hsignature hsince
  refine ⟨token, ?_, hid, of_not_not hsession, Bool.eq_false_of_not_eq_true hexpired,
    not_lt.mp hceiling, ?_⟩
  · rwa [of_not_not hsession] at hsince
  · exact Bool.of_not_eq_false fun hfalse => hsignature (congrArg not hfalse)

lemma livePreauthorization_of_isPreauthorized (h : Granted es g)
    (hpre : (g.isPreauthorized now sessionId actionClass).1 = true) :
    LivePreauthorization es sessionId actionClass now := by
  unfold isPreauthorized at hpre
  split at hpre
  · next entries hentries =>
    obtain ⟨entry, hentry, hclass⟩ := List.any_eq_true.mp hpre
    obtain ⟨hmem, hlive⟩ := List.mem_filter.mp hentry
    refine ⟨entry.2, of_decide_eq_true hlive, ?_⟩
    rw [← of_decide_eq_true hclass]
    exact h.preauth sessionId entries hentries entry hmem
  · cases hpre

/-- A gated action that goes through without a token is pre-authorized. -/
lemma isPreauthorized_of_isAuthorized {token : Option Str} (hgated : belowGate agency drs = false)
    (hv : (evaluate P env crypto g sessionId agency drs actionClass token).1.isAuthorized = true) :
    (g.isPreauthorized (env.part 1).now sessionId actionClass).1 = true := by
  obtain ⟨hverified, hblocked⟩ :=
    evaluate_kind P env crypto g sessionId actionClass agency drs token
  generalize (evaluate P env crypto g sessionId agency drs actionClass token).1 = v at *
  cases v with
  | authorized _ _ =>
    obtain ⟨hlt, hneeds⟩ := hblocked.mp rfl
    by_contra hpre
    have hneed : NeedsToken (env.part 1).now g sessionId agency drs actionClass :=
      ⟨hlt, hgated, Bool.eq_false_of_not_eq_true hpre⟩
    exact Bool.false_ne_true (hverified.mpr ⟨hneed, hneeds hneed⟩)
  | _ => cases hv

/-- A token and a pre-authorization that were both revoked, and the token registered again. -/
def reregisteredOps : List Op :=
  [.registerToken 0 oneUseToken, .preauthorize 0 "s" "deploy" 60, .revokeSession "s",
    .registerToken 0 oneUseToken]

/-- The gate and the chain after these calls. -/
def reregistered : HaapGate × CryptoEngine :=
  ((system silentPlatform).exec (.new, ⟨[]⟩) reregisteredOps).2

end HaapGate

end GovSec
