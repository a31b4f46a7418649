import GovSec.HaapRuns

/-!
What the gate consults before it lets an action through.

A token is checked for its session, its expiry, its uses, its ceiling and its signature. Its
lists of permitted and forbidden actions are not read, and nothing asks for a second token at
the level of the root authority.
-/

namespace GovSec

open GovSec.Lib.Text GovSec.Lib.Maps GovSec.Lib.Runs

/-- The action is in the scope of the token. -/
def IntentToken.InScope (t : IntentToken) (actionClass : Str) : Prop :=
  actionClass ∈ t.permittedActions ∧ actionClass ∉ t.forbiddenActions

instance (t : IntentToken) (actionClass : Str) : Decidable (t.InScope actionClass) :=
  inferInstanceAs (Decidable (_ ∧ _))

def HaapVerdict.isTokenVerified : HaapVerdict → Bool
  | tokenVerified .. => true
  | _ => false

namespace HaapGate

variable (P : Platform) {env : Supply} {crypto : CryptoEngine} {g : HaapGate}
  {sessionId actionClass : Str} {agency : AgencyLevel} {drs : ℕ} {token : Option Str}
  {s : HaapGate × CryptoEngine} {os : List Op}

/-! ### The way to the token -/

/-- The call neither is blocked nor passes without a token. -/
def NeedsToken (now : DateTime) (g : HaapGate) (sessionId : Str) (agency : AgencyLevel) (drs : ℕ)
    (actionClass : Str) : Prop :=
  drs < g.constitutionalBlockThreshold ∧ belowGate agency drs = false ∧
    (g.isPreauthorized now sessionId actionClass).1 = false

/-- The token registered under the id, when it passes every check. -/
def accepted (now : DateTime) (g : HaapGate) (sessionId : Str) (agency : AgencyLevel)
    (tokenId : Str) : Option IntentToken :=
  (g.tokens.lookup tokenId).filter fun t => tokenRefusal P now sessionId agency tokenId t = none

/-- The clock reading of the token check. -/
def checkedAt (env : Supply) : DateTime := ((env.part 2).part 0).now

variable {P}

lemma accepted_eq_some {now : DateTime} {tokenId : Str} {t : IntentToken} :
    accepted P now g sessionId agency tokenId = some t ↔
      g.tokens.lookup tokenId = some t ∧
        tokenRefusal P now sessionId agency tokenId t = none := by
  simp [accepted, Option.filter_eq_some_iff]

variable (P env crypto g sessionId agency) in
/-- A presented token is verified when it passes every check, and blocks otherwise. -/
lemma verifyToken_kind (tokenId payloadHash : Str) :
    (verifyToken P env crypto g sessionId agency tokenId payloadHash).1.isTokenVerified =
        (accepted P (env.part 0).now g sessionId agency tokenId).isSome ∧
      (verifyToken P env crypto g sessionId agency tokenId payloadHash).1.isBlocked =
        !(accepted P (env.part 0).now g sessionId agency tokenId).isSome := by
  unfold verifyToken accepted
  cases ht : g.tokens.lookup tokenId with
  | none => exact ⟨rfl, rfl⟩
  | some t =>
    cases hr : tokenRefusal P (env.part 0).now sessionId agency tokenId t with
    | some r => simp [hr, Option.filter, HaapVerdict.isTokenVerified, HaapVerdict.isBlocked]
    | none => simp [hr, Option.filter, HaapVerdict.isTokenVerified, HaapVerdict.isBlocked]

/-- The pruning of pre-authorizations leaves the tokens as they are. -/
lemma accepted_isPreauthorized {now now' : DateTime} {tokenId : Str} :
    accepted P now (g.isPreauthorized now' sessionId actionClass).2 sessionId agency tokenId =
      accepted P now g sessionId agency tokenId := by
  rw [accepted, isPreauthorized_tokens]
  rfl

variable (P env crypto g sessionId agency drs actionClass) in
/-- **The decision of the gate.** A token is verified when the call needs one and presents one
that passes the checks. An action goes through when none is needed or the presented one does. -/
theorem evaluate_kind (token : Option Str) :
    ((evaluate P env crypto g sessionId agency drs actionClass token).1.isTokenVerified = true ↔
      NeedsToken (env.part 1).now g sessionId agency drs actionClass ∧
        ∃ t, token.bind (accepted P (checkedAt env) g sessionId agency) = some t) ∧
    ((evaluate P env crypto g sessionId agency drs actionClass token).1.isBlocked = false ↔
      drs < g.constitutionalBlockThreshold ∧
        (NeedsToken (env.part 1).now g sessionId agency drs actionClass →
          ∃ t, token.bind (accepted P (checkedAt env) g sessionId agency) = some t)) := by
  unfold evaluate NeedsToken
  by_cases hblock : g.constitutionalBlockThreshold ≤ drs
  · simp [hblock, HaapVerdict.isTokenVerified, HaapVerdict.isBlocked]
  have hlt : drs < g.constitutionalBlockThreshold := not_le.mp hblock
  cases hgate : belowGate agency drs with
  | true => simp [hblock, hlt, HaapVerdict.isTokenVerified, HaapVerdict.isBlocked]
  | false =>
    cases hpre : (g.isPreauthorized (env.part 1).now sessionId actionClass).1 with
    | true => simp [hblock, hlt, hpre, HaapVerdict.isTokenVerified, HaapVerdict.isBlocked]
    | false =>
      cases token with
      | none => simp [hblock, hpre, HaapVerdict.isTokenVerified, HaapVerdict.isBlocked]
      | some tokenId =>
        obtain ⟨hverified, hblocked⟩ := verifyToken_kind P (env.part 2) crypto
          (g.isPreauthorized (env.part 1).now sessionId actionClass).2 sessionId agency tokenId
          (computeHash P
            (joinWith '|' ["haap", sessionId, agency.text, natText drs, actionClass]))
        simp only [if_neg hblock, hpre, Bool.false_eq_true, if_false, hverified, hblocked,
          accepted_isPreauthorized]
        simp [hlt, Option.isSome_iff_exists, checkedAt]

/-! ### The scope of a token -/

variable (P) in
/-- A token is verified only for an action in the scope of the registered one. -/
def ScopeKept (s : HaapGate × CryptoEngine) : Op → Prop
  | .evaluate env sessionId agency drs actionClass (some tokenId) =>
    (evaluate P env s.2 s.1 sessionId agency drs actionClass (some tokenId)).1.isTokenVerified =
        true →
      ∃ t, s.1.tokens.lookup tokenId = some t ∧ t.InScope actionClass
  | _ => True

variable (P) in
/-- A token that a call needs and that passes the checks has the action in its scope. -/
def PresentsScoped (s : HaapGate × CryptoEngine) : Op → Prop
  | .evaluate env sessionId agency drs actionClass (some tokenId) =>
    NeedsToken (env.part 1).now s.1 sessionId agency drs actionClass →
      ∀ t, accepted P (checkedAt env) s.1 sessionId agency tokenId = some t → t.InScope actionClass
  | _ => True

lemma scopeKept_iff (op : Op) : ScopeKept P s op ↔ PresentsScoped P s op := by
  cases op with
  | evaluate env sessionId agency drs actionClass token =>
    cases token with
    | none => exact Iff.rfl
    | some tokenId =>
      simp only [ScopeKept, PresentsScoped,
        (evaluate_kind P env s.2 s.1 sessionId actionClass agency drs (some tokenId)).1]
      constructor
      · intro h hneeds t ht
        obtain ⟨t', ht', hscope⟩ := h ⟨hneeds, t, ht⟩
        rw [(accepted_eq_some.mp ht).1] at ht'
        exact Option.some.inj ht' ▸ hscope
      · rintro h ⟨hneeds, t, ht⟩
        exact ⟨t, (accepted_eq_some.mp ht).1, h hneeds t ht⟩
  | _ => exact Iff.rfl

/-- **When the scope of tokens is kept.** Every verified token of a run has its action in scope
exactly when the calls of the run present no token outside its scope that passes the other
checks. -/
theorem scopeKept_run_iff :
    (system P).Always (ScopeKept P) s os ↔ (system P).Always (PresentsScoped P) s os :=
  System.always_congr fun _ => scopeKept_iff

/-- A token of the operator for session `s` that permits `read` and forbids `deploy`. -/
def readOnlyToken : IntentToken :=
  { oneUseToken with
    permittedActions := ["read"]
    forbiddenActions := ["deploy"] }

/-- **A token is verified for what it forbids.** -/
theorem readOnlyToken_verified :
    ((((IntentTokenBuilder.new "op" "s").permit "read").forbid "deploy").withMaxUses 1).build
        silentPlatform (fixedSupply 0 0) = some readOnlyToken ∧
      ¬ (system silentPlatform).Always (ScopeKept silentPlatform) (.new, ⟨[]⟩)
        [.registerToken 0 readOnlyToken, useToken] := by
  constructor
  · have hexpiry : addSeconds 0 (asI64 14400) = some (14400 * nanosPerSec) := by decide +kernel
    exact Option.map_eq_some_iff.mpr ⟨14400 * nanosPerSec, hexpiry, rfl⟩
  · rintro ⟨-, h, -⟩
    obtain ⟨t, ht, hscope⟩ := h (by decide +kernel)
    have hlookup : ((HaapGate.new.registerToken 0 readOnlyToken).2.tokens).lookup
        oneUseToken.tokenId = some readOnlyToken := Finmap.lookup_insert ..
    obtain rfl : readOnlyToken = t := Option.some.inj (hlookup.symm.trans ht)
    exact absurd hscope (by decide)

/-! ### The second sign-off -/

variable (P) in
/-- Two tokens with different ids, both registered and both passing the checks. -/
def DualSignoff (now : DateTime) (g : HaapGate) (sessionId : Str) (agency : AgencyLevel) : Prop :=
  ∃ t₁ t₂, t₁.tokenId ≠ t₂.tokenId ∧
    accepted P now g sessionId agency t₁.tokenId = some t₁ ∧
    accepted P now g sessionId agency t₂.tokenId = some t₂

variable (P) in
/-- A call at a level that requires a dual sign-off goes through only with two tokens. -/
def SignoffKept (s : HaapGate × CryptoEngine) : Op → Prop
  | .evaluate env sessionId agency drs actionClass token =>
    agency.requiresDualSignoff = true →
      (evaluate P env s.2 s.1 sessionId agency drs actionClass token).1.isBlocked = false →
        DualSignoff P (checkedAt env) s.1 sessionId agency
  | _ => True

variable (P) in
/-- A pre-authorized call at such a level, and one with a token that passes the checks, finds two
tokens registered. -/
def PresentsSignoff (s : HaapGate × CryptoEngine) : Op → Prop
  | .evaluate env sessionId agency drs actionClass token =>
    agency.requiresDualSignoff = true → drs < s.1.constitutionalBlockThreshold →
      ((s.1.isPreauthorized (env.part 1).now sessionId actionClass).1 = true ∨
        ∃ t, token.bind (accepted P (checkedAt env) s.1 sessionId agency) = some t) →
        DualSignoff P (checkedAt env) s.1 sessionId agency
  | _ => True

/-- The root authority is gated at every risk score. -/
lemma belowGate_of_requiresDualSignoff (h : agency.requiresDualSignoff = true) :
    belowGate agency drs = false := by
  obtain rfl : agency = .rootAuthority := of_decide_eq_true h
  rfl

lemma signoffKept_iff (op : Op) : SignoffKept P s op ↔ PresentsSignoff P s op := by
  cases op with
  | evaluate env sessionId agency drs actionClass token =>
    refine imp_congr_right fun hdual => ?_
    rw [(evaluate_kind P env s.2 s.1 sessionId actionClass agency drs token).2, and_imp]
    refine imp_congr_right fun hlt => imp_congr_left ?_
    unfold NeedsToken
    cases s.1.isPreauthorized (env.part 1).now sessionId actionClass |>.1 <;>
      simp [hlt, belowGate_of_requiresDualSignoff hdual]
  | _ => exact Iff.rfl

/-- **When the dual sign-off is kept.** Every call of a run at the root authority that goes
through has two tokens exactly when every pre-authorized one and every one with a token has. -/
theorem signoffKept_run_iff :
    (system P).Always (SignoffKept P) s os ↔ (system P).Always (PresentsSignoff P) s os :=
  System.always_congr fun _ => signoffKept_iff

/-- A token of the operator for session `s` up to the root authority. -/
def rootToken : IntentToken := { oneUseToken with agencyCeiling := .rootAuthority }

/-- A call at the root authority in session `s`. -/
def asRoot (token : Option Str) : Op :=
  .evaluate (fixedSupply 0 0) "s" .rootAuthority 0 "deploy" token

/-- **One token is enough for the root authority, and so is a pre-authorization** without any. -/
theorem asRoot_not_blocked :
    ¬ (system silentPlatform).Always (SignoffKept silentPlatform) (.new, ⟨[]⟩)
        [.registerToken 0 rootToken, asRoot (some rootToken.tokenId)] ∧
      ¬ (system silentPlatform).Always (SignoffKept silentPlatform) (.new, ⟨[]⟩)
        [.preauthorize 0 "s" "deploy" 60, asRoot none] := by
  constructor
  · rintro ⟨-, h, -⟩
    obtain ⟨t₁, t₂, hne, h₁, h₂⟩ := h rfl (by decide +kernel)
    -- there is no other token
    have hall : ∀ t, ((HaapGate.new.registerToken 0 rootToken).2.tokens).lookup t.tokenId =
        some t → t = rootToken := by
      intro t ht
      have hregistry : (HaapGate.new.registerToken 0 rootToken).2.tokens =
          HaapGate.new.tokens.insert rootToken.tokenId rootToken := rfl
      rw [hregistry, lookup_insert_eq_ite] at ht
      split at ht
      · exact (Option.some.inj ht).symm
      · cases ht
    exact hne (by rw [hall t₁ (accepted_eq_some.mp h₁).1, hall t₂ (accepted_eq_some.mp h₂).1])
  · rintro ⟨-, h, -⟩
    obtain ⟨t₁, -, -, h₁, -⟩ := h rfl (by decide +kernel)
    have hempty : (preauthorized (HaapGate.new, CryptoEngine.mk [])
        (HaapGate.new.preauthorize 0 "s" "deploy" 60)).2.1.tokens.lookup t₁.tokenId = none := by
      cases hpre : HaapGate.new.preauthorize 0 "s" "deploy" 60 with
      | none => rfl
      | some g => exact congrArg (Finmap.lookup _) (preauthorize_tokens hpre)
    exact absurd (hempty.symm.trans (accepted_eq_some.mp h₁).1) (by simp)

end HaapGate

end GovSec
