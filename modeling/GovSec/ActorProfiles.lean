import GovSec.MemoryLevels

/-!
The profiles of actors over runs of ended sessions.

The recommendation for the next session follows a ladder of levels by the share of escalated
sessions, and an escalated session never moves an actor down the ladder. A campaign is the top
level: four sessions in a row with two behaviours between them, whichever of them escalated.
-/

namespace GovSec

open GovSec.Lib.Text GovSec.Lib.Maps GovSec.Lib.Runs

namespace StrategicMemory

variable {profile : ActorProfile} {fingerprint : SessionFingerprint}
  {fps : List SessionFingerprint} {now : DateTime} {s : StrategicMemory}

/-- A session of an actor that ends. -/
structure EndedSession where
  now : DateTime
  diskWrites : Bool
  actorId : Str
  fingerprint : SessionFingerprint

/-- The store that takes in one ended session after another. -/
def sessions : System StrategicMemory EndedSession Bool :=
  ⟨fun s o => ingestSession o.now o.diskWrites o.actorId o.fingerprint s⟩

/-- The profile of an actor, new for an unknown one. -/
def profileOf (s : StrategicMemory) (now : DateTime) (actorId : Str) : ActorProfile :=
  (s.actors.lookup actorId).getD (newProfile now actorId)

lemma lookup_sessions_step (o : EndedSession) (actorId : Str) :
    (sessions.step s o).2.actors.lookup actorId =
      if actorId = o.actorId then
        some (addSession o.now o.fingerprint (s.profileOf o.now o.actorId))
      else s.actors.lookup actorId := lookup_insert_eq_ite ..

/-! ### What a profile counts -/

/-- The counters are those of the sessions, and the level is that of the counters. -/
structure Counted (profile : ActorProfile) : Prop where
  total : profile.totalSessions = profile.sessionFingerprints.length
  escalated : profile.escalatedSessions = profile.sessionFingerprints.countP (·.escalated)
  level : profile.strategicThreatLevel = threatLevel profile

lemma counted_newProfile (now : DateTime) (actorId : Str) : Counted (newProfile now actorId) :=
  ⟨rfl, rfl, by simp [threatLevel, newProfile]⟩

@[simp] lemma detectCampaign_totalSessions :
    (detectCampaign profile).totalSessions = profile.totalSessions := by
  unfold detectCampaign; split <;> rfl
@[simp] lemma detectCampaign_escalatedSessions :
    (detectCampaign profile).escalatedSessions = profile.escalatedSessions := by
  unfold detectCampaign; split <;> rfl
@[simp] lemma detectCampaign_sessionFingerprints :
    (detectCampaign profile).sessionFingerprints = profile.sessionFingerprints := by
  unfold detectCampaign; split <;> rfl

lemma detectCampaign_campaignDetected : (detectCampaign profile).campaignDetected = true ↔
    profile.campaignDetected = true ∨ 3 ≤ profile.totalSessions ∧ 2 ≤ profile.escalatedSessions ∧
      ((profile.sessionFingerprints.reverse.take 4).map (·.behaviorHash)).dedup.length ≤ 2 := by
  unfold detectCampaign
  split
  · next h => simp only [h, or_true, and_self]
  · next h => simp only [h, or_false]

@[simp] lemma addSession_totalSessions :
    (addSession now fingerprint profile).totalSessions = profile.totalSessions + 1 := by
  simp [addSession, evaluateActor]
@[simp] lemma addSession_escalatedSessions :
    (addSession now fingerprint profile).escalatedSessions =
      profile.escalatedSessions + if fingerprint.escalated then 1 else 0 := by
  simp [addSession, evaluateActor]
@[simp] lemma addSession_sessionFingerprints :
    (addSession now fingerprint profile).sessionFingerprints =
      profile.sessionFingerprints ++ [fingerprint] := by
  simp [addSession, evaluateActor]

lemma Counted.addSession (h : Counted profile) :
    Counted (addSession now fingerprint profile) where
  total := by simp [h.total]
  escalated := by simp [h.escalated, List.countP_append, List.countP_singleton]
  level := rfl

/-- Every profile of the store counts its sessions. -/
def AllCounted (s : StrategicMemory) : Prop :=
  ∀ actorId profile, s.actors.lookup actorId = some profile → Counted profile

lemma AllCounted.profileOf (h : AllCounted s) (now : DateTime) (actorId : Str) :
    Counted (s.profileOf now actorId) := by
  unfold StrategicMemory.profileOf
  cases hlookup : s.actors.lookup actorId with
  | none => exact counted_newProfile now actorId
  | some profile => exact h actorId profile hlookup

lemma allCounted_new : AllCounted .new := fun _ _ h => by simp [StrategicMemory.new] at h

lemma AllCounted.step (h : AllCounted s) (o : EndedSession) :
    AllCounted (sessions.step s o).2 := by
  intro actorId profile hlookup
  rw [lookup_sessions_step] at hlookup
  split at hlookup
  · exact Option.some.inj hlookup ▸ (h.profileOf o.now o.actorId).addSession
  · exact h actorId profile hlookup

/-! ### The ladder -/

/-- The rung of a level. -/
def rung : StrategicThreatLevel → ℕ
  | .unknown => 0
  | .clean => 0
  | .cautious => 1
  | .suspicious => 2
  | .hostile => 3

/-- A higher rung recommends no weaker scrutiny. -/
lemma recommendation_mono {a b : StrategicThreatLevel} (h : rung a ≤ rung b) :
    (recommendation b).2 ≤ (recommendation a).2 ∧ (recommendation a).1 ≤ (recommendation b).1 := by
  cases a <;> cases b <;> simp [rung] at h <;> simp +decide [recommendation] <;> norm_num

/-- The share of the sessions that escalated. -/
def escalationRatio (profile : ActorProfile) : ℚ :=
  if 0 < profile.totalSessions then profile.escalatedSessions / profile.totalSessions else 0

lemma rung_threatLevel (profile : ActorProfile) : rung (threatLevel profile) =
    if profile.campaignDetected then 3
    else if 0.5 < escalationRatio profile ∧ 3 ≤ profile.totalSessions then 2
    else if 0.25 < escalationRatio profile ∧ 2 ≤ profile.totalSessions then 1 else 0 := by
  unfold threatLevel
  dsimp only
  rw [← escalationRatio]
  split_ifs <;> rfl

variable {profile' : ActorProfile}

/-- One more escalated session does not lower the share of escalated ones. -/
lemma escalationRatio_mono (hle : profile.escalatedSessions ≤ profile.totalSessions)
    (htotal : profile'.totalSessions = profile.totalSessions + 1)
    (hescalated : profile'.escalatedSessions = profile.escalatedSessions + 1) :
    escalationRatio profile ≤ escalationRatio profile' := by
  have hcast : (profile.escalatedSessions : ℚ) ≤ profile.totalSessions := by exact_mod_cast hle
  unfold escalationRatio
  rw [htotal, hescalated, if_pos (Nat.succ_pos _)]
  split
  · next ht =>
    rw [div_le_div_iff₀ (by exact_mod_cast ht) (by positivity)]
    push_cast
    linarith
  · positivity

/-- **An escalated session does not move an actor down.** -/
theorem rung_mono (hle : profile.escalatedSessions ≤ profile.totalSessions)
    (htotal : profile'.totalSessions = profile.totalSessions + 1)
    (hescalated : profile'.escalatedSessions = profile.escalatedSessions + 1)
    (hcampaign : profile.campaignDetected = true → profile'.campaignDetected = true) :
    rung (threatLevel profile) ≤ rung (threatLevel profile') := by
  have hratio := escalationRatio_mono hle htotal hescalated
  rw [rung_threatLevel, rung_threatLevel, htotal]
  by_cases hc' : profile'.campaignDetected = true
  · rw [if_pos hc']
    split_ifs <;> omega
  have hc : ¬ profile.campaignDetected = true := fun h => hc' (hcampaign h)
  rw [if_neg hc, if_neg hc']
  by_cases hs : 0.5 < escalationRatio profile ∧ 3 ≤ profile.totalSessions
  · rw [if_pos hs, if_pos ⟨hs.1.trans_le hratio, by omega⟩]
  rw [if_neg hs]
  by_cases hc : 0.25 < escalationRatio profile ∧ 2 ≤ profile.totalSessions
  · rw [if_pos hc, if_pos (c := 0.25 < _ ∧ _) ⟨hc.1.trans_le hratio, by omega⟩]
    split_ifs <;> omega
  · rw [if_neg hc]
    exact Nat.zero_le _

/-- A campaign stays detected. -/
lemma addSession_campaignDetected_of (h : profile.campaignDetected = true) :
    (addSession now fingerprint profile).campaignDetected = true :=
  detectCampaign_campaignDetected.mpr (.inl h)

/-- The recommendations of the actor's profile do not relax with an escalated session. -/
def NeverRewards (s : StrategicMemory) (o : EndedSession) : Prop :=
  o.fingerprint.escalated = true → ∀ profile profile',
    s.actors.lookup o.actorId = some profile →
      (sessions.step s o).2.actors.lookup o.actorId = some profile' →
        profile'.recommendedThresholdModifier ≤ profile.recommendedThresholdModifier ∧
          profile.recommendedInitialState ≤ profile'.recommendedInitialState

lemma AllCounted.neverRewards (h : AllCounted s) (o : EndedSession) : NeverRewards s o := by
  intro hescalated profile profile' hprofile hprofile'
  rw [lookup_sessions_step, if_pos rfl, StrategicMemory.profileOf, hprofile,
    Option.getD_some] at hprofile'
  obtain rfl := Option.some.inj hprofile'
  have hcounted := h o.actorId profile hprofile
  have hle : profile.escalatedSessions ≤ profile.totalSessions := by
    rw [hcounted.escalated, hcounted.total]
    exact List.countP_le_length
  have hescalations : (addSession o.now o.fingerprint profile).escalatedSessions =
      profile.escalatedSessions + 1 := by rw [addSession_escalatedSessions, if_pos hescalated]
  have hrung := rung_mono hle addSession_totalSessions hescalations addSession_campaignDetected_of
  -- both profiles carry the recommendation of their level
  have hbefore := s.evaluated o.actorId profile hprofile
  have hafter := evaluated_addSession o.now o.fingerprint profile
  rw [Evaluated, hcounted.level] at hbefore
  have hadded : Counted (addSession o.now o.fingerprint profile) := hcounted.addSession
  rw [Evaluated, hadded.level] at hafter
  have hmono := recommendation_mono hrung
  rwa [← hbefore, ← hafter] at hmono

/-- **An attack is never rewarded.** In every run of a new store, no escalated session raises the
recommended modifier of its actor or lowers the recommended initial state. -/
theorem neverRewards_run (os : List EndedSession) :
    sessions.Always NeverRewards .new os := by
  have hrun (s : StrategicMemory) (h : AllCounted s) : sessions.Always NeverRewards s os := by
    induction os generalizing s with
    | nil => trivial
    | cons o os ih => exact ⟨h.neverRewards o, ih _ (h.step o)⟩
  exact hrun .new allCounted_new

/-! ### Campaigns -/

/-- Two escalated sessions show the same behaviour. -/
def RepeatedAttack (fps : List SessionFingerprint) : Prop :=
  ¬ ((fps.filter (·.escalated)).map (·.behaviorHash)).Nodup

instance : Decidable (RepeatedAttack fps) := inferInstanceAs (Decidable (¬ _))

/-- The behaviours of the last four sessions. -/
def recentBehaviors (fps : List SessionFingerprint) : List (BitVec 64) :=
  ((fps.reverse.take 4).map (·.behaviorHash)).dedup

/-- Where at least two of three or more sessions escalated, each with its own behaviour, the last
four show more than two behaviours. -/
def Varied (fps : List SessionFingerprint) : Prop :=
  ((fps.filter (·.escalated)).map (·.behaviorHash)).Nodup → 3 ≤ fps.length →
    2 ≤ fps.countP (·.escalated) → 2 < (recentBehaviors fps).length

/-- Every actor with a campaign has attacked twice with the same behaviour. -/
def CampaignsRepeat (s : StrategicMemory) : Prop :=
  ∀ actorId profile, s.actors.lookup actorId = some profile → profile.campaignDetected = true →
    RepeatedAttack profile.sessionFingerprints

/-- The sessions of the actor after this one are varied. -/
def StaysVaried (s : StrategicMemory) (o : EndedSession) : Prop :=
  Varied ((s.profileOf o.now o.actorId).sessionFingerprints ++ [o.fingerprint])

lemma RepeatedAttack.append (h : RepeatedAttack fps) (more : List SessionFingerprint) :
    RepeatedAttack (fps ++ more) := by
  unfold RepeatedAttack at h ⊢
  rw [List.filter_append, List.map_append]
  exact fun hnodup => h hnodup.of_append_left

lemma addSession_campaignDetected (h : Counted profile) :
    (addSession now fingerprint profile).campaignDetected = true ↔
      profile.campaignDetected = true ∨
        3 ≤ (profile.sessionFingerprints ++ [fingerprint]).length ∧
          2 ≤ (profile.sessionFingerprints ++ [fingerprint]).countP (·.escalated) ∧
          (recentBehaviors (profile.sessionFingerprints ++ [fingerprint])).length ≤ 2 := by
  refine detectCampaign_campaignDetected.trans ?_
  simp only [h.total, h.escalated, recentBehaviors, List.length_append, List.length_singleton,
    List.countP_append, List.countP_singleton]

/-- A campaign that a session completes is a repeated attack exactly when the sessions are
varied. -/
lemma campaign_repeats_iff (h : Counted profile) (hrepeats : profile.campaignDetected = true →
      RepeatedAttack profile.sessionFingerprints) :
    ((addSession now fingerprint profile).campaignDetected = true →
        RepeatedAttack (profile.sessionFingerprints ++ [fingerprint])) ↔
      Varied (profile.sessionFingerprints ++ [fingerprint]) := by
  rw [addSession_campaignDetected h, Varied, ← not_lt (a := 2)]
  have happend : profile.campaignDetected = true →
      RepeatedAttack (profile.sessionFingerprints ++ [fingerprint]) := fun hc =>
    (hrepeats hc).append [fingerprint]
  unfold RepeatedAttack at happend ⊢
  tauto

/-- **When a campaign is a repeated attack.** Along a run of a new store, every detected campaign
has two escalated sessions with the same behaviour exactly when every session leaves those of its
actor varied. -/
theorem campaignsRepeat_run_iff (os : List EndedSession) :
    sessions.Always (fun s o => CampaignsRepeat (sessions.step s o).2) .new os ↔
      sessions.Always StaysVaried .new os := by
  refine System.always_iff_of_invariant (I := fun s => AllCounted s ∧ CampaignsRepeat s)
    ⟨allCounted_new, fun _ _ h => by simp [StrategicMemory.new] at h⟩ ?_
    fun s o hI hQ => ⟨hI.1.step o, hQ⟩
  rintro s o ⟨hcounted, hrepeats⟩
  have hprofile : (s.profileOf o.now o.actorId).campaignDetected = true →
      RepeatedAttack (s.profileOf o.now o.actorId).sessionFingerprints := by
    unfold profileOf
    cases hlookup : s.actors.lookup o.actorId with
    | none => exact fun hc => absurd hc (by simp [newProfile])
    | some profile => exact hrepeats o.actorId profile hlookup
  have hcampaign : ((addSession o.now o.fingerprint
      (s.profileOf o.now o.actorId)).campaignDetected = true →
        RepeatedAttack ((s.profileOf o.now o.actorId).sessionFingerprints ++ [o.fingerprint])) ↔
      StaysVaried s o :=
    campaign_repeats_iff (hcounted.profileOf o.now o.actorId) hprofile
  rw [← hcampaign]
  constructor
  · intro h
    have hstep := h o.actorId _ ((lookup_sessions_step o o.actorId).trans (if_pos rfl))
    rwa [addSession_sessionFingerprints] at hstep
  · intro h actorId profile hlookup
    rw [lookup_sessions_step] at hlookup
    split at hlookup
    · obtain rfl := Option.some.inj hlookup
      rwa [addSession_sessionFingerprints]
    · exact hrepeats actorId profile hlookup

/-- The end of a session of actor `a`, escalated or not, in which there was one turn of the
classification. -/
def sessionOf (escalated : Bool) (classification : RequestClassification) : EndedSession where
  now := 0
  diskWrites := false
  actorId := "a"
  fingerprint :=
    { ((SessionMemory.ingestSignal 0 (Arbiter.bareSignal .none 0) classification .default
        (.new 0 "s")).2.toFingerprint) with escalated }

/-- **Two different attacks and a benign session are a campaign.** -/
theorem campaign_without_repetition :
    ¬ sessions.Always (fun s o => CampaignsRepeat (sessions.step s o).2) .new
      [sessionOf true .extraction, sessionOf true .benign, sessionOf false .benign] := by
  rintro ⟨-, -, h, -⟩
  exact absurd (h "a" _ (Finmap.lookup_insert ..) (by decide +kernel)) (by decide +kernel)

end StrategicMemory

end GovSec
