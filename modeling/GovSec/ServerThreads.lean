import GovSec.ServerCapabilities

/-!
The accept loop: a connection gets a thread of its own while a slot is free.

The loop raises one counter before it looks, and the handler of a connection lowers it when it is
done. The turns of the loop and of the handlers come in any order; what a handler does to the
pipeline is one turn here.
-/

namespace GovSec.Server

open GovSec.Lib.Text GovSec.Lib.Maps GovSec.Lib.Actions GovSec.Lib.Runs
open GovSec.Pipeline (Op Answer)

/-! ### An entry of a list -/

section Lists

variable {α : Type*} {as : List α} {i : ℕ} {a b : α} {p : α → Bool}

lemma exists_split_set (h : as[i]? = some a) :
    ∃ l r, as = l ++ a :: r ∧ ∀ b, as.set i b = l ++ b :: r := by
  obtain ⟨hi, rfl⟩ := List.getElem?_eq_some_iff.mp h
  refine ⟨as.take i, as.drop (i + 1), ?_, fun b => ?_⟩
  · rw [List.getElem_cons_drop, List.take_append_drop]
  · rw [List.set_eq_take_append_cons_drop, if_pos hi]

lemma countP_set (h : as[i]? = some a) (b : α) :
    (as.set i b).countP p + (if p a then 1 else 0) = as.countP p + if p b then 1 else 0 := by
  obtain ⟨l, r, hsplit, hset⟩ := exists_split_set h
  rw [hset, hsplit, List.countP_append, List.countP_append, List.countP_cons, List.countP_cons]
  omega

lemma perm_filter_set (h : as[i]? = some a) (ha : p a = true) (hb : p b = false) :
    (as.filter p).Perm (a :: (as.set i b).filter p) := by
  obtain ⟨l, r, hsplit, hset⟩ := exists_split_set h
  rw [hset, hsplit, List.filter_append, List.filter_append, List.filter_cons_of_pos ha,
    List.filter_cons_of_neg (by simp [hb])]
  exact List.perm_middle

lemma filter_set_of_neg (h : as[i]? = some a) (ha : p a = false) (hb : p b = false) :
    (as.set i b).filter p = as.filter p := by
  obtain ⟨l, r, hsplit, hset⟩ := exists_split_set h
  rw [hset, hsplit, List.filter_append, List.filter_append,
    List.filter_cons_of_neg (by simp [hb]), List.filter_cons_of_neg (by simp [ha])]

/-- Two accounts of one kind add up. -/
lemma perm_trade {cs rs fs ws cs' rs' fs' ws' : List α} (h : cs.Perm (rs ++ fs ++ ws))
    (h' : (cs' ++ ws).Perm (rs' ++ fs' ++ ws')) :
    (cs ++ cs').Perm (rs ++ rs' ++ (fs ++ fs') ++ ws') := by
  classical
  rw [List.perm_iff_count] at h h' ⊢
  intro a
  have hold := h a
  have hnew := h' a
  simp only [List.count_append] at hold hnew ⊢
  omega

end Lists

/-! ### Panics -/

section Panics

variable {P : Platform} {K : KeyRing P} {S : Service} {V : Serde} {c : Connection}
  {g g₀ : EvidenceGovernedPipeline} {es : List (Connection × Option Reply)}

/-- The clock of a connection can be read thirty seconds ahead, when an authorization does so. -/
def ClockRuns (c : Connection) : Prop := (addSeconds ((c.env.part 0).part 1).now 30).isSome = true

lemma observeReturned_isSome {α : Type} {env : Supply} {fault : Option EvidenceSinkError}
    {plane : EvidencePlane} {called : Option α × Pipeline} {evidence : α → Evidence}
    (h : called.1.isSome = true) :
    (EvidenceGovernedPipeline.observeReturned P K env fault plane called evidence).1.isSome =
      true := by
  obtain ⟨_ | a, p⟩ := called
  · cases h
  · rfl

/-- Only an authorization can panic. -/
lemma answer_isSome (hindex : g.pipeline.capabilityStore.IndexStored)
    (httl : g.pipeline.capabilityStore.defaultTtlSecs = 30) (hclock : ClockRuns c) {body : Str}
    (e : Endpoint) : (answer P K S V c g body e).1.isSome = true := by
  have hclock' : (addSeconds ((c.env.part 0).part 1).now
      g.pipeline.capabilityStore.defaultTtlSecs).isSome = true := by
    rw [httl]
    exact hclock
  obtain ⟨hprovider, haction⟩ := Pipeline.authorizes (P := P) hindex hclock'
  cases e with
  | inspect =>
    unfold answer
    dsimp only
    split <;> rfl
  | providerAuthorize =>
    unfold answer handleProviderAuthorize
    dsimp only
    split
    · rfl
    · split
      · rfl
      · next req _ =>
        have hanswer : (EvidenceGovernedPipeline.authorizeProviderExecutionWithEvidence P K c.env
            c.fault g req).1.isSome = true := observeReturned_isSome (hprovider req)
        obtain ⟨a, ha⟩ := Option.isSome_iff_exists.mp hanswer
        simp [ha]
  | actionAuthorize =>
    unfold answer handleActionAuthorize
    dsimp only
    split
    · rfl
    · split
      · rfl
      · next req _ =>
        have hanswer : (EvidenceGovernedPipeline.authorizeActionExecutionWithEvidence P K c.env
            c.fault g req).1.isSome = true := observeReturned_isSome (haction req)
        obtain ⟨a, ha⟩ := Option.isSome_iff_exists.mp hanswer
        simp [ha]
  | _ => rfl

lemma Started.indexStored (h : Started g) : g.pipeline.capabilityStore.IndexStored := by
  obtain ⟨config, evaluator, crypto, strategicMemory, govmem, authority, heq⟩ := h
  obtain ⟨_, hset⟩ := Pipeline.configureOperatorResetAuthority_snd
    (p := Pipeline.new config evaluator crypto strategicMemory govmem) authority
  rw [heq, hset]
  exact CapabilityStore.indexStored_new

/-- **The server answers** every connection that brings something. -/
theorem respond_isSome (h₀ : Started g₀) (h : (web P K S V).Run g₀ es g) (hclock : ClockRuns c)
    (hreceived : c.received ≠ .dropped) : (respond P K S V g c).1.isSome = true := by
  obtain ⟨parts, -, hinner⟩ := h.blocks (respond_pipeline P K S V)
  have hindex := Pipeline.run_indexStored h₀.indexStored hinner
  have httl : g.pipeline.capabilityStore.defaultTtlSecs = 30 :=
    (congrArg Prod.snd (Pipeline.run_decidesUnder hinner)).trans
      (h₀.decidesUnder (P := P) (S := S)).1
  cases hadmitted : admitted P S c.received with
  | some a =>
    rw [respond_of_admitted hadmitted]
    exact answer_isSome hindex httl hclock a.1
  | none =>
    rw [respond_of_refused hadmitted]
    unfold refusal
    split
    · next hdropped => exact absurd hdropped hreceived
    · rfl
    · rfl

end Panics

/-! ### The threads -/

/-- How far the handler of a connection is. -/
inductive Stage
  | reading
  /-- It has replied and still holds its slot. -/
  | replied
  | left
  /-- It panicked; its slot is not given back. -/
  | panicked
  deriving DecidableEq

structure Handler where
  connection : Connection
  stage : Stage

def Handler.holdsSlot (t : Handler) : Bool := t.stage ≠ .left

/-- The slots that are held. -/
def slots (ts : List Handler) : ℕ := ts.countP Handler.holdsSlot

/-- What the loop and its handlers share. -/
structure Acceptor where
  server : EvidenceGovernedPipeline
  activeConnections : ℕ
  /-- The connection that was counted and not yet decided, with its `in_flight`. -/
  counted : Option (Connection × ℕ)
  handlers : List Handler

/-- A turn of the loop, or of the handler of a number. -/
inductive Turn
  | count (c : Connection)
  | decide
  | handle (i : ℕ)
  | leave (i : ℕ)

/-- What a turn did; nothing when it was not the thread's turn. -/
inductive Done
  | nothing
  | counted (c : Connection)
  | spawned (c : Connection)
  | refused (c : Connection) (reply : Reply)
  | handled (c : Connection) (reply : Option Reply)
  | left

/-- The connections that were counted, those that were refused, and those that were handled, with
what they were told. -/
def counts (es : List (Turn × Done)) : List Connection :=
  es.filterMap fun
    | (_, .counted c) => some c
    | _ => none

def refusals (es : List (Turn × Done)) : List Connection :=
  es.filterMap fun
    | (_, .refused c _) => some c
    | _ => none

def replies (es : List (Turn × Done)) : List (Connection × Option Reply) :=
  es.filterMap fun
    | (_, .handled c reply) => some (c, reply)
    | _ => none

/-- `fetch_add(1)` and `fetch_sub(1)` on a `usize`. -/
def fetchAdd (n : ℕ) : ℕ := (n + 1) % 2 ^ 64

def fetchSub (n : ℕ) : ℕ := (n + (2 ^ 64 - 1)) % 2 ^ 64

lemma fetchAdd_of_lt {n : ℕ} (h : n + 1 < 2 ^ 64) : fetchAdd n = n + 1 := Nat.mod_eq_of_lt h

lemma fetchSub_succ {n : ℕ} (h : n < 2 ^ 64) : fetchSub (n + 1) = n := by
  unfold fetchSub
  omega

def atCapacity : Reply := .errJson 503 "server at connection capacity"

/-- Where `handle` leaves a handler: only a connection that brought nothing goes without a reply. -/
def stageAfter (c : Connection) : Option Reply → Stage
  | some _ => .replied
  | none =>
    match c.received with
    | .dropped => .replied
    | _ => .panicked

section Serve

variable (P : Platform) (K : KeyRing P) (S : Service) (V : Serde) (maxConnections : ℕ)

namespace Acceptor

def step (l : Acceptor) : Turn → Done × Acceptor
  | .count c =>
    match l.counted with
    | some _ => (.nothing, l)
    | none =>
      let inFlight := fetchAdd l.activeConnections
      (.counted c, { l with activeConnections := inFlight, counted := some (c, inFlight) })
  | .decide =>
    match l.counted with
    | none => (.nothing, l)
    | some (c, inFlight) =>
      if maxConnections < inFlight then
        (.refused c atCapacity,
          { l with activeConnections := fetchSub l.activeConnections, counted := none })
      else (.spawned c, { l with counted := none, handlers := l.handlers ++ [⟨c, .reading⟩] })
  | .handle i =>
    match l.handlers[i]? with
    | some ⟨c, .reading⟩ =>
      let (reply, server) := respond P K S V l.server c
      (.handled c reply,
        { l with server, handlers := l.handlers.set i ⟨c, stageAfter c reply⟩ })
    | _ => (.nothing, l)
  | .leave i =>
    match l.handlers[i]? with
    | some ⟨c, .replied⟩ =>
      (.left,
        { l with
          activeConnections := fetchSub l.activeConnections
          handlers := l.handlers.set i ⟨c, .left⟩ })
    | _ => (.nothing, l)

/-- `serve`. -/
def serve : System Acceptor Turn Done := ⟨step P K S V maxConnections⟩

def start (server : EvidenceGovernedPipeline) : Acceptor := ⟨server, 0, none, []⟩

variable {P K S V maxConnections} {l l₀ : Acceptor} {es : List (Turn × Done)}

/-- What a turn can do. -/
inductive Turned (P : Platform) (K : KeyRing P) (S : Service) (V : Serde) (maxConnections : ℕ)
    (l : Acceptor) : Turn → Done → Acceptor → Prop
  | nothing (o : Turn) : Turned P K S V maxConnections l o .nothing l
  | count (c : Connection) (h : l.counted = none) :
    Turned P K S V maxConnections l (.count c) (.counted c)
      { l with
        activeConnections := fetchAdd l.activeConnections
        counted := some (c, fetchAdd l.activeConnections) }
  | refuse (c : Connection) (inFlight : ℕ) (h : l.counted = some (c, inFlight))
      (hfull : maxConnections < inFlight) :
    Turned P K S V maxConnections l .decide (.refused c atCapacity)
      { l with activeConnections := fetchSub l.activeConnections, counted := none }
  | spawn (c : Connection) (inFlight : ℕ) (h : l.counted = some (c, inFlight))
      (hfree : inFlight ≤ maxConnections) :
    Turned P K S V maxConnections l .decide (.spawned c)
      { l with counted := none, handlers := l.handlers ++ [⟨c, .reading⟩] }
  | handle (i : ℕ) (c : Connection) (h : l.handlers[i]? = some ⟨c, .reading⟩) :
    Turned P K S V maxConnections l (.handle i) (.handled c (respond P K S V l.server c).1)
      { l with
        server := (respond P K S V l.server c).2
        handlers := l.handlers.set i ⟨c, stageAfter c (respond P K S V l.server c).1⟩ }
  | leave (i : ℕ) (c : Connection) (h : l.handlers[i]? = some ⟨c, .replied⟩) :
    Turned P K S V maxConnections l (.leave i) .left
      { l with
        activeConnections := fetchSub l.activeConnections
        handlers := l.handlers.set i ⟨c, .left⟩ }

lemma turned (l : Acceptor) (o : Turn) : Turned P K S V maxConnections l o
    (step P K S V maxConnections l o).1 (step P K S V maxConnections l o).2 := by
  cases o with
  | count c =>
    unfold step
    dsimp only
    split
    · exact .nothing _
    · next h => exact .count c h
  | decide =>
    unfold step
    dsimp only
    split
    · exact .nothing _
    · next c inFlight h =>
      split
      · next hfull => exact .refuse c inFlight h hfull
      · next hfree => exact .spawn c inFlight h (not_lt.mp hfree)
  | handle i =>
    unfold step
    dsimp only
    split
    · next c h => exact .handle i c h
    · exact .nothing _
  | leave i =>
    unfold step
    dsimp only
    split
    · next c h => exact .leave i c h
    · exact .nothing _

/-! ### The slots -/

/-- **The account of the slots.** -/
structure Accounted (maxConnections : ℕ) (l : Acceptor) : Prop where
  counter : l.activeConnections = slots l.handlers + if l.counted.isSome then 1 else 0
  bounded : slots l.handlers ≤ maxConnections
  /-- Handlers may have left since the connection was counted. -/
  seen : ∀ c inFlight, l.counted = some (c, inFlight) → slots l.handlers + 1 ≤ inFlight

lemma accounted_start (server : EvidenceGovernedPipeline) :
    (start server).Accounted maxConnections :=
  ⟨rfl, Nat.zero_le _, nofun⟩

/-- A handler's turn that keeps its slot. -/
lemma slots_set {i : ℕ} {t t' : Handler} (h : l.handlers[i]? = some t)
    (heq : t.holdsSlot = t'.holdsSlot) :
    slots (l.handlers.set i t') = slots l.handlers := by
  have hset := countP_set (p := Handler.holdsSlot) h t'
  rw [heq] at hset
  exact Nat.add_right_cancel hset

lemma slots_set_left {i : ℕ} {t : Handler} (h : l.handlers[i]? = some t)
    (hold : t.holdsSlot = true) (c : Connection) :
    slots (l.handlers.set i ⟨c, .left⟩) + 1 = slots l.handlers := by
  have hset := countP_set (p := Handler.holdsSlot) h ⟨c, .left⟩
  rw [if_pos hold] at hset
  exact hset

lemma stageAfter_cases (c : Connection) (reply : Option Reply) :
    stageAfter c reply = .replied ∨ stageAfter c reply = .panicked := by
  unfold stageAfter
  split
  · exact .inl rfl
  · split
    · exact .inl rfl
    · exact .inr rfl

/-- **Every turn keeps the account.** -/
lemma Accounted.turned (hmax : maxConnections + 1 < 2 ^ 64) (h : l.Accounted maxConnections)
    {o : Turn} {d : Done} {l' : Acceptor} (hturned : Turned P K S V maxConnections l o d l') :
    l'.Accounted maxConnections := by
  obtain ⟨hcounter, hbounded, hseen⟩ := h
  cases hturned with
  | nothing => exact ⟨hcounter, hbounded, hseen⟩
  | count c hnone =>
    have hactive : l.activeConnections = slots l.handlers := by simpa [hnone] using hcounter
    have hraised : fetchAdd l.activeConnections = slots l.handlers + 1 := by
      rw [hactive, fetchAdd_of_lt (by omega)]
    refine ⟨hraised, hbounded, fun c' n hc => ?_⟩
    obtain ⟨rfl, rfl⟩ := Prod.mk.inj (Option.some.inj hc)
    exact hraised.ge
  | refuse c n hsome hfull =>
    have hactive : l.activeConnections = slots l.handlers + 1 := by simpa [hsome] using hcounter
    refine ⟨?_, hbounded, nofun⟩
    change fetchSub l.activeConnections = slots l.handlers
    rw [hactive, fetchSub_succ (by omega)]
  | spawn c n hsome hfree =>
    have hactive : l.activeConnections = slots l.handlers + 1 := by simpa [hsome] using hcounter
    have hslots : slots (l.handlers ++ [⟨c, .reading⟩]) = slots l.handlers + 1 :=
      List.countP_append
    refine ⟨hactive.trans hslots.symm, ?_, nofun⟩
    exact hslots.le.trans ((hseen c n hsome).trans hfree)
  | handle i c hi =>
    have hholds : Handler.holdsSlot ⟨c, .reading⟩ =
        Handler.holdsSlot ⟨c, stageAfter c (respond P K S V l.server c).1⟩ := by
      rcases stageAfter_cases c (respond P K S V l.server c).1 with h | h <;> rw [h] <;> rfl
    have hslots := slots_set hi hholds
    refine ⟨?_, ?_, fun c' n hc => ?_⟩
    · exact hcounter.trans (by rw [← hslots])
    · exact hslots.le.trans hbounded
    · exact (Nat.add_le_add_right hslots.le 1).trans (hseen c' n hc)
  | leave i c hi =>
    have hslots := slots_set_left hi rfl c
    have hle : slots (l.handlers.set i ⟨c, .left⟩) ≤ slots l.handlers := by omega
    refine ⟨?_, hle.trans hbounded, fun c' n hc => ?_⟩
    · change fetchSub l.activeConnections = slots _ + if l.counted.isSome then 1 else 0
      rw [hcounter, ← hslots, Nat.add_right_comm, fetchSub_succ]
      split <;> omega
    · exact (Nat.add_le_add_right hle 1).trans (hseen c' n hc)

/-- **The account of a run.** -/
theorem run_accounted (hmax : maxConnections + 1 < 2 ^ 64) (h₀ : l₀.Accounted maxConnections)
    (h : (serve P K S V maxConnections).Run l₀ es l) : l.Accounted maxConnections :=
  h.invariant (I := fun _ l => l.Accounted maxConnections) h₀
    fun _ l o h => h.turned hmax (turned l o)

/-- A counted connection waits for the loop. -/
lemma Turned.counted {o : Turn} {d : Done} {l' : Acceptor}
    (h : Turned P K S V maxConnections l o d l') (ho : o ≠ .decide) {c : Connection} {n : ℕ}
    (hc : l.counted = some (c, n)) : l'.counted = some (c, n) := by
  cases h with
  | nothing => exact hc
  | count c' hnone => exact absurd (hnone.symm.trans hc) nofun
  | refuse => exact absurd rfl ho
  | spawn => exact absurd rfl ho
  | handle => exact hc
  | leave => exact hc

lemma counted_of_exec {c : Connection} {n : ℕ} (h : l.counted = some (c, n)) {os : List Turn}
    (hos : ∀ o ∈ os, o ≠ .decide) :
    ((serve P K S V maxConnections).exec l os).2.counted = some (c, n) := by
  have hrun := System.Run.of_exec (M := serve P K S V maxConnections) l os
  refine hrun.invariant_on (Q := fun o => o ≠ .decide)
    (I := fun l => l.counted = some (c, n)) h (fun l o ho hl => (turned l o).counted ho hl) ?_
  intro e he
  refine hos e.1 ?_
  rw [← System.map_fst_exec (M := serve P K S V maxConnections) l os]
  exact List.mem_map_of_mem he

/-! A server with one slot, and a connection whose header lines are refused. -/

def fixedServe : System Acceptor Turn Done :=
  serve silentPlatform (fixedKeys _) fixedService treeSerde 1

def brokenConnection : Connection :=
  { fixedConnection 0 "/" [] with received := .malformed "header line too long" }

/-- Its handler has replied and still holds the slot. -/
def fixedTurns : List Turn := [.count brokenConnection, .decide, .handle 0]

/-- **The limit on connections is exact.** Whatever the order of the turns, no more slots are held
than there may be connections; and a connection that is counted is refused, after whatever turns of
the handlers, exactly when all slots were held when it was counted. -/
theorem serve_capacity (hmax : maxConnections + 1 < 2 ^ 64) {server : EvidenceGovernedPipeline}
    (h : (serve P K S V maxConnections).Run (start server) es l) :
    slots l.handlers ≤ maxConnections ∧
      ∀ c os, l.counted = none → (∀ o ∈ os, o ≠ .decide) →
        ((serve P K S V maxConnections).step ((serve P K S V maxConnections).exec
          ((serve P K S V maxConnections).step l (.count c)).2 os).2 .decide).1 =
            if slots l.handlers = maxConnections then .refused c atCapacity else .spawned c := by
  have hacc := run_accounted hmax (accounted_start server) h
  refine ⟨hacc.bounded, fun c os hnone hos => ?_⟩
  have hactive : l.activeConnections = slots l.handlers := by simpa [hnone] using hacc.counter
  have hbounded := hacc.bounded
  have hraised : fetchAdd l.activeConnections = slots l.handlers + 1 := by
    rw [hactive, fetchAdd_of_lt (by omega)]
  have hcounted : (step P K S V maxConnections l (.count c)).2.counted =
      some (c, slots l.handlers + 1) := by
    unfold step
    dsimp only
    rw [hnone, ← hraised]
  change (step P K S V maxConnections _ .decide).1 = _
  unfold step
  dsimp only
  rw [show (serve P K S V maxConnections).step l (.count c) =
    step P K S V maxConnections l (.count c) from rfl, counted_of_exec hcounted hos]
  dsimp only
  split
  · rw [if_pos (by omega)]
  · rw [if_neg (by omega)]

theorem serve_capacity_fixed :
    slots (fixedServe.exec (start fixedStarted) fixedTurns).2.handlers ≤ 1 ∧
      (fixedServe.step (fixedServe.exec (fixedServe.step
        (fixedServe.exec (start fixedStarted) fixedTurns).2 (.count fixedAuthorization)).2
          [.handle 0]).2 .decide).1 = .refused fixedAuthorization atCapacity := by
  obtain ⟨hle, hnext⟩ := serve_capacity (by decide)
    (System.Run.of_exec (M := fixedServe) (start fixedStarted) fixedTurns)
  have hnone : (fixedServe.exec (start fixedStarted) fixedTurns).2.counted = none := rfl
  have hslots : slots (fixedServe.exec (start fixedStarted) fixedTurns).2.handlers = 1 := rfl
  refine ⟨hle, ?_⟩
  have hdecided := hnext fixedAuthorization [.handle 0] hnone (by simp)
  rw [if_pos hslots] at hdecided
  exact hdecided

/-! ### The connections -/

/-- The connections that are still to be decided or handled. -/
def waiting (l : Acceptor) : List Connection :=
  (l.counted.map Prod.fst).toList ++ (l.handlers.filter (·.stage = .reading)).map Handler.connection

/-- What a turn does to the connections that wait. -/
lemma Turned.waiting {o : Turn} {d : Done} {l' : Acceptor}
    (h : Turned P K S V maxConnections l o d l') : (counts [(o, d)] ++ l.waiting).Perm
      ((replies [(o, d)]).map Prod.fst ++ refusals [(o, d)] ++ l'.waiting) := by
  cases h with
  | nothing => exact .refl _
  | count c hnone =>
    change (c :: l.waiting).Perm (c :: (l.handlers.filter (·.stage = .reading)).map _)
    unfold Acceptor.waiting
    rw [hnone]
    exact .refl _
  | refuse c n hsome =>
    unfold Acceptor.waiting
    rw [hsome]
    exact .refl _
  | spawn c n hsome =>
    unfold Acceptor.waiting
    rw [hsome, List.filter_append, List.map_append]
    exact @List.perm_append_comm _ [c] _
  | handle i c hi =>
    have hdone : decide (stageAfter c (respond P K S V l.server c).1 = .reading) = false := by
      rcases stageAfter_cases c (respond P K S V l.server c).1 with h | h <;> rw [h] <;> rfl
    have hperm : (l.handlers.filter (·.stage = .reading)).Perm
        (⟨c, .reading⟩ :: (l.handlers.set i ⟨c, stageAfter c (respond P K S V l.server c).1⟩).filter
          (·.stage = .reading)) := perm_filter_set hi rfl hdone
    exact ((hperm.map Handler.connection).append_left _).trans List.perm_middle
  | leave i c hi =>
    have heq : (l.handlers.set i ⟨c, .left⟩).filter (·.stage = .reading) =
        l.handlers.filter (·.stage = .reading) := filter_set_of_neg hi rfl rfl
    unfold Acceptor.waiting
    dsimp only
    rw [heq]
    exact .refl _

/-- What a turn does to the server. -/
lemma Turned.run {server : EvidenceGovernedPipeline} {hs : List (Connection × Option Reply)}
    {o : Turn} {d : Done} {l' : Acceptor} (h : Turned P K S V maxConnections l o d l')
    (hrun : (web P K S V).Run server hs l.server) :
    (web P K S V).Run server (hs ++ replies [(o, d)]) l'.server := by
  cases h with
  | handle i c hi => exact hrun.snoc c
  | _ =>
    change (web P K S V).Run server (hs ++ []) l.server
    rwa [List.append_nil]

lemma stageAfter_eq_panicked {c : Connection} {reply : Option Reply}
    (h : stageAfter c reply = .panicked) : reply = none ∧ c.received ≠ .dropped := by
  unfold stageAfter at h
  split at h
  · cases h
  · split at h
    · cases h
    · next hreceived => exact ⟨rfl, hreceived⟩

/-- A panic is a connection without its reply. -/
lemma Turned.panicked {o : Turn} {d : Done} {l' : Acceptor}
    (h : Turned P K S V maxConnections l o d l') {t : Handler} (ht : t ∈ l'.handlers)
    (hstage : t.stage = .panicked) : t ∈ l.handlers ∨
      (t.connection, none) ∈ replies [(o, d)] ∧ t.connection.received ≠ .dropped := by
  cases h with
  | nothing => exact .inl ht
  | count => exact .inl ht
  | refuse => exact .inl ht
  | spawn c n =>
    rcases List.mem_append.mp ht with hold | hnew
    · exact .inl hold
    · rw [List.mem_singleton.mp hnew] at hstage
      cases hstage
  | handle i c hi =>
    rcases List.mem_or_eq_of_mem_set ht with hold | rfl
    · exact .inl hold
    · obtain ⟨hreply, hreceived⟩ := stageAfter_eq_panicked hstage
      refine .inr ⟨?_, hreceived⟩
      change (c, none) ∈ [(c, (respond P K S V l.server c).1)]
      rw [hreply]
      exact List.mem_singleton.mpr rfl
  | leave i c hi =>
    rcases List.mem_or_eq_of_mem_set ht with hold | rfl
    · exact .inl hold
    · cases hstage

lemma replied_of_panicked {server : EvidenceGovernedPipeline}
    (h : (serve P K S V maxConnections).Run (start server) es l) {t : Handler}
    (ht : t ∈ l.handlers) (hstage : t.stage = .panicked) :
    (t.connection, none) ∈ replies es ∧ t.connection.received ≠ .dropped := by
  induction h with
  | nil => cases ht
  | @snoc es l _ o ih =>
    have hturned : Turned P K S V maxConnections l o _ _ := turned l o
    rw [replies, List.filterMap_append, List.mem_append]
    rcases hturned.panicked ht hstage with hold | ⟨hnew, hreceived⟩
    · obtain ⟨hmem, hreceived⟩ := ih hold
      exact ⟨.inl hmem, hreceived⟩
    · exact ⟨.inr hnew, hreceived⟩

end Acceptor

end Serve

end GovSec.Server
