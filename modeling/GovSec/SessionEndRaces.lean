import GovSec.Pipeline
import GovSec.Lib.Threads

/-!
Ends of one session among inbound calls on it.

`end_session` reads the fingerprint of the session's memory, ingests it into strategic memory
and removes the memory, each under a lock of its own. An inbound call opens the memory and
later ingests its highest signal. Here these are the atomic steps of threads. The other layers
hold locks of their own and do not touch the two memories.

The memories that the session has had are numbered as they are created, which tells a memory
from the one that replaces it.
-/

namespace GovSec.SessionEnd

open GovSec.Lib.Text GovSec.Lib.Maps GovSec.Lib.Threads GovSec.Lib.Actions

/-- The two memories, with what has been ingested and removed so far. -/
structure Store where
  sessionMemories : HashMap Str SessionMemory
  strategicMemory : StrategicMemory
  /-- How many memories the session has had; the one it has is the last of them. -/
  created : ℕ
  /-- The fingerprints in strategic memory, with the number of the memory each was read from. -/
  ingested : List (ℕ × SessionFingerprint)
  /-- The removed memories, with their numbers. -/
  removed : List (ℕ × SessionMemory)

/-- Where a call stands. -/
inductive Pc
  | init (signal : GovernanceSignal) (classification : RequestClassification)
  | ingestSignal (signal : GovernanceSignal) (classification : RequestClassification)
  | readFingerprint (diskWrites : Bool) (actorId : Str)
  | ingestSession (diskWrites : Bool) (actorId : Str) (number : ℕ)
      (fingerprint : SessionFingerprint)
  | removeMemory (read : Option (ℕ × SessionFingerprint)) (persisted : Bool)
  /-- An end of the session returns whether its profile was persisted. -/
  | done (persisted : Option Bool)

variable (sessionId : Str) (config : MemoryConfig)

/-- One lock-guarded step; `now` is its clock reading. -/
def atomicStep : Atomic Store Pc DateTime := fun now s pc =>
  match pc with
  | .init signal classification =>
    (match s.sessionMemories.lookup sessionId with
      | some _ => s
      | none =>
        let advice := s.strategicMemory.adviseSessionStart sessionId
        let mem := { SessionMemory.new now sessionId with memoryState := advice.initialState }
        { s with
          sessionMemories := s.sessionMemories.insert sessionId mem
          created := s.created + 1 },
      .ingestSignal signal classification)
  | .ingestSignal signal classification =>
    (match s.sessionMemories.lookup sessionId with
      | some mem =>
        { s with
          sessionMemories := s.sessionMemories.insert sessionId
            (mem.ingestSignal now signal classification config).2 }
      | none => s,
      .done none)
  | .readFingerprint diskWrites actorId =>
    (s, match s.sessionMemories.lookup sessionId with
      | some m => .ingestSession diskWrites actorId s.created m.toFingerprint
      | none => .removeMemory none false)
  | .ingestSession diskWrites actorId number fingerprint =>
    let (persisted, strategicMemory) :=
      s.strategicMemory.ingestSession now diskWrites actorId fingerprint
    ({ s with strategicMemory, ingested := s.ingested ++ [(number, fingerprint)] },
      .removeMemory (some (number, fingerprint)) persisted)
  | .removeMemory _ persisted =>
    ({ s with
        sessionMemories := s.sessionMemories.erase sessionId
        removed := s.removed ++
          ((s.sessionMemories.lookup sessionId).map fun m => (s.created, m)).toList },
      .done (some persisted))
  | .done persisted => (s, .done persisted)

/-- The store of a pipeline that has ended no session yet. -/
def Store.start (sessionMemories : HashMap Str SessionMemory) (strategicMemory : StrategicMemory) :
    Store where
  sessionMemories
  strategicMemory
  created := if (sessionMemories.lookup sessionId).isSome then 1 else 0
  ingested := []
  removed := []

/-- Every removed memory was ingested exactly once, and each of its turns is counted in exactly
one ingested fingerprint: turn `n` is counted in those with at least `n` turns. -/
structure Accounted (s : Store) : Prop where
  once : ∀ r ∈ s.removed, s.ingested.countP (fun e => e.1 = r.1) = 1
  turns : ∀ r ∈ s.removed, ∀ turn, 1 ≤ turn → turn ≤ r.2.turnCount →
    s.ingested.countP (fun e => e.1 = r.1 ∧ turn ≤ e.2.turnCount) = 1

/-! ### One call alone -/

section Alone

/-- The steps of one thread on its own. -/
def alone (s : Store) (pc : Pc) (nows : List DateTime) : Store × Pc :=
  nows.foldl (fun r now => atomicStep sessionId config now r.1 r.2) (s, pc)

variable {sessionId config} (p : Pipeline) (env : Supply)

/-- **An end that runs alone is the sequential call**, as far as the two memories go. -/
theorem alone_eq_endSession (diskWrites : Bool) (actorId : Str) (n₁ n₂ : DateTime) :
    let r := result (Pipeline.endSession env diskWrites sessionId actorId) p
    let q := alone sessionId config (.start sessionId p.sessionMemories p.strategicMemory)
      (.readFingerprint diskWrites actorId) [n₁, env.now, n₂]
    q.1.sessionMemories = r.2.sessionMemories ∧ q.1.strategicMemory = r.2.strategicMemory ∧
      q.2 = .done (some r.1) := by
  cases hmem : p.sessionMemories.lookup sessionId <;>
    simp [alone, atomicStep, Pipeline.endSession, Store.start, hmem]

/-- **The steps of an inbound call** are the two calls of the pipeline on the memories. -/
theorem alone_eq_ingestToMemory (signal : GovernanceSignal)
    (classification : RequestClassification) (env' : Supply) :
    let r := (result (Pipeline.initSessionMemory env sessionId) p).2
    let r' := (result (Pipeline.ingestToMemory env' sessionId (some signal) classification) r).2
    let q := alone sessionId p.memoryConfig (.start sessionId p.sessionMemories p.strategicMemory)
      (.init signal classification) [env.now, env'.now]
    q.1.sessionMemories = r'.sessionMemories ∧ q.1.strategicMemory = r'.strategicMemory ∧
      q.2 = .done none := by
  cases hmem : p.sessionMemories.lookup sessionId <;>
    simp [alone, atomicStep, Pipeline.initSessionMemory, Pipeline.ingestToMemory, Store.start, hmem]

end Alone

/-! ### When no turn is lost or duplicated -/

variable {sessionId config} {ι : Type} {c : Config Store Pc ι} {x : ι × DateTime} {s : Store}

/-- The session has a memory. -/
def Store.Open (sessionId : Str) (s : Store) : Prop :=
  (s.sessionMemories.lookup sessionId).isSome = true

/-- The fingerprints ingested from one memory. -/
def Store.ingestedOf (s : Store) (number : ℕ) : List (ℕ × SessionFingerprint) :=
  s.ingested.filter fun e => e.1 = number

/-- An end between its read and its removal holds the memory it read. -/
def Holds (number : ℕ) : Pc → Prop
  | .ingestSession _ _ number' _ => number' = number
  | .removeMemory (some (number', _)) _ => number' = number
  | _ => False

/-- The end about to read finds no other one that holds the memory, and the end about to remove
finds the memory that it read, with no turn since. -/
def Exclusive (sessionId : Str) (c : Config Store Pc ι) (x : ι × DateTime) : Prop :=
  match c.thread x.1 with
  | .readFingerprint _ _ =>
    c.shared.Open sessionId → ∀ i, ¬ Holds c.shared.created (c.thread i)
  | .removeMemory read _ =>
    ∀ m, c.shared.sessionMemories.lookup sessionId = some m →
      ∃ f, read = some (c.shared.created, f) ∧ f.turnCount = m.turnCount
  | _ => True

/-- The memory that is ingested once, with all its turns. -/
def Store.IngestedOnce (s : Store) (r : ℕ × SessionMemory) : Prop :=
  ∃ f, s.ingestedOf r.1 = [(r.1, f)] ∧ f.turnCount = r.2.turnCount

lemma Accounted.of_ingestedOnce (h : ∀ r ∈ s.removed, s.IngestedOnce r) : Accounted s := by
  constructor
  · intro r hr
    obtain ⟨f, hf, -⟩ := h r hr
    rw [List.countP_eq_length_filter]
    exact congrArg List.length hf
  · intro r hr turn _ hle
    obtain ⟨f, hf, hcount⟩ := h r hr
    have hfilter : s.ingested.countP (fun e => e.1 = r.1 ∧ turn ≤ e.2.turnCount) =
        (s.ingestedOf r.1).countP fun e => turn ≤ e.2.turnCount := by
      rw [Store.ingestedOf, List.countP_filter]
      refine List.countP_congr fun e _ => ?_
      simp [and_comm]
    rw [hfilter, hf]
    simp [hcount, hle]

/-- At most one end holds a memory, and it is the one the session has; what is ingested follows
the ends that hold it. -/
structure Inv (sessionId : Str) (c : Config Store Pc ι) : Prop where
  current : ∀ i number, Holds number (c.thread i) →
    c.shared.Open sessionId ∧ number = c.shared.created
  unique : ∀ i j, Holds c.shared.created (c.thread i) → Holds c.shared.created (c.thread j) → i = j
  pending : ∀ i diskWrites actorId number f,
    c.thread i = .ingestSession diskWrites actorId number f → c.shared.ingestedOf number = []
  ingested : ∀ i number f persisted,
    c.thread i = .removeMemory (some (number, f)) persisted →
      c.shared.ingestedOf number = [(number, f)]
  fresh : c.shared.Open sessionId →
    c.shared.ingestedOf c.shared.created = [] ∨ ∃ i, Holds c.shared.created (c.thread i)
  bound : ∀ e ∈ c.shared.ingested, e.1 ≤ c.shared.created
  removed : ∀ r ∈ c.shared.removed, r.1 ≤ c.shared.created ∧
    (c.shared.Open sessionId → r.1 ≠ c.shared.created) ∧ c.shared.IngestedOnce r

/-- When nobody holds a memory, none has been ingested that is still to be removed. -/
lemma Inv.of_idle (hnone : ∀ i number, ¬ Holds number (c.thread i))
    (hfresh : c.shared.Open sessionId → c.shared.ingestedOf c.shared.created = [])
    (hbound : ∀ e ∈ c.shared.ingested, e.1 ≤ c.shared.created)
    (hremoved : ∀ r ∈ c.shared.removed, r.1 ≤ c.shared.created ∧
      (c.shared.Open sessionId → r.1 ≠ c.shared.created) ∧ c.shared.IngestedOnce r) :
    Inv sessionId c where
  current i number hh := absurd hh (hnone i number)
  unique i _ hi := absurd hi (hnone i _)
  pending i _ _ number _ hi := absurd (hi ▸ rfl) (hnone i number)
  ingested i number _ _ hi := absurd (hi ▸ rfl) (hnone i number)
  fresh ho := .inl (hfresh ho)
  bound := hbound
  removed := hremoved

/-! ### One step -/

lemma holds_ingestSession {diskWrites : Bool} {actorId : Str} {number number' : ℕ}
    {f : SessionFingerprint} :
    Holds number (.ingestSession diskWrites actorId number' f) ↔ number' = number := Iff.rfl

lemma holds_removeMemory {number number' : ℕ} {f : SessionFingerprint} {persisted : Bool} :
    Holds number (.removeMemory (some (number', f)) persisted) ↔ number' = number := Iff.rfl

lemma Store.ingestedOf_append (s : Store) (number number' : ℕ) (f : SessionFingerprint)
    (strategicMemory : StrategicMemory) :
    ({ s with
        strategicMemory
        ingested := s.ingested ++ [(number', f)] } : Store).ingestedOf number =
      s.ingestedOf number ++ if number' = number then [(number', f)] else [] := by
  simp only [Store.ingestedOf, List.filter_append]
  by_cases h : number' = number <;> simp [h]

section Step

variable {c' : Config Store Pc ι} {k : ι}

/-- A step that only moves a thread that holds nothing, before and after. -/
lemma Inv.quiet (h : Inv sessionId c) (hthread : ∀ i, i ≠ k → c'.thread i = c.thread i)
    (hbefore : ∀ number, ¬ Holds number (c.thread k))
    (hafter : ∀ number, ¬ Holds number (c'.thread k))
    (hopen : c'.shared.Open sessionId ↔ c.shared.Open sessionId)
    (hcreated : c'.shared.created = c.shared.created)
    (hingested : c'.shared.ingested = c.shared.ingested)
    (hremoved : c'.shared.removed = c.shared.removed) : Inv sessionId c' := by
  have hsame : ∀ {i}, i ≠ k → c.thread i = c'.thread i := fun hi => (hthread _ hi).symm
  have hne : ∀ {i number}, Holds number (c'.thread i) → i ≠ k := by
    rintro i number hh rfl
    exact hafter number hh
  have hof : ∀ number, c'.shared.ingestedOf number = c.shared.ingestedOf number :=
    fun number => by rw [Store.ingestedOf, hingested, Store.ingestedOf]
  constructor
  · intro i number hh
    rw [hopen, hcreated]
    exact h.current i number (hsame (hne hh) ▸ hh)
  · intro i j hi hj
    rw [hcreated] at hi hj
    exact h.unique i j (hsame (hne hi) ▸ hi) (hsame (hne hj) ▸ hj)
  · intro i diskWrites actorId number f hi
    have hheld : Holds number (c'.thread i) := hi ▸ rfl
    have hik : i ≠ k := hne hheld
    rw [hof]
    exact h.pending i diskWrites actorId number f ((hsame hik).trans hi)
  · intro i number f persisted hi
    have hheld : Holds number (c'.thread i) := hi ▸ rfl
    have hik : i ≠ k := hne hheld
    rw [hof]
    exact h.ingested i number f persisted ((hsame hik).trans hi)
  · rw [hopen, hcreated, hof]
    refine fun ho => (h.fresh ho).imp_right fun ⟨i, hi⟩ => ⟨i, ?_⟩
    have hik : i ≠ k := by
      rintro rfl
      exact hbefore _ hi
    rw [hthread i hik]
    exact hi
  · rw [hingested, hcreated]
    exact h.bound
  · intro r hr
    rw [hremoved] at hr
    obtain ⟨hle, hnew, f, hf, hcount⟩ := h.removed r hr
    exact ⟨hcreated ▸ hle, fun ho => hcreated ▸ hnew (hopen.mp ho), f, (hof _).trans hf, hcount⟩

variable (h : Inv sessionId c) (hthread : ∀ i, i ≠ k → c'.thread i = c.thread i)

include h hthread in
/-- A new memory is created when the session has none, and then nobody holds one. -/
lemma Inv.created {mem : SessionMemory} (hclosed : ¬ c.shared.Open sessionId)
    (hafter : ∀ number, ¬ Holds number (c'.thread k))
    (hshared : c'.shared = { c.shared with
      sessionMemories := c.shared.sessionMemories.insert sessionId mem
      created := c.shared.created + 1 }) : Inv sessionId c' := by
  have hnone : ∀ i number, ¬ Holds number (c'.thread i) := by
    intro i number hh
    by_cases hi : i = k
    · exact hafter number (hi ▸ hh)
    · exact hclosed (h.current i number (hthread i hi ▸ hh)).1
  have hof : ∀ number, c'.shared.ingestedOf number = c.shared.ingestedOf number := by
    intro number
    rw [hshared]
    rfl
  refine .of_idle hnone ?_ ?_ ?_
  · intro _
    rw [hof, hshared, Store.ingestedOf, List.filter_eq_nil_iff]
    intro e he
    have hle := h.bound e he
    simp only [decide_eq_true_eq]
    omega
  · intro e he
    rw [hshared] at he ⊢
    exact (h.bound e he).trans (Nat.le_succ _)
  · intro r hr
    rw [hshared] at hr
    obtain ⟨hle, -, f, hf, hcount⟩ := h.removed r hr
    have hcreated : c'.shared.created = c.shared.created + 1 := by rw [hshared]
    refine ⟨by omega, fun _ => by omega, f, (hof _).trans hf, hcount⟩

include h hthread in
/-- An end that reads a memory is the only one to hold it. -/
lemma Inv.read {diskWrites : Bool} {actorId : Str} {f : SessionFingerprint}
    (ho : c.shared.Open sessionId) (hnone : ∀ i, ¬ Holds c.shared.created (c.thread i))
    (hk : c'.thread k = .ingestSession diskWrites actorId c.shared.created f)
    (hshared : c'.shared = c.shared) : Inv sessionId c' := by
  have honly : ∀ {i number}, Holds number (c'.thread i) → i = k := by
    intro i number hh
    by_contra hi
    rw [hthread i hi] at hh
    exact hnone i ((h.current i number hh).2 ▸ hh)
  have hempty : c.shared.ingestedOf c.shared.created = [] :=
    (h.fresh ho).resolve_right fun ⟨i, hi⟩ => hnone i hi
  constructor
  · intro i number hh
    obtain rfl := honly hh
    rw [hk, holds_ingestSession] at hh
    rw [hshared]
    exact ⟨ho, hh.symm⟩
  · exact fun i j hi hj => (honly hi).trans (honly hj).symm
  · intro i diskWrites' actorId' number f' hi
    have hh : Holds number (c'.thread i) := hi ▸ rfl
    obtain rfl := honly hh
    rw [hk] at hi
    cases hi
    rw [hshared]
    exact hempty
  · intro i number f' persisted hi
    have hh : Holds number (c'.thread i) := hi ▸ rfl
    obtain rfl := honly hh
    rw [hk] at hi
    cases hi
  · rw [hshared]
    exact fun _ => .inl hempty
  · rw [hshared]
    exact h.bound
  · rw [hshared]
    exact h.removed

include h hthread in
/-- The end that holds the memory ingests its fingerprint. -/
lemma Inv.ingest {diskWrites persisted : Bool} {actorId : Str} {number : ℕ}
    {f : SessionFingerprint} {strategicMemory : StrategicMemory}
    (hbefore : c.thread k = .ingestSession diskWrites actorId number f)
    (hk : c'.thread k = .removeMemory (some (number, f)) persisted)
    (hshared : c'.shared =
      { c.shared with strategicMemory, ingested := c.shared.ingested ++ [(number, f)] }) :
    Inv sessionId c' := by
  have hheld : Holds number (c.thread k) := hbefore ▸ rfl
  obtain ⟨ho, rfl⟩ := h.current k number hheld
  have hopen : c'.shared.Open sessionId ↔ c.shared.Open sessionId := by rw [hshared]; rfl
  have hcreated : c'.shared.created = c.shared.created := by rw [hshared]
  have hof : ∀ number', c'.shared.ingestedOf number' = c.shared.ingestedOf number' ++
      if c.shared.created = number' then [(c.shared.created, f)] else [] := fun number' => by
    rw [hshared, Store.ingestedOf_append]
  have honly : ∀ {i number'}, Holds number' (c'.thread i) → i = k := by
    intro i number' hh
    by_contra hi
    rw [hthread i hi] at hh
    exact hi (h.unique i k ((h.current i number' hh).2 ▸ hh) hheld)
  constructor
  · intro i number' hh
    obtain rfl := honly hh
    rw [hk, holds_removeMemory] at hh
    exact ⟨hopen.mpr ho, hh.symm.trans hcreated.symm⟩
  · exact fun i j hi hj => (honly hi).trans (honly hj).symm
  · intro i _ _ number' f' hi
    have hh : Holds number' (c'.thread i) := hi ▸ rfl
    obtain rfl := honly hh
    rw [hk] at hi
    cases hi
  · intro i number' f' persisted' hi
    have hh : Holds number' (c'.thread i) := hi ▸ rfl
    obtain rfl := honly hh
    rw [hk] at hi
    cases hi
    rw [hof, h.pending i _ _ _ _ hbefore]
    simp
  · refine fun _ => .inr ⟨k, ?_⟩
    rw [hk, hcreated]
    rfl
  · intro e he
    rw [hshared] at he
    rw [hcreated]
    rcases List.mem_append.mp he with hold | hnew
    · exact h.bound e hold
    · rw [List.mem_singleton.mp hnew]
  · intro r hr
    rw [hshared] at hr
    obtain ⟨hle, hnew, f', hf', hcount⟩ := h.removed r hr
    have hne : c.shared.created ≠ r.1 := (hnew ho).symm
    refine ⟨hcreated ▸ hle, fun _ => hcreated ▸ hnew ho, f', ?_, hcount⟩
    rw [hof, if_neg hne, List.append_nil, hf']

include h hthread in
/-- The end that holds the memory removes it. -/
lemma Inv.remove {persisted : Bool} {f : SessionFingerprint} {m : SessionMemory}
    (hbefore : c.thread k = .removeMemory (some (c.shared.created, f)) persisted)
    (hcount : f.turnCount = m.turnCount) (hafter : ∀ number, ¬ Holds number (c'.thread k))
    (hshared : c'.shared = { c.shared with
      sessionMemories := c.shared.sessionMemories.erase sessionId
      removed := c.shared.removed ++ [(c.shared.created, m)] }) : Inv sessionId c' := by
  have hheld : Holds c.shared.created (c.thread k) := hbefore ▸ rfl
  have hnone : ∀ i number, ¬ Holds number (c'.thread i) := by
    intro i number hh
    by_cases hi : i = k
    · exact hafter number (hi ▸ hh)
    · rw [hthread i hi] at hh
      exact hi (h.unique i k ((h.current i number hh).2 ▸ hh) hheld)
  have hclosed : ¬ c'.shared.Open sessionId := by
    rw [hshared, Store.Open, Finmap.lookup_erase]
    exact Bool.false_ne_true
  have hof : ∀ number, c'.shared.ingestedOf number = c.shared.ingestedOf number := by
    intro number
    rw [hshared]
    rfl
  refine .of_idle hnone (fun ho => absurd ho hclosed) ?_ ?_
  · rw [hshared]
    exact h.bound
  · intro r hr
    have hcreated : c'.shared.created = c.shared.created := by rw [hshared]
    rw [hshared] at hr
    rcases List.mem_append.mp hr with hold | hnew
    · obtain ⟨hle, -, f', hf', hcount'⟩ := h.removed r hold
      exact ⟨hcreated ▸ hle, fun ho => absurd ho hclosed, f', (hof _).trans hf', hcount'⟩
    · obtain rfl := List.mem_singleton.mp hnew
      exact ⟨hcreated.ge, fun ho => absurd ho hclosed, f,
        (hof _).trans (h.ingested k _ f persisted hbefore), hcount⟩

end Step

/-- A call of `inbound` or of `end_session` on the session. -/
inductive Call
  | inbound (signal : GovernanceSignal) (classification : RequestClassification)
  | endSession (diskWrites : Bool) (actorId : Str)

def Call.start : Call → Pc
  | .inbound signal classification => .init signal classification
  | .endSession diskWrites actorId => .readFingerprint diskWrites actorId

lemma Call.not_holds (call : Call) (number : ℕ) : ¬ Holds number call.start := by
  cases call <;> exact id

/-- The memories of a pipeline with one thread for each call. -/
def calls (sessionId : Str) (sessionMemories : HashMap Str SessionMemory)
    (strategicMemory : StrategicMemory) (call : ι → Call) : Config Store Pc ι where
  shared := .start sessionId sessionMemories strategicMemory
  thread i := (call i).start

lemma inv_calls {sessionMemories : HashMap Str SessionMemory} {strategicMemory : StrategicMemory}
    {call : ι → Call} : Inv sessionId (calls sessionId sessionMemories strategicMemory call) := by
  have hnone : ∀ i number,
      ¬ Holds number ((calls sessionId sessionMemories strategicMemory call).thread i) :=
    fun i number => (call i).not_holds number
  exact .of_idle hnone (fun _ => rfl) (fun _ he => absurd he List.not_mem_nil)
    fun _ hr => absurd hr List.not_mem_nil

variable [DecidableEq ι]

/-- **One exclusive step**, by cases on where the call stands. -/
theorem Inv.stepAt (h : Inv sessionId c) (hx : Exclusive sessionId c x) :
    Inv sessionId (c.stepAt (atomicStep sessionId config) x) := by
  have hthread : ∀ i, i ≠ x.1 →
      (c.stepAt (atomicStep sessionId config) x).thread i = c.thread i :=
    fun i hi => Config.stepAt_thread_of_ne hi
  have hself : (c.stepAt (atomicStep sessionId config) x).thread x.1 =
      (atomicStep sessionId config x.2 c.shared (c.thread x.1)).2 := Config.stepAt_thread_self x
  have hshared : (c.stepAt (atomicStep sessionId config) x).shared =
      (atomicStep sessionId config x.2 c.shared (c.thread x.1)).1 := rfl
  unfold Exclusive at hx
  cases hpc : c.thread x.1 with
  | init signal classification =>
    rw [hpc] at hself hshared
    have hbefore : ∀ number, ¬ Holds number (c.thread x.1) := fun _ => by rw [hpc]; exact id
    have hafter : ∀ number, ¬ Holds number
        ((c.stepAt (atomicStep sessionId config) x).thread x.1) := fun _ => by rw [hself]; exact id
    cases hmem : c.shared.sessionMemories.lookup sessionId with
    | some m =>
      simp only [atomicStep, hmem] at hshared
      exact h.quiet hthread hbefore hafter (by rw [hshared]) (by rw [hshared]) (by rw [hshared])
        (by rw [hshared])
    | none =>
      simp only [atomicStep, hmem] at hshared
      exact h.created hthread (by simp [Store.Open, hmem]) hafter hshared
  | ingestSignal signal classification =>
    rw [hpc] at hself hshared
    have hbefore : ∀ number, ¬ Holds number (c.thread x.1) := fun _ => by rw [hpc]; exact id
    have hafter : ∀ number, ¬ Holds number
        ((c.stepAt (atomicStep sessionId config) x).thread x.1) := fun _ => by rw [hself]; exact id
    cases hmem : c.shared.sessionMemories.lookup sessionId with
    | some m =>
      simp only [atomicStep, hmem] at hshared
      exact h.quiet hthread hbefore hafter (by simp [hshared, Store.Open, hmem]) (by rw [hshared])
        (by rw [hshared]) (by rw [hshared])
    | none =>
      simp only [atomicStep, hmem] at hshared
      exact h.quiet hthread hbefore hafter (by rw [hshared]) (by rw [hshared]) (by rw [hshared])
        (by rw [hshared])
  | readFingerprint diskWrites actorId =>
    rw [hpc] at hself hshared hx
    cases hmem : c.shared.sessionMemories.lookup sessionId with
    | some m =>
      have ho : c.shared.Open sessionId := by simp [Store.Open, hmem]
      simp only [atomicStep, hmem] at hself
      exact h.read hthread ho (hx ho) hself hshared
    | none =>
      simp only [atomicStep, hmem] at hself
      refine h.quiet hthread (fun _ => ?_) (fun _ => ?_) (by rw [hshared]; rfl)
        (by rw [hshared]; rfl)
        (by rw [hshared]; rfl) (by rw [hshared]; rfl)
      · rw [hpc]
        exact id
      · rw [hself]
        exact id
  | ingestSession diskWrites actorId number f =>
    rw [hpc] at hself hshared
    exact h.ingest hthread hpc hself hshared
  | removeMemory read persisted =>
    rw [hpc] at hself hshared hx
    have hafter : ∀ number, ¬ Holds number
        ((c.stepAt (atomicStep sessionId config) x).thread x.1) := fun _ => by rw [hself]; exact id
    cases hmem : c.shared.sessionMemories.lookup sessionId with
    | some m =>
      obtain ⟨f, rfl, hcount⟩ := hx m hmem
      simp only [atomicStep, hmem] at hshared
      exact h.remove hthread hpc hcount hafter hshared
    | none =>
      simp only [atomicStep, hmem, Option.map_none, Option.toList_none, List.append_nil] at hshared
      have hclosed : ¬ c.shared.Open sessionId := by simp [Store.Open, hmem]
      refine h.quiet hthread (fun number hh => hclosed (h.current x.1 number hh).1) hafter ?_
        (by rw [hshared]) (by rw [hshared]) (by rw [hshared])
      simp [hshared, Store.Open, hmem]
  | done persisted =>
    rw [hpc] at hself hshared
    refine h.quiet hthread (fun _ => ?_) (fun _ => ?_) (by rw [hshared]; rfl) (by rw [hshared]; rfl)
      (by rw [hshared]; rfl) (by rw [hshared]; rfl)
    · rw [hpc]
      exact id
    · rw [hself]
      exact id

/-- **No turn is lost or duplicated** in a schedule whose steps are all exclusive: at its end,
and so at the end of each part of it, every removed memory has been ingested once, with all its
turns. -/
theorem accounted_of_exclusive {sessionMemories : HashMap Str SessionMemory}
    {strategicMemory : StrategicMemory} {call : ι → Call} {xs : List (ι × DateTime)}
    (h : Config.Always (atomicStep sessionId config) (Exclusive sessionId)
      (calls sessionId sessionMemories strategicMemory call) xs) :
    Accounted ((calls sessionId sessionMemories strategicMemory call).exec
      (atomicStep sessionId config) xs).shared := by
  have hinv : Inv sessionId ((calls sessionId sessionMemories strategicMemory call).exec
      (atomicStep sessionId config) xs) :=
    h.invariant inv_calls fun _ _ hI hx => hI.stepAt hx
  exact .of_ingestedOnce fun r hr => (hinv.removed r hr).2.2

/-! ### Two races -/

/-- Session `s` has a memory without turns. -/
def freshMemories : HashMap Str SessionMemory :=
  (∅ : HashMap Str SessionMemory).insert "s" (SessionMemory.new 0 "s")

/-- A clean signal for session `s`. -/
def turnSignal : GovernanceSignal :=
  (cleanSignal .sentinel .inbound "s" []).build (fixedSupply 0 0)

/-- One turn and one end of the session. -/
def turnAndEnd : Bool → Call
  | false => .inbound turnSignal .benign
  | true => .endSession false "a"

def twoEnds : Bool → Call := fun _ => .endSession false "a"

/-- The turn, and then the end. -/
def inTurn : List (Bool × DateTime) := [(false, 0), (false, 1), (true, 2), (true, 3), (true, 4)]

theorem accounted_inTurn :
    Accounted ((calls "s" ∅ .new turnAndEnd).exec (atomicStep "s" .default) inTurn).shared :=
  accounted_of_exclusive <| by
    simp only [inTurn, Config.Always.cons_iff]
    refine ⟨trivial, trivial, ?_, trivial, ?_, fun pre x post hnil => by simp at hnil⟩
    · rintro - (_ | _) <;> exact id
    · rintro m hm
      exact ⟨_, rfl, congrArg SessionMemory.turnCount (Option.some.inj hm)⟩

/-- **A lost turn and a duplicated one.** The turn lands after the read of the end that removes
it; two ends read one memory and both ingest it. -/
theorem not_accounted :
    ¬ Accounted ((calls "s" freshMemories .new turnAndEnd).exec (atomicStep "s" .default)
      [(false, 0), (true, 1), (false, 2), (true, 3), (true, 4)]).shared ∧
    ¬ Accounted ((calls "s" freshMemories .new twoEnds).exec (atomicStep "s" .default)
      [(false, 0), (true, 1), (false, 2), (true, 3), (false, 4)]).shared := by
  constructor
  · intro h
    have hlost : ∃ r ∈ ((calls "s" freshMemories .new turnAndEnd).exec (atomicStep "s" .default)
        [(false, 0), (true, 1), (false, 2), (true, 3), (true, 4)]).shared.removed,
        1 ≤ r.2.turnCount ∧ ((calls "s" freshMemories .new turnAndEnd).exec
          (atomicStep "s" .default) [(false, 0), (true, 1), (false, 2), (true, 3),
          (true, 4)]).shared.ingested.countP (fun e => e.1 = r.1 ∧ 1 ≤ e.2.turnCount) ≠ 1 := by
      decide +kernel
    obtain ⟨r, hr, hturn, hcount⟩ := hlost
    exact hcount (h.turns r hr 1 le_rfl hturn)
  · intro h
    have htwice : ∃ r ∈ ((calls "s" freshMemories .new twoEnds).exec (atomicStep "s" .default)
        [(false, 0), (true, 1), (false, 2), (true, 3), (false, 4)]).shared.removed,
        ((calls "s" freshMemories .new twoEnds).exec (atomicStep "s" .default)
          [(false, 0), (true, 1), (false, 2), (true, 3), (false, 4)]).shared.ingested.countP
          (fun e => e.1 = r.1) ≠ 1 := by
      decide +kernel
    obtain ⟨r, hr, hcount⟩ := htwice
    exact hcount (h.once r hr)

end GovSec.SessionEnd
