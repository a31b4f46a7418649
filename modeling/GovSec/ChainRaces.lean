import GovSec.Arbiter
import GovSec.Lib.Chain
import GovSec.Lib.Threads

/-!
Concurrent writers of the hash chain.

Every layer emits a record in two steps that each hold the lock of the chain: it reads the
latest hash, which the record stores as the previous one, and it extends the chain, whose new
head the record stores as the current one. The chain itself is always linked. The records are
when no writer comes between the two steps of another.
-/

namespace GovSec.CryptoEngine

open GovSec.Lib.Text GovSec.Lib.Chain GovSec.Lib.Threads

variable (P : Platform)

/-- The chain fields of an emitted record, with the text it was hashed for. -/
structure Link where
  previousHash : Str
  canonical : Str
  currentHash : Str
  deriving DecidableEq

/-- The chain, and the links of the records emitted so far. -/
structure Emission where
  crypto : CryptoEngine
  links : List Link

/-- A thread: the texts it still has to emit, and the hash it has read for the next one. -/
structure Writer where
  texts : List Str
  read : Option Str

/-- One lock-guarded step: `get_latest_hash`, then `extend_chain`. -/
def emitStep : Atomic Emission Writer Unit := fun _ s w =>
  match w.texts, w.read with
  | [], _ => (s, w)
  | _ :: _, none => (s, { w with read := some s.crypto.getLatestHash })
  | canonical :: rest, some previousHash =>
    let (currentHash, crypto) := s.crypto.extendChain P canonical
    (⟨crypto, s.links ++ [⟨previousHash, canonical, currentHash⟩]⟩, ⟨rest, none⟩)

/-- The emitted records form a single chain. -/
structure SingleChain (links : List Link) : Prop where
  linked : ∀ l ∈ links, l.currentHash = computeHash P (l.previousHash ++ l.canonical)
  distinct : (links.map Link.previousHash).Nodup

instance : DecidablePred (SingleChain P) := fun links =>
  decidable_of_iff ((∀ l ∈ links, l.currentHash = computeHash P (l.previousHash ++ l.canonical)) ∧
    (links.map Link.previousHash).Nodup) ⟨fun h => ⟨h.1, h.2⟩, fun h => ⟨h.1, h.2⟩⟩

/-- The texts that a hash of the chain is, or is claimed to be, the hash of. -/
def hashedTexts (seed : Str) (s : Emission) : List Str :=
  seed :: s.crypto.hashChain.flatMap fun h => s.links.map fun l => h ++ l.canonical

/-- No two of the texts have one hash. -/
def CollisionFree (ts : List Str) : Prop :=
  ∀ t ∈ ts, ∀ t' ∈ ts, computeHash P t = computeHash P t' → t = t'

instance : DecidablePred (CollisionFree P) := fun ts =>
  inferInstanceAs (Decidable (∀ t ∈ ts, ∀ t' ∈ ts, computeHash P t = computeHash P t' → t = t'))

/-! ### One writer alone -/

variable {P}

/-- **The two steps are those of a signal.** -/
theorem emitStep_attachCrypto (env : Supply) (s : Emission) (b : SignalBuilder) :
    let signal := (attachCrypto P env s.crypto b).1
    let r := emitStep P () s ⟨[signal.canonical], none⟩
    ∃ link, (emitStep P () r.1 r.2).1 = ⟨(attachCrypto P env s.crypto b).2, s.links ++ [link]⟩ ∧
      signal.previousHash = some link.previousHash ∧
      signal.currentHash = some link.currentHash := by
  intro signal r
  exact ⟨⟨s.crypto.getLatestHash, signal.canonical, (s.crypto.extendChain P signal.canonical).1⟩,
    rfl, rfl, rfl⟩

/-- **The two steps are those of an audit entry.** -/
theorem emitStep_writeAuditEntry (env : Supply) (s : Emission) (a : Arbiter) (sessionId : Str)
    (before after : SecurityState) (signal : GovernanceSignal) :
    ∃ canonical entry, (Arbiter.writeAuditEntry P env s.crypto a sessionId before after
        signal).1.auditLog = a.auditLog ++ [entry] ∧
      let r := emitStep P () s ⟨[canonical], none⟩
      (emitStep P () r.1 r.2).1 =
        ⟨(Arbiter.writeAuditEntry P env s.crypto a sessionId before after signal).2,
          s.links ++ [⟨entry.prevChainHash, canonical, entry.currentChainHash⟩]⟩ :=
  ⟨_, _, rfl, rfl⟩

/-! ### What a schedule keeps -/

variable {ι : Type}

/-- An engine started from a seed, with one thread for each list of texts. -/
def emitters (P : Platform) (seed : Str) (texts : ι → List Str) : Config Emission Writer ι where
  shared := ⟨new P seed, []⟩
  thread i := ⟨texts i, none⟩

/-- The thread about to extend the chain finds the head it has read. -/
def Undisturbed (c : Config Emission Writer ι) (x : ι × Unit) : Prop :=
  ∀ canonical rest previousHash, c.thread x.1 = ⟨canonical :: rest, some previousHash⟩ →
    c.shared.crypto.getLatestHash = previousHash

variable {c : Config Emission Writer ι} {x : ι × Unit} {seed : Str} {texts : ι → List Str}

/-- The chain is not empty, its members are hashes, and so is what a thread has read. -/
structure Chained (P : Platform) (c : Config Emission Writer ι) : Prop where
  ne_nil : c.shared.crypto.hashChain ≠ []
  length : ∀ h ∈ c.shared.crypto.hashChain, h.length = 64
  read : ∀ i h, (c.thread i).read = some h → h ∈ c.shared.crypto.hashChain

lemma Chained.latest_mem (h : Chained P c) :
    c.shared.crypto.getLatestHash ∈ c.shared.crypto.hashChain := by
  rw [getLatestHash, List.getLast?_eq_some_getLast h.ne_nil]
  exact List.getLast_mem h.ne_nil

lemma chained_emitters : Chained P (emitters P seed texts) where
  ne_nil := by simp [emitters, new]
  length := by simp [emitters, new]
  read i h hr := by cases hr

variable [DecidableEq ι]

/-- A step extends the chain with a link, or leaves both alone. -/
lemma stepAt_cases : (c.stepAt (emitStep P) x).shared = c.shared ∨
    ∃ canonical rest previousHash, c.thread x.1 = ⟨canonical :: rest, some previousHash⟩ ∧
      (c.stepAt (emitStep P) x).shared =
        ⟨(c.shared.crypto.extendChain P canonical).2, c.shared.links ++
          [⟨previousHash, canonical, (c.shared.crypto.extendChain P canonical).1⟩]⟩ := by
  rcases hw : c.thread x.1 with ⟨_ | ⟨canonical, rest⟩, _ | previousHash⟩
  · exact .inl (by simp [Config.stepAt, hw, emitStep])
  · exact .inl (by simp [Config.stepAt, hw, emitStep])
  · exact .inl (by simp [Config.stepAt, hw, emitStep])
  · exact .inr ⟨canonical, rest, previousHash, rfl, by simp [Config.stepAt, hw, emitStep]⟩

/-- Chain and links only grow. -/
def Grows (s s' : Emission) : Prop :=
  s.crypto.hashChain ⊆ s'.crypto.hashChain ∧ s.links ⊆ s'.links

lemma grows_exec (xs : List (ι × Unit)) : Grows c.shared (c.exec (emitStep P) xs).shared := by
  refine Config.exec_related (fun _ => ⟨fun _ => id, fun _ => id⟩)
    (fun _ _ _ h h' => ⟨fun _ hd => h'.1 (h.1 hd), fun _ hl => h'.2 (h.2 hl)⟩) (fun c x => ?_) xs
  rcases stepAt_cases (P := P) (c := c) (x := x) with heq | ⟨_, _, _, -, heq⟩
  · rw [heq]
    exact ⟨fun _ => id, fun _ => id⟩
  · rw [heq]
    exact ⟨List.subset_append_left _ _, List.subset_append_left _ _⟩

lemma Chained.stepAt (h : Chained P c) : Chained P (c.stepAt (emitStep P) x) := by
  have hlatest := h.latest_mem
  have hread : ∀ i r, (c.thread i).read = some r → r ∈ c.shared.crypto.hashChain := h.read
  have hgrow : c.shared.crypto.hashChain ⊆ (c.stepAt (emitStep P) x).shared.crypto.hashChain :=
    (grows_exec (P := P) (c := c) [x]).1
  constructor
  · exact fun hnil => h.ne_nil (List.eq_nil_of_subset_nil (hnil ▸ hgrow))
  · rcases stepAt_cases (P := P) (c := c) (x := x) with heq | ⟨_, _, _, -, heq⟩
    · rw [heq]
      exact h.length
    · rw [heq]
      intro d hd
      rcases List.mem_append.mp hd with hold | hnew
      · exact h.length d hold
      · rw [List.mem_singleton.mp hnew, length_computeHash]
  · intro i r hr
    by_cases hi : i = x.1
    · subst hi
      rcases hw : c.thread x.1 with ⟨_ | ⟨canonical, rest⟩, _ | previousHash⟩ <;>
        simp only [Config.stepAt, hw, emitStep, Function.update_self] at hr hgrow ⊢
      · cases hr
      · exact hread x.1 r (by rw [hw]; exact hr)
      · exact Option.some.inj hr ▸ hlatest
      · cases hr
    · have hsame : (c.stepAt (emitStep P) x).thread i = c.thread i :=
        Function.update_of_ne hi _ _
      exact hgrow (hread i r (hsame ▸ hr))

lemma chained_exec (xs : List (ι × Unit)) :
    Chained P ((emitters P seed texts).exec (emitStep P) xs) :=
  Config.exec_invariant chained_emitters (fun _ _ => Chained.stepAt) xs

lemma mem_hashedTexts {s : Emission} {h : Str} {l : Link} (hh : h ∈ s.crypto.hashChain)
    (hl : l ∈ s.links) : h ++ l.canonical ∈ hashedTexts seed s :=
  List.mem_cons_of_mem _ (List.mem_flatMap.mpr ⟨h, hh, List.mem_map_of_mem hl⟩)

/-! ### When the records form a chain -/

/-- The links are those of the chain, one after another. -/
structure Linear (P : Platform) (seed : Str) (s : Emission) : Prop where
  chain : s.crypto.hashChain = computeHash P seed :: s.links.map Link.currentHash
  linked : Linked Link.previousHash Link.currentHash (computeHash P seed) s.links
  hashed : ∀ l ∈ s.links, l.currentHash = computeHash P (l.previousHash ++ l.canonical)

lemma Linear.latest {s : Emission} (h : Linear P seed s) :
    s.crypto.getLatestHash = head Link.currentHash (computeHash P seed) s.links := by
  have hlast : s.crypto.hashChain =
      s.links.map Link.previousHash ++ [head Link.currentHash (computeHash P seed) s.links] := by
    rw [h.chain, h.linked.map_prev_concat]
  simp [getLatestHash, hlast]

/-- **One undisturbed step** appends the next link. -/
lemma Linear.stepAt (h : Linear P seed c.shared) (hx : Undisturbed c x) :
    Linear P seed (c.stepAt (emitStep P) x).shared := by
  rcases stepAt_cases (P := P) (c := c) (x := x) with
    heq | ⟨canonical, rest, previousHash, hw, heq⟩
  · rw [heq]
    exact h
  · have hlatest := hx canonical rest previousHash hw
    rw [heq]
    constructor
    · simp [extendChain, h.chain]
    · rw [linked_concat]
      exact ⟨h.linked, by rw [← h.latest, hlatest]⟩
    · intro l hl
      rcases List.mem_append.mp hl with hold | hnew
      · exact h.hashed l hold
      · obtain rfl := List.mem_singleton.mp hnew
        simp [extendChain, hlatest]

/-- A linear emission without collisions is a single chain: no hash comes back, and the seed is
too short to be a hashed link. -/
lemma Linear.singleChain {s : Emission} (h : Linear P seed s) (hseed : seed.length < 64)
    (hlen : ∀ d ∈ s.crypto.hashChain, d.length = 64)
    (hcf : CollisionFree P (hashedTexts seed s)) : SingleChain P s.links := by
  have hprev : ∀ l ∈ s.links, l.previousHash ∈ s.crypto.hashChain := by
    intro l hl
    rw [h.chain, ← h.linked.map_prev_concat]
    exact List.mem_append_left _ (List.mem_map_of_mem hl)
  have hnodup : (computeHash P seed :: s.links.map Link.currentHash).Nodup := by
    refine h.linked.nodup (fun l hl heq => ?_) fun l hl l' hl' heq => ?_
    · rw [h.hashed l hl] at heq
      have hs := hcf _ (mem_hashedTexts (hprev l hl) hl) seed List.mem_cons_self heq
      have hl64 := hlen _ (hprev l hl)
      rw [← hs, List.length_append] at hseed
      omega
    · rw [h.hashed l hl, h.hashed l' hl'] at heq
      have hs := hcf _ (mem_hashedTexts (hprev l hl) hl) _ (mem_hashedTexts (hprev l' hl') hl') heq
      exact (List.append_inj hs ((hlen _ (hprev l hl)).trans (hlen _ (hprev l' hl')).symm)).1
  refine ⟨h.hashed, ?_⟩
  rw [← h.linked.map_prev_concat] at hnodup
  exact (List.nodup_append.mp hnodup).1

/-- **When the emitted records form a single chain.** For any threads, texts and schedule,
without collisions: exactly when every writer that extends the chain still finds the head it
has read. -/
theorem singleChain_iff (hseed : seed.length < 64) (texts : ι → List Str) (xs : List (ι × Unit))
    (hcf : CollisionFree P
      (hashedTexts seed ((emitters P seed texts).exec (emitStep P) xs).shared)) :
    SingleChain P ((emitters P seed texts).exec (emitStep P) xs).shared.links ↔
      Config.Always (emitStep P) Undisturbed (emitters P seed texts) xs := by
  constructor
  · rintro ⟨hlinked, -⟩ pre x post rfl canonical rest previousHash hw
    set c := (emitters P seed texts).exec (emitStep P) pre with hc
    rw [Config.exec_append, Config.exec_cons, ← hc] at hlinked hcf
    have hchained : Chained P c := chained_exec pre
    have hgrow := grows_exec (P := P) (c := c) (x :: post)
    rw [Config.exec_cons] at hgrow
    set final := ((c.stepAt (emitStep P) x).exec (emitStep P) post).shared
    -- the link that this step emits
    have hmem : Link.mk previousHash canonical (c.shared.crypto.extendChain P canonical).1 ∈
        final.links := by
      refine (grows_exec post).2 ?_
      simp [Config.stepAt, hw, emitStep]
    have hlatest : c.shared.crypto.getLatestHash ∈ final.crypto.hashChain :=
      hgrow.1 hchained.latest_mem
    have hprevious : previousHash ∈ final.crypto.hashChain :=
      hgrow.1 (hchained.read x.1 previousHash (by rw [hw]))
    have heq := hcf _ (mem_hashedTexts hlatest hmem) _ (mem_hashedTexts hprevious hmem)
      (hlinked _ hmem)
    exact List.append_cancel_right heq
  · intro h
    have hstart : Linear P seed (emitters P seed texts).shared :=
      ⟨rfl, trivial, fun _ hl => absurd hl List.not_mem_nil⟩
    have hlinear : Linear P seed ((emitters P seed texts).exec (emitStep P) xs).shared :=
      h.invariant (I := fun c => Linear P seed c.shared) hstart fun _ _ hI hx => hI.stepAt hx
    exact hlinear.singleChain hseed (chained_exec xs).length hcf

/-! ### Two writers -/

/-- A platform whose hash mixes all characters of the text. -/
def mixingPlatform : Platform :=
  fixedPlatform (fun t =>
    let n := t.foldl (fun acc c => (acc * 31 + c.toNat) % 65521) 7
    ⟨List.replicate 60 0 ++ [Fin.ofNat 16 n, Fin.ofNat 16 (n / 16), Fin.ofNat 16 (n / 256),
      Fin.ofNat 16 (n / 4096)], rfl⟩) fun _ _ => false

/-- Each of two threads emits one record. -/
def twoTexts : Bool → List Str
  | false => ["a"]
  | true => ["b"]

/-- One record after the other. -/
def inTurn : List (Bool × Unit) := [(false, ()), (false, ()), (true, ()), (true, ())]

/-- Both threads read before either extends. -/
def interleaved : List (Bool × Unit) := [(false, ()), (true, ()), (false, ()), (true, ())]

theorem singleChain_iff_inTurn :
    SingleChain mixingPlatform ((emitters mixingPlatform "logos_governance_v1_seed" twoTexts).exec
        (emitStep mixingPlatform) inTurn).shared.links ↔
      Config.Always (emitStep mixingPlatform) Undisturbed
        (emitters mixingPlatform "logos_governance_v1_seed" twoTexts) inTurn :=
  singleChain_iff (by decide) twoTexts inTurn (by decide +kernel)

/-- **Two records with one previous hash.** Without any collision, the second record names the
hash that the first one names, and its current hash is not the one of its own fields. -/
theorem interleaved_not_singleChain :
    let s := ((emitters mixingPlatform "logos_governance_v1_seed" twoTexts).exec
      (emitStep mixingPlatform) interleaved).shared
    CollisionFree mixingPlatform (hashedTexts "logos_governance_v1_seed" s) ∧
      ¬ SingleChain mixingPlatform s.links := by
  decide +kernel

end GovSec.CryptoEngine
