import GovSec.VerdictLedger
import GovSec.Lib.Runs
import GovSec.Lib.Histories

/-!
What the ledger of final approvals finds again.

Both indexes keep an approval under one text, made of two with a bar between them. A text with one
bar can be taken apart in one way only, and one with more bars in several, of which the ledger
cannot tell the approved one.
-/

namespace GovSec

open GovSec.Lib.Text GovSec.Lib.Maps GovSec.Lib.Runs GovSec.Lib.Histories

/-! ### Pairs and their keys -/

variable {p q : Str × Str}

/-- The key of a pair. -/
def pairKey (p : Str × Str) : Str := indexKey p.1 p.2

/-- No text of the pair has a bar. -/
def BarFree (p : Str × Str) : Prop := '|' ∉ p.1 ∧ '|' ∉ p.2

instance : Decidable (BarFree p) := inferInstanceAs (Decidable (_ ∧ _))

lemma count_pairKey (p : Str × Str) :
    (pairKey p).count '|' = p.1.count '|' + p.2.count '|' + 1 := by
  simp only [pairKey, indexKey, List.count_append, List.count_cons_self]
  omega

lemma barFree_iff_count : BarFree p ↔ (pairKey p).count '|' = 1 := by
  rw [count_pairKey, BarFree, ← List.count_eq_zero, ← List.count_eq_zero]
  omega

lemma pairKey_inj_of_barFree (hp : BarFree p) (h : pairKey p = pairKey q) : p = q := by
  have hq : BarFree q := by rwa [barFree_iff_count, ← h, ← barFree_iff_count]
  have hcount : p.1.count '|' = q.1.count '|' := by
    rw [List.count_eq_zero.mpr hp.1, List.count_eq_zero.mpr hq.1]
  exact Prod.ext_iff.mpr (append_sep_inj hcount h)

/-- A pair with a bar shares its key with another one. -/
lemma exists_other_pair (hp : ¬ BarFree p) : ∃ q, q ≠ p ∧ pairKey q = pairKey p := by
  obtain ⟨a, b⟩ := p
  rw [BarFree, not_and_or, not_not, not_not] at hp
  rcases hp with h | h
  · obtain ⟨u, w, rfl⟩ := List.append_of_mem h
    refine ⟨(u, w ++ '|' :: b), fun heq => ?_, by simp [pairKey, indexKey]⟩
    have hlen := congrArg List.length (Prod.ext_iff.mp heq).1
    simp at hlen
  · obtain ⟨u, w, rfl⟩ := List.append_of_mem h
    refine ⟨(a ++ '|' :: u, w), fun heq => ?_, by simp [pairKey, indexKey]⟩
    have hlen := congrArg List.length (Prod.ext_iff.mp heq).1
    simp at hlen

namespace VerdictLedger

/-! ### Runs of the ledger -/

inductive Op
  | record (env : Supply) (govTxId : Str) (signal : GovernanceSignal)
  | recordFinalApproved (env : Supply) (govTxId : Str) (signal : GovernanceSignal)
  | recordFinalApprovedWithContext (env : Supply) (govTxId : Str) (signal : GovernanceSignal)
      (contextHash runId : Str)

/-- The answer of every call is its verdict id. -/
def system : System VerdictLedger Op Str :=
  ⟨fun l o => match o with
    | .record env govTxId signal => record env l govTxId signal
    | .recordFinalApproved env govTxId signal => recordFinalApproved env l govTxId signal
    | .recordFinalApprovedWithContext env govTxId signal contextHash runId =>
      recordFinalApprovedWithContext env l govTxId signal contextHash runId⟩

abbrev History := List (Op × Str)

/-- The transaction and the session of a final approval. -/
def Op.txPair : Op → Option (Str × Str)
  | .record .. => none
  | .recordFinalApproved _ govTxId signal => some (govTxId, signal.sessionId)
  | .recordFinalApprovedWithContext _ govTxId signal _ _ => some (govTxId, signal.sessionId)

/-- The context and the session of a final approval that has a context. -/
def Op.contextPair : Op → Option (Str × Str)
  | .recordFinalApprovedWithContext _ _ signal contextHash _ => some (contextHash, signal.sessionId)
  | _ => none

variable {pair : Op → Option (Str × Str)} {index : HashMap Str Str} {es : History}
  {l : VerdictLedger}

/-- `v` is the verdict id of the last approval for exactly the pair. -/
def LastFor (pair : Op → Option (Str × Str)) (es : History) (p : Str × Str) (v : Str) : Prop :=
  Since (fun e => pair e.1 = some p) (fun e => pair e.1 = some p ∧ e.2 = v) es

/-- The index finds the last approval of every pair, and nothing else. -/
def Exact (pair : Op → Option (Str × Str)) (es : History) (index : HashMap Str Str) : Prop :=
  ∀ p v, index.lookup (pairKey p) = some v ↔ LastFor pair es p v

/-- The approval is kept under the key. -/
def KeptUnder (pair : Op → Option (Str × Str)) (key : Str) (e : Op × Str) : Prop :=
  (pair e.1).map pairKey = some key

/-- The index finds the last approval that was kept under a key. -/
def ExactByKey (pair : Op → Option (Str × Str)) (es : History) (index : HashMap Str Str) : Prop :=
  ∀ key v, index.lookup key = some v ↔
    Since (KeptUnder pair key) (fun e => KeptUnder pair key e ∧ e.2 = v) es

/-- An index takes in an approval. -/
def indexed (pair : Op → Option (Str × Str)) (e : Op × Str) (index : HashMap Str Str) :
    HashMap Str Str :=
  match pair e.1 with
  | some p => index.insert (pairKey p) e.2
  | none => index

lemma ExactByKey.indexed {e : Op × Str} (h : ExactByKey pair es index) :
    ExactByKey pair (es ++ [e]) (indexed pair e index) := by
  intro key v
  rw [since_concat, ← h key v, KeptUnder, VerdictLedger.indexed]
  cases pair e.1 with
  | none => simp
  | some p =>
    rw [lookup_insert_eq_ite, Option.map_some, Option.some.injEq]
    split
    · next hkey => simp [hkey]
    · next hkey => simp [Ne.symm hkey]

lemma step_indexes (l : VerdictLedger) (o : Op) :
    (system.step l o).2.approvedByTx =
        indexed Op.txPair (o, (system.step l o).1) l.approvedByTx ∧
      (system.step l o).2.approvedByContext =
        indexed Op.contextPair (o, (system.step l o).1) l.approvedByContext := by
  cases o <;> exact ⟨rfl, rfl⟩

/-- **The indexes are exact by key** in every run. -/
theorem exactByKey_of_run (h : system.Run VerdictLedger.new es l) :
    ExactByKey Op.txPair es l.approvedByTx ∧ ExactByKey Op.contextPair es l.approvedByContext := by
  refine h.invariant (I := fun es l => ExactByKey Op.txPair es l.approvedByTx ∧
    ExactByKey Op.contextPair es l.approvedByContext) ?_ fun es l o hI => ?_
  · exact ⟨fun key v => by simp [VerdictLedger.new], fun key v => by simp [VerdictLedger.new]⟩
  · obtain ⟨htx, hcontext⟩ := step_indexes l o
    rw [htx, hcontext]
    exact ⟨hI.1.indexed, hI.2.indexed⟩

/-- **An index that is exact by key is exact** precisely when no approved pair has a bar, given
that no two verdicts have the same id. -/
theorem ExactByKey.exact_iff (h : ExactByKey pair es index) (hfresh : (es.map (·.2)).Nodup) :
    Exact pair es index ↔ ∀ e ∈ es, ∀ p, pair e.1 = some p → BarFree p := by
  constructor
  · intro hexact e he p hp
    by_contra hbar
    -- the last approval under the same key is for one of the pairs with this key
    have hkept : KeptUnder pair (pairKey p) e := by rw [KeptUnder, hp, Option.map_some]
    obtain ⟨d, hd, hdkept, hlast⟩ := exists_last he hkept
    obtain ⟨q, hq, hkey⟩ := Option.map_eq_some_iff.mp hdkept
    have hqbar : ¬ BarFree q := by rwa [barFree_iff_count, hkey, ← barFree_iff_count]
    obtain ⟨r, hne, hrkey⟩ := exists_other_pair hqbar
    have hlookup : index.lookup (pairKey r) = some d.2 := by
      rw [hrkey, hkey, h]
      exact hlast.imp (by rintro _ rfl; exact ⟨hdkept, rfl⟩)
    obtain ⟨c, hc, hcpair, hcid⟩ := ((hexact r d.2).mp hlookup).exists_mem
    obtain rfl := List.inj_on_of_nodup_map hfresh hc hd hcid
    exact hne (Option.some.inj (hcpair.symm.trans hq))
  · intro hfree p v
    have hiff : ∀ e ∈ es, KeptUnder pair (pairKey p) e ↔ pair e.1 = some p := by
      intro e he
      constructor
      · intro hkept
        obtain ⟨q, hq, hkey⟩ := Option.map_eq_some_iff.mp hkept
        rw [hq, pairKey_inj_of_barFree (hfree e he q hq) hkey]
      · intro hp
        rw [KeptUnder, hp, Option.map_some]
    rw [h]
    exact since_congr hiff fun e he => and_congr_left fun _ => hiff e he

/-- Both lookups of the ledger are exact. -/
def LookupsExact (es : History) (l : VerdictLedger) : Prop :=
  (∀ govTxId sessionId v, l.approvedVerdictId govTxId sessionId = some v ↔
    LastFor Op.txPair es (govTxId, sessionId) v) ∧
  (∀ contextHash sessionId v, l.approvedVerdictIdByContext contextHash sessionId = some v ↔
    LastFor Op.contextPair es (contextHash, sessionId) v)

/-- No transaction id, context hash or session id of a final approval has a bar. -/
def BarsKeptOut (o : Op) : Prop :=
  (∀ p, o.txPair = some p → BarFree p) ∧ ∀ p, o.contextPair = some p → BarFree p

/-- **When the ledger finds exactly what was approved.** In every run of a new ledger with fresh
verdict ids, both lookups are exact for all texts precisely when no approval of the run has a bar
in its ids. -/
theorem lookupsExact_iff (h : system.Run VerdictLedger.new es l)
    (hfresh : (es.map (·.2)).Nodup) : LookupsExact es l ↔ ∀ e ∈ es, BarsKeptOut e.1 := by
  obtain ⟨htx, hcontext⟩ := exactByKey_of_run h
  have hprod : LookupsExact es l ↔
      Exact Op.txPair es l.approvedByTx ∧ Exact Op.contextPair es l.approvedByContext :=
    and_congr ⟨fun h p => h p.1 p.2, fun h a b => h (a, b)⟩
      ⟨fun h p => h p.1 p.2, fun h a b => h (a, b)⟩
  rw [hprod, htx.exact_iff hfresh, hcontext.exact_iff hfresh]
  exact forall₂_and.symm

/-- A clean signal of session `c`, finally approved for the transaction `a|b`. -/
def barredApproval : Op :=
  .recordFinalApproved (fixedSupply 0 0) "a|b"
    ((cleanSignal .sentinel .inbound "c" (List.replicate 64 '0')).build (fixedSupply 0 0))

/-- The ledger and the history after this approval. -/
def barredRun : History × VerdictLedger := system.exec .new [barredApproval]

theorem lookupsExact_iff_barredRun :
    LookupsExact barredRun.1 barredRun.2 ↔ ∀ e ∈ barredRun.1, BarsKeptOut e.1 :=
  lookupsExact_iff (System.Run.of_exec VerdictLedger.new [barredApproval])
    (List.nodup_singleton _)

/-- **An approval of transaction `a|b` in session `c` is found for transaction `a` in session
`b|c`.** -/
theorem barredRun_not_exact :
    (barredRun.2.approvedVerdictId "a" "b|c").isSome = true ∧
      ¬ LookupsExact barredRun.1 barredRun.2 := by
  have hsome : (barredRun.2.approvedVerdictId "a" "b|c").isSome = true := by decide +kernel
  refine ⟨hsome, fun h => ?_⟩
  obtain ⟨v, hv⟩ := Option.isSome_iff_exists.mp hsome
  obtain ⟨e, he, hpair, -⟩ := ((h.1 "a" "b|c" v).mp hv).exists_mem
  obtain rfl := List.mem_singleton.mp he
  exact absurd hpair (by decide)

end VerdictLedger

end GovSec
