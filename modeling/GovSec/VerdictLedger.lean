import GovSec.Signal
import GovSec.Validation
import GovSec.Lib.Maps

/-!
The ledger of final approvals, with its two indexes: by transaction and by context.
-/

namespace GovSec

open GovSec.Lib.Text GovSec.Lib.Maps

structure VerdictRecord where
  verdictId : Str
  govTxId : Str
  sessionId : Str
  finalApproved : Bool
  direction : Direction
  violationClass : Option Str
  severity : Severity
  confidence : ℚ
  payloadHash : Str
  signalSignature : Str
  recordedAt : DateTime
  contextHash : Option Str
  runId : Option Str
  deriving DecidableEq

inductive ContextResolveOutcome
  | found
  | notFound
  | sessionMismatch
  deriving DecidableEq

structure VerdictLedger where
  verdicts : HashMap Str VerdictRecord
  /-- `gov_tx_id|session_id` to verdict id. -/
  approvedByTx : HashMap Str Str
  /-- `context_hash|session_id` to verdict id. -/
  approvedByContext : HashMap Str Str

/-- The key of either index: `first|session_id`. -/
def indexKey (first sessionId : Str) : Str := first ++ '|' :: sessionId

/-- The key of a hash and a session names both. -/
lemma indexKey_inj {a b sid sid' : Str} (ha : isSha256Hex a = true)
    (hb : isSha256Hex b = true) (h : indexKey a sid = indexKey b sid') : a = b ∧ sid = sid' :=
  append_sep_inj (by rw [List.count_eq_zero.mpr (bar_notMem_of_isSha256Hex ha),
    List.count_eq_zero.mpr (bar_notMem_of_isSha256Hex hb)]) h

namespace VerdictLedger

def new : VerdictLedger := ⟨∅, ∅, ∅⟩

variable (env : Supply) (l : VerdictLedger)

def newRecord (govTxId : Str) (signal : GovernanceSignal) (contextHash runId : Option Str) :
    VerdictRecord where
  verdictId := "SV-" ++ env.fresh.simple
  govTxId
  sessionId := signal.sessionId
  finalApproved := true
  direction := signal.direction
  violationClass := signal.violationClass
  severity := signal.severity
  confidence := signal.confidence
  payloadHash := signal.payloadHash
  signalSignature := signal.signature.getD []
  recordedAt := env.now
  contextHash
  runId

/-- A verdict of one layer, which approves nothing. -/
def record (govTxId : Str) (signal : GovernanceSignal) : Str × VerdictLedger :=
  let record := { newRecord env govTxId signal none none with finalApproved := false }
  (record.verdictId, { l with verdicts := l.verdicts.insert record.verdictId record })

def recordFinalApprovedInner (govTxId : Str) (signal : GovernanceSignal)
    (contextHash runId : Option Str) : Str × VerdictLedger :=
  let record := newRecord env govTxId signal contextHash runId
  let id := record.verdictId
  (id,
    { verdicts := l.verdicts.insert id record
      approvedByTx := l.approvedByTx.insert (indexKey govTxId signal.sessionId) id
      approvedByContext :=
        match contextHash with
        | some ctx => l.approvedByContext.insert (indexKey ctx signal.sessionId) id
        | none => l.approvedByContext })

def recordFinalApproved (govTxId : Str) (signal : GovernanceSignal) : Str × VerdictLedger :=
  recordFinalApprovedInner env l govTxId signal none none

def recordFinalApprovedWithContext (govTxId : Str) (signal : GovernanceSignal)
    (contextHash runId : Str) : Str × VerdictLedger :=
  recordFinalApprovedInner env l govTxId signal (some contextHash) (some runId)

def approvedVerdictId (govTxId sessionId : Str) : Option Str :=
  l.approvedByTx.lookup (indexKey govTxId sessionId)

def approvedVerdictIdByContext (contextHash sessionId : Str) : Option Str :=
  l.approvedByContext.lookup (indexKey contextHash sessionId)

def resolveByContext (verdictId sessionId : Str) : ContextResolveOutcome × Option VerdictRecord :=
  match l.verdicts.lookup verdictId with
  | none => (.notFound, none)
  | some record =>
    if record.sessionId ≠ sessionId then (.sessionMismatch, some record)
    else (.found, some record)

variable {env l}

/-- A stored record is an old one or the one just recorded. -/
lemma lookup_recordFinalApprovedInner {govTxId id : Str} {signal : GovernanceSignal}
    {contextHash runId : Option Str} {r : VerdictRecord}
    (h : (recordFinalApprovedInner env l govTxId signal contextHash runId).2.verdicts.lookup id =
      some r) :
    r = newRecord env govTxId signal contextHash runId ∨ l.verdicts.lookup id = some r := by
  simp only [recordFinalApprovedInner, lookup_insert_eq_ite] at h
  split at h
  · exact .inl (Option.some.inj h).symm
  · exact .inr h

end VerdictLedger

end GovSec
