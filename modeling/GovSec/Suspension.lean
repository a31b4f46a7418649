import GovSec.PipelineRuns

/-!
Authorizations and the arbiter. A terminated session, and one whose tools are suspended, keeps
the approvals it got before; neither authorization asks the arbiter.
-/

namespace GovSec.Pipeline

open GovSec.Lib.Text GovSec.Lib.Maps GovSec.Lib.Actions GovSec.Lib.Runs

variable {P : Platform} {p : Pipeline}

/-- A request of a terminated session is refused, an action's also while tools are
suspended. -/
def RefusesSuspended (P : Platform) (p : Pipeline) (op : Op) : Prop :=
  match op with
  | .authorizeProviderExecution _ req =>
    p.currentState req.sessionId = .S4 → ∃ e, (step P p op).1 = .authorization (.error e)
  | .authorizeActionExecution _ req =>
    .S3 ≤ p.currentState req.sessionId → ∃ e, (step P p op).1 = .authorization (.error e)
  | _ => True

/-- No such request finds its context approved and its decision admitted. -/
def NoneGranted (P : Platform) (p : Pipeline) (op : Op) : Prop :=
  match op with
  | .authorizeProviderExecution _ req =>
    p.currentState req.sessionId = .S4 → ¬ p.GrantsProvider req
  | .authorizeActionExecution _ req =>
    .S3 ≤ p.currentState req.sessionId → ¬ GrantsAction P p req
  | _ => True

lemma ofAuthorization_eq_error {o : Option (Except AuthorizationError CapabilityToken)}
    {e : AuthorizationError} :
    Answer.ofAuthorization o = .authorization (.error e) ↔ o = some (.error e) := by
  cases o <;> simp [Answer.ofAuthorization]

lemma refusesSuspended_iff (op : Op) : RefusesSuspended P p op ↔ NoneGranted P p op := by
  cases op with
  | authorizeProviderExecution env req =>
    refine imp_congr_right fun _ => ?_
    rw [← authorizeProviderExecution_error_iff P env]
    exact exists_congr fun _ => ofAuthorization_eq_error
  | authorizeActionExecution env req =>
    refine imp_congr_right fun _ => ?_
    rw [← authorizeActionExecution_error_iff P env]
    exact exists_congr fun _ => ofAuthorization_eq_error
  | _ => exact Iff.rfl

/-- **Suspended sessions are refused** throughout a run exactly when no request made while its
session is suspended has an approved context and an admitted decision. -/
theorem suspended_refused_iff (p : Pipeline) (os : List Op) :
    (system P).Always (RefusesSuspended P) p os ↔ (system P).Always (NoneGranted P) p os :=
  System.always_congr fun _ => refusesSuspended_iff

/-- What a provider's request is answered does not depend on the arbiter. -/
theorem authorizeProviderExecution_arbiter (env : Supply) (req : ProviderAuthorizationRequest)
    (arbiter : Arbiter) :
    (authorizeProviderExecution P env { p with arbiter } req).1 =
      (authorizeProviderExecution P env p req).1 := by
  unfold authorizeProviderExecution
  dsimp only
  split <;> rfl

/-- After "hi" was approved, a claim of authority terminates the session. -/
def terminatingOps : List Op := [.inbound (fixedSupply 0 2) "[agent:" "s" "tx"]

/-- A context approved in S1 still gives a provider's and an action's token in S4. -/
theorem authorized_when_terminated :
    let p := ((system silentPlatform).exec (fixedPipeline .default) approvedOps).2
    let q := ((system silentPlatform).exec p terminatingOps).2
    p.currentState "s" = .S1 ∧ q.currentState "s" = .S4 ∧
      (issuedToken (authorizeProviderExecution silentPlatform (fixedSupply 0 3) q
        (fixedRequest "groq" "llama")).1).isSome = true ∧
      (issuedToken (authorizeActionExecution silentPlatform (fixedSupply 0 3) q
        fixedAction).1).isSome = true := by
  decide +kernel

end GovSec.Pipeline
