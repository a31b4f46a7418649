import GovSec.Lib.Actions

/-!
Actions on a state and on what a projection keeps of it.

`Projects π m' m` says that `m` does to the projection of a state what `m'` does to the state, with
the same value. Two sequences project when their parts do; an action that the projection does not
see may stand between them. Through one projection a state with records is compared with the
state without them, through another two states that differ in a detail.
-/

namespace GovSec.Lib.Actions

universe u

variable {σ τ α β : Type u}

/-- `m` does to the projection what `m'` does to the state. -/
def Projects (π : τ → σ) (m' : StateM τ α) (m : StateM σ α) : Prop :=
  ∀ s, result m (π s) = ((result m' s).1, π (result m' s).2)

section Projects

variable {π : τ → σ} {m' : StateM τ α} {m : StateM σ α}

lemma Projects.pure (a : α) : Projects π (Pure.pure a) (Pure.pure a) := fun _ => rfl

/-- **Sequencing.** -/
theorem Projects.bind {f' : α → StateM τ β} {f : α → StateM σ β} (hm : Projects π m' m)
    (hf : ∀ a, Projects π (f' a) (f a)) : Projects π (m' >>= f') (m >>= f) := fun s => by
  rw [result_bind, result_bind, hm s]
  exact hf _ _

/-- Both sides read the state. -/
lemma Projects.get {f' : τ → StateM τ β} {f : σ → StateM σ β}
    (h : ∀ s, Projects π (f' s) (f (π s))) :
    Projects π (MonadState.get >>= f') (MonadState.get >>= f) := fun s => h s s

/-- A part that the projection does not see. -/
lemma Projects.unseen {r : StateM τ β} (hr : Along (fun s s' => π s' = π s) r)
    (hm : Projects π m' m) : Projects π (r >>= fun _ => m') m := fun s => by
  rw [result_bind, ← hm]
  exact congrArg (result m) (hr s).symm

end Projects

/-- An action on a part of the state. -/
def within (π : τ → σ) (put : σ → τ → τ) (m : StateM σ α) : StateM τ α :=
  modifyGet fun s => ((result m (π s)).1, put (result m (π s)).2 s)

lemma projects_within {π : τ → σ} {put : σ → τ → τ} (hput : ∀ p s, π (put p s) = p)
    (m : StateM σ α) : Projects π (within π put m) m := fun s => by
  rw [within, result_modifyGet, hput]

end GovSec.Lib.Actions
