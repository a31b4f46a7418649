import Mathlib

/-!
Two-state specifications of state actions.

`Meets m Q` says that `Q` relates the state before `m`, the value it returns and the state
after, for every state before. The rules follow `do` notation: a sequence meets the
composition of what its parts meet. A specification that only relates the two states is
`Along R`; when `R` is a preorder it passes through sequencing by itself, so it can be proved
part by part.
-/

namespace GovSec.Lib.Actions

universe u

variable {σ α β : Type u}

/-- The value and the final state of an action. -/
def result (m : StateM σ α) (s : σ) : α × σ := m s

@[simp] lemma result_pure (a : α) (s : σ) : result (pure a) s = (a, s) := rfl

@[simp] lemma result_bind (m : StateM σ α) (f : α → StateM σ β) (s : σ) :
    result (m >>= f) s = result (f (result m s).1) (result m s).2 := rfl

@[simp] lemma result_get (s : σ) : result (get : StateM σ σ) s = (s, s) := rfl

@[simp] lemma result_modifyGet (f : σ → α × σ) (s : σ) :
    result (modifyGet f : StateM σ α) s = f s := rfl

@[simp] lemma result_map (f : α → β) (m : StateM σ α) (s : σ) :
    result (f <$> m) s = (f (result m s).1, (result m s).2) := rfl

/-- `Q` relates every state before, value and state after of `m`. -/
def Meets (m : StateM σ α) (Q : σ → α → σ → Prop) : Prop :=
  ∀ s, Q s (result m s).1 (result m s).2

section Rules

variable {m : StateM σ α} {f : α → StateM σ β}

lemma Meets.imp {Q Q' : σ → α → σ → Prop} (h : Meets m Q) (hQ : ∀ s a s', Q s a s' → Q' s a s') :
    Meets m Q' := fun s => hQ _ _ _ (h s)

lemma Meets.and {Q Q' : σ → α → σ → Prop} (h : Meets m Q) (h' : Meets m Q') :
    Meets m fun s a s' => Q s a s' ∧ Q' s a s' := fun s => ⟨h s, h' s⟩

lemma Meets.pure {Q : σ → α → σ → Prop} {a : α} (h : ∀ s, Q s a s) : Meets (Pure.pure a) Q := h

lemma Meets.modifyGet {Q : σ → α → σ → Prop} {g : σ → α × σ} (h : ∀ s, Q s (g s).1 (g s).2) :
    Meets (MonadStateOf.modifyGet g) Q := h

/-- **Sequencing.** -/
theorem Meets.bind {Q₁ : σ → α → σ → Prop} {Q₂ : α → σ → β → σ → Prop} {Q : σ → β → σ → Prop}
    (hm : Meets m Q₁) (hf : ∀ a, Meets (f a) (Q₂ a))
    (hQ : ∀ s a s₁ b s₂, Q₁ s a s₁ → Q₂ a s₁ b s₂ → Q s b s₂) : Meets (m >>= f) Q :=
  fun s => hQ _ _ _ _ _ (hm s) (hf _ _)

/-- Sequencing at a point: the rest is judged from a state the first part leads to. -/
theorem Meets.then {Q₁ : σ → α → σ → Prop} {Q : σ → β → σ → Prop} (hm : Meets m Q₁)
    (hf : ∀ s a s₁, Q₁ s a s₁ → Q s (result (f a) s₁).1 (result (f a) s₁).2) : Meets (m >>= f) Q :=
  fun s => hf s _ _ (hm s)

/-- A specification of the value alone passes to the rest. -/
theorem Meets.value {Q : β → Prop} (hf : ∀ a, Meets (f a) fun _ b _ => Q b) :
    Meets (m >>= f) fun _ b _ => Q b := fun _ => hf _ _

/-- The two states of every run of `m` are related. -/
def Along (R : σ → σ → Prop) (m : StateM σ α) : Prop := Meets m fun s _ s' => R s s'

/-- After an action along `R`, the rest may be judged from the earlier state when its
specification is inherited backwards along `R`. -/
theorem Along.bindMeets {R : σ → σ → Prop} {Q : σ → β → σ → Prop} (hm : Along R m)
    (hf : ∀ a, Meets (f a) Q) (hQ : ∀ s s₁ b s₂, R s s₁ → Q s₁ b s₂ → Q s b s₂) :
    Meets (m >>= f) Q :=
  Meets.bind hm hf fun _ _ _ _ _ => hQ _ _ _ _

variable {R : σ → σ → Prop} [IsPreorder σ R]

lemma Along.pure (a : α) : Along R (Pure.pure a : StateM σ α) := fun s => refl_of R s

lemma Along.get : Along R (MonadState.get : StateM σ σ) := fun s => refl_of R s

theorem Along.bind (hm : Along R m) (hf : ∀ a, Along R (f a)) : Along R (m >>= f) :=
  fun s => trans_of R (hm s) (hf _ _)

end Rules

end GovSec.Lib.Actions
