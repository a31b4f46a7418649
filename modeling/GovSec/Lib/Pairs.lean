import GovSec.Lib.Actions

/-!
Two runs side by side.

`Paired R m m' Q` starts two actions in states that `R` relates and says by `Q` what they end
in. Two sequences are paired part by part. `Keeps R V m` is the one-sided rule for the same
proofs: the states of one run are related and its value is in `V`.
-/

namespace GovSec.Lib.Actions

universe u

variable {σ α α' β β' : Type u}

/-- From states that `R` relates the two actions end as `Q` says. -/
def Paired (R : σ → σ → Prop) (m : StateM σ α) (m' : StateM σ α') (Q : α → σ → α' → σ → Prop) :
    Prop :=
  ∀ s s', R s s' → Q (result m s).1 (result m s).2 (result m' s').1 (result m' s').2

section Paired

variable {R : σ → σ → Prop} {m : StateM σ α} {m' : StateM σ α'} {f : α → StateM σ β}
  {f' : α' → StateM σ β'} {Q : α → σ → α' → σ → Prop} {Q' : β → σ → β' → σ → Prop}

lemma Paired.pure {a : α} {a' : α'} (h : ∀ s s', R s s' → Q a s a' s') :
    Paired R (Pure.pure a) (Pure.pure a') Q := h

lemma Paired.imp {R' : σ → σ → Prop} {Q₁ : α → σ → α' → σ → Prop} (h : Paired R m m' Q)
    (hR : ∀ s s', R' s s' → R s s') (hQ : ∀ a s a' s', Q a s a' s' → Q₁ a s a' s') :
    Paired R' m m' Q₁ := fun s s' hs => hQ _ _ _ _ (h s s' (hR s s' hs))

lemma Paired.get {R : σ → σ → Prop} : Paired R (MonadState.get : StateM σ σ) MonadState.get
    fun a s a' s' => a = s ∧ a' = s' ∧ R s s' := fun _ _ h => ⟨rfl, rfl, h⟩

/-- **Sequencing.** -/
theorem Paired.bind (hm : Paired R m m' Q)
    (hf : ∀ a a', Paired (fun s s' => Q a s a' s') (f a) (f' a') Q') :
    Paired R (m >>= f) (m' >>= f') Q' :=
  fun s s' hs => hf _ _ _ _ (hm s s' hs)

end Paired

/-- The two states of every run of `m` are related and its value is in `V`. -/
def Keeps (R : σ → σ → Prop) (V : α → Prop) (m : StateM σ α) : Prop :=
  Meets m fun s a s' => R s s' ∧ V a

section Keeps

variable {R : σ → σ → Prop} {m : StateM σ α} {f : α → StateM σ β} {V : α → Prop} {W : β → Prop}

lemma Keeps.imp {V' : α → Prop} (h : Keeps R V m) (hV : ∀ a, V a → V' a) : Keeps R V' m :=
  fun s => ⟨(h s).1, hV _ (h s).2⟩

variable [IsPreorder σ R]

lemma Keeps.pure {a : α} (h : V a) : Keeps R V (Pure.pure a) := fun s => ⟨refl_of R s, h⟩

lemma Keeps.get : Keeps R (fun _ => True) (MonadState.get : StateM σ σ) :=
  fun s => ⟨refl_of R s, trivial⟩

theorem Keeps.bind (hm : Keeps R V m) (hf : ∀ a, V a → Keeps R W (f a)) : Keeps R W (m >>= f) :=
  hm.then fun _ a s₁ ⟨hs, ha⟩ => ⟨trans_of R hs (hf a ha s₁).1, (hf a ha s₁).2⟩

/-- The rest may need the value to be in `V`. -/
lemma Keeps.bindAlong (hm : Keeps R V m) (hf : ∀ a, V a → Along R (f a)) : Along R (m >>= f) :=
  fun s => trans_of R (hm s).1 (hf _ (hm s).2 _)

end Keeps

end GovSec.Lib.Actions
