import Mathlib

/-!
Systems that answer one operation at a time, and what holds over their runs.

Everything a step depends on besides the state, clock readings and fresh identifiers
included, is part of the operation, so a step is a function. A run keeps the list of
operations done so far with their answers: an invariant may speak about that history, which
is how a property of the form "every such answer was preceded by ..." is proved.
-/

namespace GovSec.Lib.Runs

/-- A state machine with operations `ω` and answers `ρ`. -/
structure System (σ ω ρ : Type*) where
  step : σ → ω → ρ × σ

variable {σ ω ρ : Type*} (M : System σ ω ρ)

namespace System

/-- The history and the final state of a list of operations. -/
def exec (s : σ) : List ω → List (ω × ρ) × σ
  | [] => ([], s)
  | o :: os =>
    let (es, s') := exec (M.step s o).2 os
    ((o, (M.step s o).1) :: es, s')

/-- `M.Run s₀ es s`: from `s₀` the machine has done the operations of `es`, given the answers
of `es`, and is now in `s`. -/
inductive Run (s₀ : σ) : List (ω × ρ) → σ → Prop
  | nil : Run s₀ [] s₀
  | snoc {es : List (ω × ρ)} {s : σ} (h : Run s₀ es s) (o : ω) :
      Run s₀ (es ++ [(o, (M.step s o).1)]) (M.step s o).2

variable {M} {s₀ s : σ} {es : List (ω × ρ)}

lemma Run.append_exec (h : M.Run s₀ es s) (os : List ω) :
    M.Run s₀ (es ++ (M.exec s os).1) (M.exec s os).2 := by
  induction os generalizing es s with
  | nil => simpa [exec] using h
  | cons o os ih => simpa [exec] using ih (h.snoc o)

lemma Run.of_exec (s₀ : σ) (os : List ω) : M.Run s₀ (M.exec s₀ os).1 (M.exec s₀ os).2 := by
  simpa using Run.nil.append_exec (M := M) os

/-- **A view of a machine** that answers alike and steps to the view of its next state does so
throughout a run. -/
theorem exec_map {τ : Type*} {M' : System τ ω ρ} {f : σ → τ}
    (h : ∀ s o, M'.step (f s) o = ((M.step s o).1, f (M.step s o).2)) (s : σ) (os : List ω) :
    M'.exec (f s) os = ((M.exec s os).1, f (M.exec s os).2) := by
  induction os generalizing s with
  | nil => rfl
  | cons o os ih => simp only [exec, h, ih]

/-- The history lists the operations. -/
lemma map_fst_exec (s : σ) (os : List ω) : (M.exec s os).1.map Prod.fst = os := by
  induction os generalizing s with
  | nil => rfl
  | cons o os ih => simp [exec, ih]

/-- **The invariant rule.** What holds at the start and is kept by every step holds of every
run, with its history. -/
theorem Run.invariant {I : List (ω × ρ) → σ → Prop} (h0 : I [] s₀)
    (hstep : ∀ es s o, I es s → I (es ++ [(o, (M.step s o).1)]) (M.step s o).2)
    (h : M.Run s₀ es s) : I es s := by
  induction h with
  | nil => exact h0
  | snoc _ o ih => exact hstep _ _ o ih

/-- The invariant rule under a condition on the history that every shorter history inherits,
such as that no fresh identifier was drawn twice. -/
theorem Run.invariant_of {F : List (ω × ρ) → Prop} {I : List (ω × ρ) → σ → Prop}
    (hF : ∀ es e, F (es ++ [e]) → F es) (h0 : I [] s₀)
    (hstep : ∀ es s o, F (es ++ [(o, (M.step s o).1)]) → I es s →
      I (es ++ [(o, (M.step s o).1)]) (M.step s o).2)
    (h : M.Run s₀ es s) (hes : F es) : I es s := by
  induction h with
  | nil => exact h0
  | snoc _ o ih => exact hstep _ _ o hes (ih (hF _ _ hes))

/-- The invariant rule for runs whose operations all meet `Q`. -/
theorem Run.invariant_on {Q : ω → Prop} {I : σ → Prop} (h0 : I s₀)
    (hstep : ∀ s o, Q o → I s → I (M.step s o).2) (h : M.Run s₀ es s)
    (hes : ∀ e ∈ es, Q e.1) : I s := by
  induction h with
  | nil => exact h0
  | snoc _ o ih =>
    have hlast : Q o := hes _ (List.mem_append_right _ (List.mem_singleton.mpr rfl))
    exact hstep _ o hlast (ih fun e he => hes e (List.mem_append_left _ he))

/-- The state in which an event of the history was answered. -/
theorem Run.split (h : M.Run s₀ es s) {as bs : List (ω × ρ)} {e : ω × ρ}
    (hes : es = as ++ e :: bs) : ∃ s', M.Run s₀ as s' ∧ e.2 = (M.step s' e.1).1 := by
  induction h generalizing bs with
  | nil => simp at hes
  | @snoc es s h o ih =>
    rcases List.eq_nil_or_concat bs with rfl | ⟨cs, c, rfl⟩
    · obtain ⟨rfl, he⟩ := List.append_inj' hes rfl
      obtain rfl : (o, (M.step s o).1) = e := by simpa using he
      exact ⟨s, h, rfl⟩
    · have hes' : es ++ [(o, (M.step s o).1)] = (as ++ e :: cs) ++ [c] := by simpa using hes
      exact ih (List.append_inj' hes' rfl).1

/-- `Q` holds of every step of a run from `s`: of the state before and the operation. -/
def Always (M : System σ ω ρ) (Q : σ → ω → Prop) (s : σ) : List ω → Prop
  | [] => True
  | o :: os => Q s o ∧ Always M Q (M.step s o).2 os

lemma always_cons {Q : σ → ω → Prop} {o : ω} {os : List ω} :
    M.Always Q s (o :: os) ↔ Q s o ∧ M.Always Q (M.step s o).2 os := Iff.rfl

lemma Always.imp {Q Q' : σ → ω → Prop} {os : List ω} (h : ∀ s o, Q s o → Q' s o)
    (hs : M.Always Q s os) : M.Always Q' s os := by
  induction os generalizing s with
  | nil => trivial
  | cons o os ih => exact ⟨h s o hs.1, ih hs.2⟩

lemma always_congr {Q Q' : σ → ω → Prop} {os : List ω} (h : ∀ s o, Q s o ↔ Q' s o) :
    M.Always Q s os ↔ M.Always Q' s os :=
  ⟨Always.imp fun s o => (h s o).mp, Always.imp fun s o => (h s o).mpr⟩

/-- **The conditional invariant rule.** When an invariant is kept by every step that meets
`Q`, and under it `Q` and `Q'` agree on a step, they agree on whole runs. -/
theorem always_iff_of_invariant {I : σ → Prop} {Q Q' : σ → ω → Prop} {os : List ω} (hI : I s)
    (hiff : ∀ s o, I s → (Q s o ↔ Q' s o)) (hstep : ∀ s o, I s → Q s o → I (M.step s o).2) :
    M.Always Q s os ↔ M.Always Q' s os := by
  induction os generalizing s with
  | nil => exact Iff.rfl
  | cons o os ih =>
    constructor
    · exact fun h => ⟨(hiff s o hI).mp h.1, (ih (hstep s o hI h.1)).mp h.2⟩
    · intro h
      have hQ := (hiff s o hI).mpr h.1
      exact ⟨hQ, (ih (hstep s o hI hQ)).mpr h.2⟩

/-- A relation between states that is reflexive, transitive and kept by every step relates
the ends of every run. -/
theorem Run.related {R : σ → σ → Prop} (hrefl : ∀ s, R s s)
    (htrans : ∀ a b c, R a b → R b c → R a c) (hstep : ∀ s o, R s (M.step s o).2)
    (h : M.Run s₀ es s) : R s₀ s := by
  induction h with
  | nil => exact hrefl _
  | snoc _ o ih => exact htrans _ _ _ ih (hstep _ o)

end System

end GovSec.Lib.Runs
