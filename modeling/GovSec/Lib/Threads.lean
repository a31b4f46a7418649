import Mathlib

/-!
Threads that take turns at atomic steps on a shared state.

A schedule says which thread steps next and what that step reads from outside. Every
interleaving of any number of threads is a schedule, and running one is a function.
-/

namespace GovSec.Lib.Threads

/-- One atomic step of a thread with local state `τ` on the shared state `σ`, reading `ε`. -/
abbrev Atomic (σ τ ε : Type*) := ε → σ → τ → σ × τ

/-- A shared state and the local state of every thread. -/
structure Config (σ τ ι : Type*) where
  shared : σ
  thread : ι → τ

variable {σ τ ε ι : Type*} [DecidableEq ι] (step : Atomic σ τ ε)

namespace Config

def stepAt (c : Config σ τ ι) (x : ι × ε) : Config σ τ ι where
  shared := (step x.2 c.shared (c.thread x.1)).1
  thread := Function.update c.thread x.1 (step x.2 c.shared (c.thread x.1)).2

def exec (c : Config σ τ ι) (xs : List (ι × ε)) : Config σ τ ι := xs.foldl (stepAt step) c

variable {step} {c : Config σ τ ι}

@[simp] lemma exec_nil : c.exec step [] = c := rfl
@[simp] lemma exec_cons (x : ι × ε) (xs : List (ι × ε)) :
    c.exec step (x :: xs) = (c.stepAt step x).exec step xs := rfl
@[simp] lemma exec_append (xs ys : List (ι × ε)) :
    c.exec step (xs ++ ys) = (c.exec step xs).exec step ys := by
  simp [exec, List.foldl_append]

lemma stepAt_thread_self (x : ι × ε) :
    (c.stepAt step x).thread x.1 = (step x.2 c.shared (c.thread x.1)).2 :=
  Function.update_self ..

lemma stepAt_thread_of_ne {x : ι × ε} {i : ι} (h : i ≠ x.1) :
    (c.stepAt step x).thread i = c.thread i := Function.update_of_ne h ..

/-- Every step of the schedule meets `C` where it is taken. -/
def Always (step : Atomic σ τ ε) (C : Config σ τ ι → ι × ε → Prop) (c : Config σ τ ι)
    (xs : List (ι × ε)) : Prop :=
  ∀ pre x post, xs = pre ++ x :: post → C (c.exec step pre) x

lemma Always.cons_iff {C : Config σ τ ι → ι × ε → Prop} {x : ι × ε} {xs : List (ι × ε)} :
    Always step C c (x :: xs) ↔ C c x ∧ Always step C (c.stepAt step x) xs := by
  constructor
  · intro h
    refine ⟨h [] x xs rfl, fun pre y post hxs => ?_⟩
    exact h (x :: pre) y post (by rw [hxs]; rfl)
  · rintro ⟨hx, h⟩ pre y post hxs
    cases pre with
    | nil =>
      obtain ⟨rfl, rfl⟩ := List.cons.inj hxs
      exact hx
    | cons z pre =>
      obtain ⟨rfl, hxs'⟩ := List.cons.inj hxs
      exact h pre y post hxs'

lemma Always.append_right {C : Config σ τ ι → ι × ε → Prop} {xs ys : List (ι × ε)}
    (h : Always step C c (xs ++ ys)) : Always step C (c.exec step xs) ys := by
  intro pre x post hys
  rw [← exec_append]
  exact h (xs ++ pre) x post (by rw [hys, List.append_assoc])

/-- **The rely rule.** When every step that meets `C` relates the shared states around it by a
reflexive and transitive relation, so does a schedule whose steps all meet `C`. -/
theorem Always.related {C : Config σ τ ι → ι × ε → Prop} {R : σ → σ → Prop}
    (hrefl : ∀ s, R s s) (htrans : ∀ a b d, R a b → R b d → R a d)
    (hstep : ∀ c x, C c x → R c.shared (c.stepAt step x).shared) {xs : List (ι × ε)}
    (h : Always step C c xs) : R c.shared (c.exec step xs).shared := by
  induction xs generalizing c with
  | nil => exact hrefl _
  | cons x xs ih =>
    rw [Always.cons_iff] at h
    exact htrans _ _ _ (hstep c x h.1) (ih h.2)

/-- **The invariant rule.** What holds at the start and is kept by every step that meets `C`
holds after a schedule whose steps all meet it. -/
theorem Always.invariant {C : Config σ τ ι → ι × ε → Prop} {I : Config σ τ ι → Prop} (h0 : I c)
    (hstep : ∀ c x, I c → C c x → I (c.stepAt step x)) {xs : List (ι × ε)}
    (h : Always step C c xs) : I (c.exec step xs) := by
  induction xs generalizing c with
  | nil => exact h0
  | cons x xs ih =>
    rw [Always.cons_iff] at h
    exact ih (hstep c x h0 h.1) h.2

/-- The rules for schedules without a condition. -/
lemma exec_invariant {I : Config σ τ ι → Prop} (h0 : I c)
    (hstep : ∀ c x, I c → I (c.stepAt step x)) (xs : List (ι × ε)) : I (c.exec step xs) :=
  Always.invariant (C := fun _ _ => True) h0 (fun c x hI _ => hstep c x hI)
    fun _ _ _ _ => trivial

/-- The invariant rule with the schedule so far, under a condition on it that every shorter
schedule inherits, such as that no fresh identifier was drawn twice. -/
theorem exec_invariant_of {F : List (ι × ε) → Prop} {I : List (ι × ε) → Config σ τ ι → Prop}
    (hF : ∀ xs x, F (xs ++ [x]) → F xs) (h0 : I [] c)
    (hstep : ∀ xs c x, F (xs ++ [x]) → I xs c → I (xs ++ [x]) (c.stepAt step x))
    {xs : List (ι × ε)} (h : F xs) : I xs (c.exec step xs) := by
  induction xs using List.reverseRecOn with
  | nil => exact h0
  | append_singleton xs x ih =>
    rw [exec_append]
    exact hstep xs _ x h (ih (hF xs x h))

lemma exec_related {R : σ → σ → Prop} (hrefl : ∀ s, R s s)
    (htrans : ∀ a b d, R a b → R b d → R a d)
    (hstep : ∀ (c : Config σ τ ι) x, R c.shared (c.stepAt step x).shared) (xs : List (ι × ε)) :
    R c.shared (c.exec step xs).shared :=
  Always.related (C := fun _ _ => True) hrefl htrans (fun c x _ => hstep c x)
    fun _ _ _ _ => trivial

variable (step c) in
/-- A thread that runs alone steps its own local state. -/
lemma exec_alone (i : ι) (es : List ε) :
    let r := es.foldl (fun p e => step e p.1 p.2) (c.shared, c.thread i)
    (c.exec step (es.map fun e => (i, e))).shared = r.1 ∧
      (c.exec step (es.map fun e => (i, e))).thread i = r.2 := by
  induction es generalizing c with
  | nil => exact ⟨rfl, rfl⟩
  | cons e es ih => simpa [stepAt] using ih (c.stepAt step (i, e))

end Config

end GovSec.Lib.Threads
