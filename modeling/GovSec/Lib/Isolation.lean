import GovSec.Lib.Runs

/-!
Isolation of one party in a system that serves several.

The party sees a view of the state. When the operations of others leave the view as it is, and
its own operations work on the view, its answers in a run do not depend on what is interleaved
with its operations. The second rule is for one list of operations done from two states, the third
for a run with further operations that another run leaves out.
-/

namespace GovSec.Lib.Runs.System

variable {σ ω ρ ν : Type*} (M : System σ ω ρ)

/-- The operations of the party in a run, each with the state it was done in. -/
def calls (mine : ω → Bool) : σ → List ω → List (σ × ω)
  | _, [] => []
  | s, o :: os =>
    if mine o then (s, o) :: calls mine (M.step s o).2 os else calls mine (M.step s o).2 os

/-- The answer to an operation done in a state. -/
def answer (c : σ × ω) : ρ := (M.step c.1 c.2).1

variable {M} {mine : ω → Bool} {Q : ω → Prop} {view : σ → ν} {R : σ × ω → σ × ω → Prop} {s s' : σ}
  {os os' : List ω}

/-- The answers to the party's operations are those in the history. -/
lemma map_answer_calls : (M.calls mine s os).map M.answer =
    ((M.exec s os).1.filter fun e => mine e.1).map (·.2) := by
  induction os generalizing s with
  | nil => rfl
  | cons o os ih =>
    simp only [calls, exec, List.filter_cons]
    split
    · rw [List.map_cons, List.map_cons, ih]
      rfl
    · exact ih

/-- The first operation of the party is done in the party's view of the start. -/
lemma calls_eq_cons (hother : ∀ s o, Q o → mine o = false → view (M.step s o).2 = view s)
    (hQ : ∀ o ∈ os, Q o) {c : σ × ω} {cs : List (σ × ω)} (h : M.calls mine s os = c :: cs) :
    view c.1 = view s ∧ Q c.2 ∧ mine c.2 = true ∧
      ∃ rest, (∀ o ∈ rest, Q o) ∧ cs = M.calls mine (M.step c.1 c.2).2 rest := by
  induction os generalizing s with
  | nil => cases h
  | cons o os ih =>
    have hrest : ∀ o ∈ os, Q o := fun o ho => hQ o (List.mem_cons_of_mem _ ho)
    rw [calls] at h
    split at h
    · next hm =>
      obtain ⟨rfl, rfl⟩ := List.cons.inj h
      exact ⟨rfl, hQ o List.mem_cons_self, hm, os, hrest, rfl⟩
    · next hm =>
      obtain ⟨hv, hc⟩ := ih hrest h
      have ho := hother s o (hQ o List.mem_cons_self) (by simpa using hm)
      exact ⟨hv.trans ho, hc⟩

/-- **Unwinding.** If others do not change the party's view, and two related operations of the
party in states of one view are answered alike and lead to one view, then two runs whose
operations of the party are related one by one answer the party alike. -/
theorem answers_of_calls (view : σ → ν) (Q : ω → Prop)
    (hother : ∀ s o, Q o → mine o = false → view (M.step s o).2 = view s)
    (hmine : ∀ c c', Q c.2 → Q c'.2 → mine c.2 = true → view c.1 = view c'.1 → R c c' →
      M.answer c = M.answer c' ∧ view (M.step c.1 c.2).2 = view (M.step c'.1 c'.2).2)
    (hQ : ∀ o ∈ os, Q o) (hQ' : ∀ o ∈ os', Q o) (hview : view s = view s')
    (h : List.Forall₂ R (M.calls mine s os) (M.calls mine s' os')) :
    (M.calls mine s os).map M.answer = (M.calls mine s' os').map M.answer := by
  induction hn : M.calls mine s os generalizing s s' os os' with
  | nil =>
    rw [hn] at h
    rw [List.forall₂_nil_left_iff.mp h]
  | cons c cs ih =>
    rw [hn] at h
    obtain ⟨c', cs', hc, hcs, hn'⟩ := List.forall₂_cons_left_iff.mp h
    obtain ⟨hv, hq, hm, rest, hrest, rfl⟩ := calls_eq_cons hother hQ hn
    obtain ⟨hv', hq', -, rest', hrest', rfl⟩ := calls_eq_cons hother hQ' hn'
    obtain ⟨hans, hnext⟩ := hmine c c' hq hq' hm (hv.trans (hview.trans hv'.symm)) hc
    rw [hn', List.map_cons, List.map_cons, hans, ih hrest hrest' hnext hcs rfl]

/-! ### One list of operations from two states -/

/-- `C` holds of every step of two runs that do the same operations: of the two states before
and the operation. -/
def Together (M : System σ ω ρ) (C : σ → σ → ω → Prop) : σ → σ → List ω → Prop
  | _, _, [] => True
  | s, s', o :: os => C s s' o ∧ Together M C (M.step s o).2 (M.step s' o).2 os

/-- **Lockstep.** If related states answer an operation that meets `C` alike and stay related, two
runs whose steps all meet `C` give the same answers. -/
theorem exec_fst_of_together {B : σ → σ → Prop} {C : σ → σ → ω → Prop}
    (hstep : ∀ s s' o, B s s' → Q o → C s s' o →
      (M.step s o).1 = (M.step s' o).1 ∧ B (M.step s o).2 (M.step s' o).2)
    (hB : B s s') (hQ : ∀ o ∈ os, Q o) (h : M.Together C s s' os) :
    (M.exec s os).1 = (M.exec s' os).1 := by
  induction os generalizing s s' with
  | nil => rfl
  | cons o os ih =>
    obtain ⟨hans, hnext⟩ := hstep s s' o hB (hQ o List.mem_cons_self) h.1
    have hrest := ih hnext (fun o ho => hQ o (List.mem_cons_of_mem _ ho)) h.2
    simp only [exec, hans, hrest]

/-! ### Further operations -/

/-- **Insertions.** `B` relates the two states and the operations to come. When it is kept by the
further operations of the second run alone and by the others in both runs, where it gives answers
that `A` relates, then the operations that the runs share are answered as `A` says. -/
theorem calls_filter {live : ω → Bool} {A : σ → ω → ρ → ρ → Prop} {B : σ → σ → List ω → Prop}
    (hlive : ∀ s s' o os, live o = true → B s s' (o :: os) →
      A s o (M.step s o).1 (M.step s' o).1 ∧ B (M.step s o).2 (M.step s' o).2 os)
    (hfurther : ∀ s s' o os, live o = false → B s s' (o :: os) → B s (M.step s' o).2 os)
    (h : B s s' os) :
    List.Forall₂ (fun c c' => c.2 = c'.2 ∧ A c.1 c.2 (M.answer c) (M.answer c'))
      (M.calls live s (os.filter live)) (M.calls live s' os) := by
  induction os generalizing s s' with
  | nil => exact .nil
  | cons o os ih =>
    cases ho : live o with
    | true =>
      obtain ⟨hans, hnext⟩ := hlive s s' o os ho h
      rw [List.filter_cons_of_pos ho, calls, calls, if_pos ho, if_pos ho]
      exact .cons ⟨rfl, hans⟩ (ih hnext)
    | false =>
      rw [List.filter_cons_of_neg (by simp [ho]), calls, if_neg (by simp [ho])]
      exact ih (hfurther s s' o os ho h)

end GovSec.Lib.Runs.System
