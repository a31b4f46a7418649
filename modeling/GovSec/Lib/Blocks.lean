import GovSec.Lib.Runs

/-!
A machine behind a machine.

When every step of an outer machine asks some operations of an inner one, a run of the outer machine
is a run of the inner one, block by block. An event of the inner run then belongs to one event of
the outer run, and what came before it belongs to earlier ones.
-/

namespace GovSec.Lib.Runs

/-! ### Lists of blocks -/

section Flatten

variable {α β : Type*} {R : α → List β → Prop} {es : List α} {blocks : List (List β)}

/-- **The block of an element**: the blocks before it flatten to what precedes it. -/
theorem split_flatten (h : List.Forall₂ R es blocks) {as bs : List β} {b : β}
    (hs : blocks.flatten = as ++ b :: bs) : ∃ es₁ e es₂ blocks₁ front back,
      es = es₁ ++ e :: es₂ ∧ List.Forall₂ R es₁ blocks₁ ∧ as = blocks₁.flatten ++ front ∧
        R e (front ++ b :: back) := by
  induction h generalizing as with
  | nil => simp at hs
  | @cons e block es blocks he h ih =>
    rw [List.flatten_cons] at hs
    rcases List.append_eq_append_iff.mp hs with ⟨cs, rfl, hrest⟩ | ⟨cs, rfl, hblock⟩
    · -- the element comes after the first block
      obtain ⟨es₁, e', es₂, blocks₁, front, back, rfl, hes, rfl, he'⟩ := ih hrest
      exact ⟨e :: es₁, e', es₂, block :: blocks₁, front, back, rfl, .cons he hes, by simp, he'⟩
    · cases cs with
      | nil =>
        have hrest : blocks.flatten = [] ++ b :: bs := by simpa using hblock.symm
        obtain ⟨es₁, e', es₂, blocks₁, front, back, rfl, hes, hnil, he'⟩ := ih hrest
        refine ⟨e :: es₁, e', es₂, (as ++ []) :: blocks₁, front, back, rfl, .cons he hes, ?_, he'⟩
        rw [List.flatten_cons, List.append_assoc, ← hnil, List.append_nil, List.append_nil]
      | cons c cs =>
        obtain ⟨rfl, -⟩ := List.cons.inj hblock
        exact ⟨[], e, es, [], as, cs, rfl, .nil, rfl, he⟩

lemma exists_of_mem_flatten (h : List.Forall₂ R es blocks) {b : β} (hb : b ∈ blocks.flatten) :
    ∃ e ∈ es, ∃ block, R e block ∧ b ∈ block := by
  induction h with
  | nil => simp at hb
  | @cons e block es blocks he h ih =>
    rw [List.flatten_cons, List.mem_append] at hb
    rcases hb with hb | hb
    · exact ⟨e, List.mem_cons_self, block, he, hb⟩
    · obtain ⟨e', he', hrest⟩ := ih hb
      exact ⟨e', List.mem_cons_of_mem e he', hrest⟩

lemma exists_block_of_mem (h : List.Forall₂ R es blocks) {e : α} (he : e ∈ es) :
    ∃ block ∈ blocks, R e block := by
  induction h with
  | nil => cases he
  | @cons e' block es blocks he' h ih =>
    rcases List.mem_cons.mp he with rfl | he
    · exact ⟨block, List.mem_cons_self, he'⟩
    · obtain ⟨block', hblock', hrest⟩ := ih he
      exact ⟨block', List.mem_cons_of_mem block hblock', hrest⟩

end Flatten

/-! ### Runs in blocks -/

namespace System

variable {σ ω ρ τ ι κ : Type*} (M : System σ ω ρ) (N : System τ ι κ) (view : σ → τ)
  (asks : σ → ω → List ι)

/-- The block of an event of the outer machine: in the state in which it was answered, what it
asked of the inner machine and what the inner machine answered. -/
def BlockOf (s₀ : σ) (e : ω × ρ) (block : List (ι × κ)) : Prop :=
  ∃ s, (∃ es, M.Run s₀ es s) ∧ e.2 = (M.step s e.1).1 ∧
    block = (N.exec (view s) (asks s e.1)).1

variable {M N view asks} {s₀ s : σ} {es : List (ω × ρ)}

/-- **A run in blocks.** -/
theorem Run.blocks (hstep : ∀ s o, view (M.step s o).2 = (N.exec (view s) (asks s o)).2)
    (h : M.Run s₀ es s) : ∃ blocks, List.Forall₂ (M.BlockOf N view asks s₀) es blocks ∧
      N.Run (view s₀) blocks.flatten (view s) := by
  induction h with
  | nil => exact ⟨[], .nil, .nil⟩
  | @snoc es s h o ih =>
    obtain ⟨blocks, hblocks, hrun⟩ := ih
    refine ⟨blocks ++ [(N.exec (view s) (asks s o)).1], ?_, ?_⟩
    · exact List.rel_append hblocks (.cons ⟨s, ⟨es, h⟩, rfl, rfl⟩ .nil)
    · rw [hstep, List.flatten_append, List.flatten_singleton]
      exact hrun.append_exec _

/-- A run up to an event, the event, and the run from there. -/
theorem Run.split_run (h : M.Run s₀ es s) {as bs : List (ω × ρ)} {e : ω × ρ}
    (hes : es = as ++ e :: bs) : ∃ s', M.Run s₀ as s' ∧ e.2 = (M.step s' e.1).1 ∧
      M.Run (M.step s' e.1).2 bs s := by
  induction h generalizing bs with
  | nil => simp at hes
  | @snoc es s h o ih =>
    rcases List.eq_nil_or_concat bs with rfl | ⟨cs, c, rfl⟩
    · obtain ⟨rfl, he⟩ := List.append_inj' hes rfl
      obtain rfl : (o, (M.step s o).1) = e := by simpa using he
      exact ⟨s, h, rfl, .nil⟩
    · have hes' : es ++ [(o, (M.step s o).1)] = (as ++ e :: cs) ++ [c] := by simpa using hes
      obtain ⟨rfl, hc⟩ := List.append_inj' hes' rfl
      obtain rfl : (o, (M.step s o).1) = c := by simpa using hc
      obtain ⟨s', hrun, he, hrest⟩ := ih rfl
      rw [List.concat_eq_append]
      exact ⟨s', hrun, he, hrest.snoc o⟩

/-! ### Steps that leave the state -/

/-- **Steps that leave the state can be left out**: the others are answered alike, and the run ends
in the same state. -/
theorem exec_filter {q : ω → Bool} (h : ∀ s o, q o = false → (M.step s o).2 = s) (s : σ)
    (os : List ω) : M.exec s (os.filter q) =
      ((M.exec s os).1.filter fun e => q e.1, (M.exec s os).2) := by
  induction os generalizing s with
  | nil => rfl
  | cons o os ih =>
    cases hq : q o with
    | true => simp only [List.filter_cons, hq, if_true, exec, ih]
    | false => simp only [List.filter_cons, hq, Bool.false_eq_true, if_false, exec, ih, h s o hq]

/-- What holds of every step in every state holds throughout. -/
lemma always_of_forall {Q : σ → ω → Prop} (h : ∀ s o, Q s o) (s : σ) (os : List ω) :
    M.Always Q s os := by
  induction os generalizing s with
  | nil => trivial
  | cons o os ih => exact ⟨h s o, ih _⟩

end System

end GovSec.Lib.Runs
