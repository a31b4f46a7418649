import GovSec.Lib.Runs

/-!
Systems whose steps join a level into what shows of their state.

What shows of the state after a run is the join of what showed at its start and of the levels of
its operations. It depends neither on the order of the operations nor on how often each is done.
-/

namespace GovSec.Lib.Joins

open GovSec.Lib.Runs

variable {α : Type*} [SemilatticeSup α] [OrderBot α]

/-- The join of a list. -/
def joined (levels : List α) : α := (levels : Multiset α).sup

@[simp] lemma joined_nil : joined ([] : List α) = ⊥ := rfl

@[simp] lemma joined_cons (b : α) (levels : List α) : joined (b :: levels) = b ⊔ joined levels :=
  Multiset.sup_cons b (levels : Multiset α)

lemma joined_le {levels : List α} {a : α} : joined levels ≤ a ↔ ∀ b ∈ levels, b ≤ a :=
  Multiset.sup_le

lemma le_joined {levels : List α} {b : α} (h : b ∈ levels) : b ≤ joined levels :=
  joined_le.mp le_rfl b h

/-- The join of a list depends on its members only. -/
lemma joined_congr {levels levels' : List α} (h : ∀ b, b ∈ levels ↔ b ∈ levels') :
    joined levels = joined levels' := by
  apply le_antisymm
  · exact joined_le.mpr fun b hb => le_joined ((h b).mp hb)
  · exact joined_le.mpr fun b hb => le_joined ((h b).mpr hb)

section Runs

variable {σ ω ρ ι : Type*} {M : System σ ω ρ} {I : σ → Prop} {view : σ → α} {level : ω → α}
  {s : σ} {os os' : List ω}

/-- From a state in `I`, which no step leaves, a step joins the level of its operation into the
view of the state. -/
structure JoinsOn (M : System σ ω ρ) (I : σ → Prop) (view : σ → α) (level : ω → α) : Prop where
  stays : ∀ s o, I s → I (M.step s o).2
  joins : ∀ s o, I s → view (M.step s o).2 = view s ⊔ level o

/-- **The view after a run** is the join of the view before it and of all levels. -/
theorem JoinsOn.exec (h : JoinsOn M I view level) (hs : I s) (os : List ω) :
    view (M.exec s os).2 = view s ⊔ joined (os.map level) := by
  induction os generalizing s with
  | nil => simp [System.exec]
  | cons o os ih =>
    have hrun : (M.exec s (o :: os)).2 = (M.exec (M.step s o).2 os).2 := rfl
    rw [hrun, ih (h.stays s o hs), h.joins s o hs, List.map_cons, joined_cons, sup_assoc]

/-- Two runs whose operations are alike, in any order and number, show the same; `input` is what a
level depends on. -/
theorem JoinsOn.exec_congr {input : ω → ι} {f : ι → α} (h : JoinsOn M I view (f ∘ input)) (hs : I s)
    (halike : ∀ x, x ∈ os.map input ↔ x ∈ os'.map input) :
    view (M.exec s os).2 = view (M.exec s os').2 := by
  rw [h.exec hs, h.exec hs, ← List.map_map, ← List.map_map]
  congr 1
  refine joined_congr fun b => ?_
  rw [List.mem_map, List.mem_map]
  exact exists_congr fun x => and_congr_left fun _ => halike x

end Runs

end GovSec.Lib.Joins
