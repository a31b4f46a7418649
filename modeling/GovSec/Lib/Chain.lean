import Mathlib

/-!
Hash chains over entries of any kind.

Every entry names the hash of the entry before it, and the first one names a given start.
The hash of the last entry then fixes the whole chain as far as hashes fix entries.
-/

namespace GovSec.Lib.Chain

variable {ε η : Type*} (prev hash : ε → η)

/-- Each entry names the hash of the one before it, the first one names `h`. -/
def Linked : η → List ε → Prop
  | _, [] => True
  | h, e :: es => prev e = h ∧ Linked (hash e) es

/-- The hash of the last entry, or the start of an empty chain. -/
def head : η → List ε → η
  | h, [] => h
  | _, e :: es => head (hash e) es

@[simp] lemma head_concat (h : η) (es : List ε) (e : ε) : head hash h (es ++ [e]) = hash e := by
  induction es generalizing h with
  | nil => rfl
  | cons d es ih => exact ih (hash d)

lemma linked_concat {h : η} {es : List ε} {e : ε} :
    Linked prev hash h (es ++ [e]) ↔
      Linked prev hash h es ∧ prev e = head hash h es := by
  induction es generalizing h with
  | nil => simp [Linked, head]
  | cons d es ih => simp [Linked, head, ih, and_assoc]

variable {prev hash}

/-- The hashes that a chain names are those it starts from, and its head is the last. -/
lemma Linked.map_prev_concat {h : η} {es : List ε} (hes : Linked prev hash h es) :
    es.map prev ++ [head hash h es] = h :: es.map hash := by
  induction es generalizing h with
  | nil => rfl
  | cons e es ih =>
    simp only [List.map_cons, List.cons_append, head, ih hes.2, hes.1]

/-- **A chain does not come back.** When equal hashes come from equal previous hashes and the
start is the hash of no entry, all hashes of a chain differ. -/
theorem Linked.nodup {h : η} {es : List ε} (hes : Linked prev hash h es)
    (hne : ∀ e ∈ es, hash e ≠ h)
    (hinj : ∀ e ∈ es, ∀ e' ∈ es, hash e = hash e' → prev e = prev e') :
    (h :: es.map hash).Nodup := by
  induction es using List.reverseRecOn with
  | nil => simp
  | append_singleton es e ih =>
    obtain ⟨hlinked, hprev⟩ := (linked_concat prev hash).mp hes
    have hnodup := ih hlinked (fun e he => hne e (by simp [he]))
      fun a ha b hb => hinj a (by simp [ha]) b (by simp [hb])
    have hfresh : hash e ∉ h :: es.map hash := by
      rw [List.mem_cons, List.mem_map]
      rintro (heq | ⟨d, hd, heq⟩)
      · exact hne e (by simp) heq
      · -- the entry would name the head of the chain, and so would `d`, an earlier entry
        rw [← hlinked.map_prev_concat] at hnodup
        have hsame : head hash h es = prev d := by
          rw [← hprev, hinj d (by simp [hd]) e (by simp) heq]
        have hmem : head hash h es ∈ es.map prev := hsame ▸ List.mem_map_of_mem hd
        exact (List.disjoint_of_nodup_append hnodup) hmem (List.mem_singleton.mpr rfl)
    rw [List.map_append, ← List.cons_append]
    exact List.nodup_append.mpr ⟨hnodup, by simp, fun a ha b hb => by
      obtain rfl := List.mem_singleton.mp hb
      rintro rfl
      exact hfresh ha⟩

/-- **The head fixes the chain.** Two chains of one length with one head agree entry by entry
on all that equal hashes tell about their entries, when that includes the hash before. -/
theorem Linked.forall₂_of_head {R : ε → ε → Prop} {es es' : List ε} {h h' : η}
    (hinj : ∀ e ∈ es, ∀ e' ∈ es', hash e = hash e' → R e e')
    (hprev : ∀ e e', R e e' → prev e = prev e') (hlen : es.length = es'.length)
    (hes : Linked prev hash h es) (hes' : Linked prev hash h' es')
    (hhead : head hash h es = head hash h' es') : List.Forall₂ R es es' := by
  induction es using List.reverseRecOn generalizing es' with
  | nil =>
    obtain rfl : es' = [] := List.length_eq_zero_iff.mp hlen.symm
    exact .nil
  | append_singleton es e ih =>
    rcases List.eq_nil_or_concat es' with rfl | ⟨fs, f, rfl⟩
    · simp at hlen
    · rw [List.concat_eq_append] at hinj hlen hes' hhead ⊢
      rw [head_concat, head_concat] at hhead
      have hR : R e f := hinj e (by simp) f (by simp) hhead
      rw [linked_concat] at hes hes'
      have hhead' : head hash h es = head hash h' fs := by rw [← hes.2, ← hes'.2, hprev e f hR]
      have hrest := ih (fun a ha b hb => hinj a (by simp [ha]) b (by simp [hb]))
        (by simpa using hlen) hes.1 hes'.1 hhead'
      exact List.rel_append hrest (.cons hR .nil)

end GovSec.Lib.Chain
