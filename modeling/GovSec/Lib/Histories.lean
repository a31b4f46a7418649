import Mathlib

/-!
What a history still says: that something has happened and nothing has ended it since.

A history grows at its end, so a fact of this form is kept up by one rule, which says what one
more event does to it.
-/

namespace GovSec.Lib.Histories

variable {ε : Type*} {Ends Q R : ε → Prop} {es : List ε} {e : ε}

/-- An event with `Q` has happened, and none with `Ends` after it. -/
def Since (Ends Q : ε → Prop) (es : List ε) : Prop :=
  ∃ pre e post, es = pre ++ e :: post ∧ Q e ∧ ∀ e' ∈ post, ¬ Ends e'

@[simp] lemma not_since_nil : ¬ Since Ends Q [] := by
  rintro ⟨pre, e, post, h, -⟩
  simp at h

/-- **One more event.** -/
theorem since_concat : Since Ends Q (es ++ [e]) ↔ Q e ∨ ¬ Ends e ∧ Since Ends Q es := by
  constructor
  · rintro ⟨pre, d, post, h, hd, hpost⟩
    rcases List.eq_nil_or_concat post with rfl | ⟨post, e', rfl⟩
    · obtain ⟨-, he⟩ := List.append_inj' h rfl
      obtain rfl : e = d := by simpa using he
      exact .inl hd
    · have h' : es ++ [e] = (pre ++ d :: post) ++ [e'] := by simpa using h
      obtain ⟨rfl, he⟩ := List.append_inj' h' rfl
      obtain rfl : e = e' := by simpa using he
      exact .inr ⟨hpost e (by simp), pre, d, post, rfl, hd, fun c hc => hpost c (by simp [hc])⟩
  · rintro (he | ⟨he, pre, d, post, rfl, hd, hpost⟩)
    · exact ⟨es, e, [], rfl, he, by simp⟩
    · refine ⟨pre, d, post ++ [e], by simp, hd, fun c hc => ?_⟩
      rcases List.mem_append.mp hc with hc | hc
      · exact hpost c hc
      · exact List.mem_singleton.mp hc ▸ he

lemma Since.imp (h : Since Ends Q es) (hQ : ∀ e, Q e → R e) : Since Ends R es := by
  obtain ⟨pre, e, post, hes, he, hpost⟩ := h
  exact ⟨pre, e, post, hes, hQ e he, hpost⟩

lemma Since.exists_mem (h : Since Ends Q es) : ∃ e ∈ es, Q e := by
  obtain ⟨pre, e, post, rfl, he, -⟩ := h
  exact ⟨e, by simp, he⟩

/-- Only the events of the history matter. -/
lemma since_congr {Ends' Q' : ε → Prop} (hends : ∀ e ∈ es, Ends e ↔ Ends' e)
    (hQ : ∀ e ∈ es, Q e ↔ Q' e) : Since Ends Q es ↔ Since Ends' Q' es := by
  constructor
  · rintro ⟨pre, e, post, rfl, he, hpost⟩
    exact ⟨pre, e, post, rfl, (hQ e (by simp)).mp he,
      fun c hc hend => hpost c hc ((hends c (by simp [hc])).mpr hend)⟩
  · rintro ⟨pre, e, post, rfl, he, hpost⟩
    exact ⟨pre, e, post, rfl, (hQ e (by simp)).mpr he,
      fun c hc hend => hpost c hc ((hends c (by simp [hc])).mp hend)⟩

/-- The last event of a kind that has happened. -/
lemma exists_last (he : e ∈ es) (hend : Ends e) :
    ∃ d ∈ es, Ends d ∧ Since Ends (· = d) es := by
  induction es using List.reverseRecOn with
  | nil => cases he
  | append_singleton es c ih =>
    by_cases hc : Ends c
    · exact ⟨c, by simp, hc, since_concat.mpr (.inl rfl)⟩
    · have hmem : e ∈ es := by
        rcases List.mem_append.mp he with h | h
        · exact h
        · exact absurd (List.mem_singleton.mp h ▸ hend) hc
      obtain ⟨d, hd, hdend, hsince⟩ := ih hmem
      exact ⟨d, by simp [hd], hdend, since_concat.mpr (.inr ⟨hc, hsince⟩)⟩

end GovSec.Lib.Histories
