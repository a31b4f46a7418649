import GovSec.JsonEquality

/-!
The nesting of JSON values, and where its limit is applied.

The check and the canonical text descend a value alike, so each accepts it exactly when it is
nested at most as deep as the limit. The arguments of an action are checked on their own and
hashed one level down, so the hash accepts one level less than the check.
-/

namespace GovSec

open GovSec.Lib.Text

namespace Value

/-! ### The nesting of a value -/

/-- The elements of an array and the values of an object. -/
def children : Value → List Value
  | .array values => values
  | .object entries => entries.map Prod.snd
  | _ => []

mutual

/-- How many levels a value has below it. -/
def depth : Value → ℕ
  | .array values => elementsDepth values
  | .object entries => entriesDepth entries
  | _ => 0

def elementsDepth : List Value → ℕ
  | [] => 0
  | v :: vs => max (depth v + 1) (elementsDepth vs)

def entriesDepth : List (Str × Value) → ℕ
  | [] => 0
  | (_, v) :: es => max (depth v + 1) (entriesDepth es)

end

lemma elementsDepth_le {vs : List Value} {n : ℕ} :
    elementsDepth vs ≤ n ↔ ∀ v ∈ vs, v.depth + 1 ≤ n := by
  induction vs with
  | nil => simp [elementsDepth]
  | cons v vs ih => rw [elementsDepth, max_le_iff, ih, List.forall_mem_cons]

lemma entriesDepth_eq (es : List (Str × Value)) :
    entriesDepth es = elementsDepth (es.map Prod.snd) := by
  induction es with
  | nil => rfl
  | cons e es ih => rw [entriesDepth, ih, List.map_cons, elementsDepth]

/-- A value is nested as deep as its children, and one level more. -/
lemma depth_le {v : Value} {n : ℕ} : v.depth ≤ n ↔ ∀ w ∈ v.children, w.depth + 1 ≤ n := by
  cases v with
  | array values => exact elementsDepth_le
  | object entries => rw [depth, entriesDepth_eq]; exact elementsDepth_le
  | _ => simp [depth, children]

/-! ### Traversals under the limit -/

/-- `accepts v d`, for a value at depth `d`, checks the depth and goes on to the children. -/
def Descends (accepts : Value → ℕ → Prop) : Prop :=
  ∀ v d, accepts v d ↔ d ≤ maxJsonDepth ∧ ∀ w ∈ v.children, accepts w (d + 1)

/-- **What such a traversal accepts** is what is nested at most as deep as the limit leaves. -/
theorem Descends.accepts_iff {accepts : Value → ℕ → Prop} (h : Descends accepts) (v : Value)
    (d : ℕ) : accepts v d ↔ d + v.depth ≤ maxJsonDepth := by
  induction hn : v.depth using Nat.strongRecOn generalizing v d with
  | ind n ih =>
    subst hn
    rw [h v d]
    -- the children are nested less deep
    have hchild : ∀ w ∈ v.children, w.depth < v.depth := fun w hw => depth_le.mp le_rfl w hw
    constructor
    · rintro ⟨hd, hall⟩
      have hle : v.depth ≤ maxJsonDepth - d := depth_le.mpr fun w hw => by
        have hw' := (ih w.depth (hchild w hw) w (d + 1) rfl).mp (hall w hw)
        omega
      omega
    · intro hle
      refine ⟨by omega, fun w hw => (ih w.depth (hchild w hw) w (d + 1) rfl).mpr ?_⟩
      have := hchild w hw
      omega

/-! ### The check -/

lemma validateElements_eq_ok {vs : List Value} {d : ℕ} :
    validateElements vs d = .ok () ↔ ∀ v ∈ vs, validateJsonLimits v d = .ok () := by
  induction vs with
  | nil => simp [validateElements]
  | cons v vs ih =>
    rw [validateElements, bind_eq_ok, List.forall_mem_cons, ← ih]
    constructor
    · rintro ⟨_, hv, hvs⟩
      exact ⟨hv, hvs⟩
    · rintro ⟨hv, hvs⟩
      exact ⟨(), hv, hvs⟩

lemma validateEntries_eq (es : List (Str × Value)) (d : ℕ) :
    validateEntries es d = validateElements (es.map Prod.snd) d := by
  induction es with
  | nil => rfl
  | cons e es ih => rw [validateEntries, ih, List.map_cons, validateElements]

/-- The depth is checked first, and then each child. -/
lemma validateJsonLimits_eq (v : Value) (d : ℕ) :
    validateJsonLimits v d = failIf (maxJsonDepth < d) (.limitExceeded "json depth") >>=
      fun _ => validateElements v.children (d + 1) := by
  cases v with
  | array values => rw [validateJsonLimits, children]
  | object entries => rw [validateJsonLimits, validateEntries_eq, children]
  | _ =>
    simp only [validateJsonLimits, children, validateElements, failIf]
    split <;> rfl

lemma validateJsonLimits_descends : Descends fun v d => validateJsonLimits v d = .ok () := by
  intro v d
  simp only [← validateElements_eq_ok]
  rw [validateJsonLimits_eq, bind_eq_ok]
  simp only [failIf_eq_ok, not_lt]
  constructor
  · rintro ⟨_, hd, hvs⟩
    exact ⟨hd, hvs⟩
  · rintro ⟨hd, hvs⟩
    exact ⟨(), hd, hvs⟩

/-- The check accepts the values that are nested at most as deep as the limit. -/
lemma validateJsonLimits_eq_ok {v : Value} :
    validateJsonLimits v 0 = .ok () ↔ v.depth ≤ maxJsonDepth := by
  have h := validateJsonLimits_descends.accepts_iff v 0
  rwa [Nat.zero_add] at h

/-! ### The canonical text -/

variable {P : Platform}

lemma exists_forall₂ {α β : Type} {R : α → β → Prop} {as : List α} :
    (∃ bs, List.Forall₂ R as bs) ↔ ∀ a ∈ as, ∃ b, R a b := by
  induction as with
  | nil => simp
  | cons a as ih =>
    rw [List.forall_mem_cons, ← ih]
    constructor
    · rintro ⟨_, _ | ⟨hab, h⟩⟩
      exact ⟨⟨_, hab⟩, _, h⟩
    · rintro ⟨⟨b, hab⟩, bs, h⟩
      exact ⟨b :: bs, .cons hab h⟩

/-- An array or object has a text when each of its children has one. -/
lemma exists_writeElements {vs : List Value} {d : ℕ} :
    (∃ ts, writeElements P vs d = .ok ts) ↔ ∀ v ∈ vs, ∃ t, writeCanonicalJson P v d = .ok t := by
  simp only [writeElements_eq_ok, exists_forall₂]

lemma exists_writeEntries {es : List (Str × Value)} {d : ℕ} :
    (∃ items, writeEntries P es d = .ok items) ↔
      ∀ v ∈ es.map Prod.snd, ∃ t, writeCanonicalJson P v d = .ok t := by
  simp only [writeEntries_eq_ok, exists_forall₂, List.forall_mem_map]
  refine forall₂_congr fun e _ => ⟨?_, ?_⟩
  · rintro ⟨item, -, h⟩
    exact ⟨item.2, h⟩
  · rintro ⟨t, h⟩
    exact ⟨(e.1, t), rfl, h⟩

lemma writeCanonicalJson_descends : Descends fun v d => ∃ t, writeCanonicalJson P v d = .ok t := by
  intro v d
  cases v with
  | array values =>
    rw [children, ← exists_writeElements, ← not_lt]
    simp only [writeCanonicalJson]
    exact exists_checked
  | object entries =>
    rw [children, ← exists_writeEntries, ← not_lt]
    simp only [writeCanonicalJson]
    exact exists_checked
  | _ =>
    simp only [writeCanonicalJson, children, bind_eq_ok, failIf_eq_ok, pure_eq_ok, not_lt]
    constructor
    · rintro ⟨_, _, hd, -⟩
      exact ⟨hd, fun w hw => absurd hw List.not_mem_nil⟩
    · rintro ⟨hd, -⟩
      exact ⟨_, (), hd, rfl⟩

/-- A value has a canonical text when it is nested at most as deep as the limit. -/
lemma exists_canonicalJson {v : Value} :
    (∃ t, canonicalJson P v = .ok t) ↔ v.depth ≤ maxJsonDepth := by
  have h := (writeCanonicalJson_descends (P := P)).accepts_iff v 0
  rwa [Nat.zero_add] at h

lemma exists_hashCanonical {v : Value} :
    (∃ h, hashCanonical P v = .ok h) ↔ v.depth ≤ maxJsonDepth := by
  rw [← exists_canonicalJson (P := P)]
  simp only [hashCanonical, bind_eq_ok, pure_eq_ok]
  constructor
  · rintro ⟨_, t, ht, -⟩
    exact ⟨t, ht⟩
  · rintro ⟨t, ht⟩
    exact ⟨_, t, ht, rfl⟩

/-- A value in `n` arrays. -/
def nest : ℕ → Value → Value
  | 0, v => v
  | n + 1, v => .array [nest n v]

end Value

namespace ActionEnvelope

variable {P : Platform} {e : ActionEnvelope}

/-- The hash material is nested one level deeper than the arguments. -/
lemma depth_hashMaterial (e : ActionEnvelope) :
    e.hashMaterial.depth = max (e.arguments.depth + 1) 2 := by
  simp only [hashMaterial, Value.depth, Value.entriesDepth]
  omega

/-- The validation accepts the arguments up to the limit. -/
lemma depth_arguments_le (hv : e.validateMaterial P = .ok ()) :
    e.arguments.depth ≤ maxJsonDepth := by
  simp only [validateMaterial, bind_eq_ok] at hv
  obtain ⟨_, -, _, -, _, -, _, -, _, -, _, -, _, -, _, -, _, -, _, -, _, -, _, hlimits, -⟩ := hv
  exact Value.validateJsonLimits_eq_ok.mp hlimits

/-- The hash accepts them below it. -/
lemma exists_computeHash :
    (∃ h, e.computeHash P = .ok h) ↔ e.arguments.depth < maxJsonDepth := by
  have h : (∃ h, e.computeHash P = .ok h) ↔ e.hashMaterial.depth ≤ maxJsonDepth :=
    Value.exists_hashCanonical
  have htwo : 2 ≤ maxJsonDepth := by decide
  rw [h, depth_hashMaterial]
  omega

lemma exists_seal (hv : e.validateMaterial P = .ok ()) :
    (∃ sealed, e.seal P = .ok sealed) ↔ ∃ h, e.computeHash P = .ok h := by
  simp only [«seal», bind_eq_ok, pure_eq_ok]
  constructor
  · rintro ⟨_, _, -, h, hh, -⟩
    exact ⟨h, hh⟩
  · rintro ⟨h, hh⟩
    exact ⟨_, (), hv, h, hh, rfl⟩

/-- **What can be sealed.** An envelope that passes the validation of its material has arguments
nested at most as deep as the limit. It has a hash, and can be sealed, exactly when they are nested
less deep. -/
theorem sealed_of_validateMaterial_iff (hv : e.validateMaterial P = .ok ()) :
    e.arguments.depth ≤ maxJsonDepth ∧
      ((∃ h, e.computeHash P = .ok h) ↔ e.arguments.depth < maxJsonDepth) ∧
      ((∃ sealed, e.seal P = .ok sealed) ↔ e.arguments.depth < maxJsonDepth) :=
  ⟨depth_arguments_le hv, exists_computeHash, (exists_seal hv).trans exists_computeHash⟩

/-- An envelope with arguments at the limit. -/
def deepEnvelope : ActionEnvelope :=
  bareEnvelope "write" "notes.txt" (Value.nest maxJsonDepth .null)

theorem sealed_of_validateMaterial_iff_writeEnvelope :
    ∃ sealed, (writeEnvelope [("path", .string "notes.txt")]).seal silentPlatform = .ok sealed :=
  (sealed_of_validateMaterial_iff rfl).2.2.mpr (by decide)

set_option maxRecDepth 4000 in
/-- The check accepts arguments that the hash then refuses. -/
theorem deepEnvelope_not_sealed : ¬ ∀ (P : Platform) (e : ActionEnvelope),
    e.validateMaterial P = .ok () →
      (∃ h, e.computeHash P = .ok h) ∧ ∃ sealed, e.seal P = .ok sealed := by
  intro h
  have hv : deepEnvelope.validateMaterial silentPlatform = .ok () := rfl
  have hdepth : ¬ deepEnvelope.arguments.depth < maxJsonDepth := by decide
  exact hdepth (exists_computeHash.mp (h silentPlatform deepEnvelope hv).1)

end ActionEnvelope

end GovSec
