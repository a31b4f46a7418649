import GovSec.EnvelopeBinding
import GovSec.Lib.KeyedLists

/-!
Equality of JSON values, with objects as maps from keys to values.

A map has one value for a key, and so every object has distinct keys. For such values the sorted
form decides equality, and the canonical text is the text of the sorted form.
-/

namespace GovSec

open GovSec.Lib.Text GovSec.Lib.KeyedLists

namespace Value

/-! ### The order of keys -/

lemma keyLe_total (a b : Str) : keyLe a b = true ∨ keyLe b a = true := by
  induction a generalizing b with
  | nil => exact .inl rfl
  | cons c cs ih =>
    cases b with
    | nil => exact .inr rfl
    | cons d ds =>
      simp only [keyLe, Bool.or_eq_true, Bool.and_eq_true, decide_eq_true_eq]
      rcases lt_trichotomy c.toNat d.toNat with h | h | h
      · exact .inl (.inl h)
      · obtain rfl : c = d := Char.ext (UInt32.toNat_inj.mp h)
        exact (ih ds).imp (fun h => .inr ⟨rfl, h⟩) fun h => .inr ⟨rfl, h⟩
      · exact .inr (.inl h)

lemma keyLe_trans (a b c : Str) (hab : keyLe a b = true) (hbc : keyLe b c = true) :
    keyLe a c = true := by
  induction a generalizing b c with
  | nil => rfl
  | cons x xs ih =>
    cases b with
    | nil => cases hab
    | cons y ys =>
      cases c with
      | nil => cases hbc
      | cons z zs =>
        simp only [keyLe, Bool.or_eq_true, Bool.and_eq_true, decide_eq_true_eq] at hab hbc ⊢
        rcases hab with hxy | ⟨rfl, hxy⟩
        · rcases hbc with hyz | ⟨rfl, -⟩
          · exact .inl (hxy.trans hyz)
          · exact .inl hxy
        · rcases hbc with hyz | ⟨rfl, hyz⟩
          · exact .inl hyz
          · exact .inr ⟨rfl, ih ys zs hxy hyz⟩

lemma keyLe_antisymm (a b : Str) (hab : keyLe a b = true) (hba : keyLe b a = true) : a = b := by
  induction a generalizing b with
  | nil =>
    cases b with
    | nil => rfl
    | cons d ds => cases hba
  | cons c cs ih =>
    cases b with
    | nil => cases hab
    | cons d ds =>
      simp only [keyLe, Bool.or_eq_true, Bool.and_eq_true, decide_eq_true_eq] at hab hba
      rcases hab with hcd | ⟨rfl, hcd⟩
      · rcases hba with hdc | ⟨rfl, -⟩
        · exact absurd hdc hcd.asymm
        · exact absurd hcd (lt_irrefl _)
      · rcases hba with hcc | ⟨-, hdc⟩
        · exact absurd hcc (lt_irrefl _)
        · rw [ih ds hcd hdc]

instance : Std.Total fun a b : Str => keyLe a b = true := ⟨keyLe_total⟩
instance : IsTrans Str fun a b => keyLe a b = true := ⟨keyLe_trans⟩
instance : Std.Antisymm fun a b : Str => keyLe a b = true := ⟨keyLe_antisymm⟩

lemma sortEntries_eq {α : Type} (es : List (Str × α)) :
    sortEntries es = sortByKey (fun a b => keyLe a b = true) es := rfl

lemma getEntry_eq (es : List (Str × Value)) (k : Str) : getEntry es k = get es k := rfl

/-! ### The same value -/

/-- The same JSON value: arrays are compared element by element, objects key by key. -/
inductive SameValue : Value → Value → Prop
  | null : SameValue .null .null
  | bool (b : Bool) : SameValue (.bool b) (.bool b)
  | number (n : Number) : SameValue (.number n) (.number n)
  | string (s : Str) : SameValue (.string s) (.string s)
  | array {vs ws : List Value} (hlength : vs.length = ws.length)
      (helements : ∀ (i : ℕ) v w, vs[i]? = some v → ws[i]? = some w → SameValue v w) :
      SameValue (.array vs) (.array ws)
  | object {es fs : List (Str × Value)}
      (hkeys : ∀ k, (getEntry es k).isSome = (getEntry fs k).isSome)
      (hentries : ∀ k v w, getEntry es k = some v → getEntry fs k = some w → SameValue v w) :
      SameValue (.object es) (.object fs)

/-- Every object of the value, at any depth, has distinct keys. -/
inductive DistinctKeys : Value → Prop
  | null : DistinctKeys .null
  | bool (b : Bool) : DistinctKeys (.bool b)
  | number (n : Number) : DistinctKeys (.number n)
  | string (s : Str) : DistinctKeys (.string s)
  | array {vs : List Value} (h : ∀ v ∈ vs, DistinctKeys v) : DistinctKeys (.array vs)
  | object {es : List (Str × Value)} (hkeys : (keys es).Nodup)
      (h : ∀ e ∈ es, DistinctKeys e.2) : DistinctKeys (.object es)

lemma keys_sortedEntries (es : List (Str × Value)) : keys (sortedEntries es) = keys es := by
  simp [sortedEntries_eq, keys]

/-- The sorted form of an object finds the sorted values. -/
lemma get_sortEntries {es : List (Str × Value)} (hn : (keys es).Nodup) (k : Str) :
    get (sortEntries (sortedEntries es)) k = (getEntry es k).map sorted := by
  rw [sortEntries_eq, get_sortByKey (by rwa [keys_sortedEntries]), sortedEntries_eq, get_map]
  rfl

/-- The same values have the same sorted form. -/
lemma SameValue.sorted_eq {v w : Value} (h : SameValue v w) (hv : DistinctKeys v)
    (hw : DistinctKeys w) : v.sorted = w.sorted := by
  induction h with
  | null | bool | number | string => rfl
  | @array vs ws hlength helements ih =>
    cases hv with
    | array hvs =>
    cases hw with
    | array hws =>
    rw [sorted, sorted, sortedElements_eq, sortedElements_eq]
    congr 1
    refine List.ext_getElem (by simpa using hlength) fun i hi hi' => ?_
    rw [List.length_map] at hi hi'
    rw [List.getElem_map, List.getElem_map]
    exact ih i _ _ (List.getElem?_eq_getElem hi) (List.getElem?_eq_getElem hi')
      (hvs _ (List.getElem_mem hi)) (hws _ (List.getElem_mem hi'))
  | @object es fs hkeys hentries ih =>
    cases hv with
    | object hes hvs =>
    cases hw with
    | object hfs hws =>
    rw [sorted, sorted, sortEntries_eq, sortEntries_eq]
    congr 1
    refine sortByKey_eq_of_get (by rwa [keys_sortedEntries]) (by rwa [keys_sortedEntries])
      fun k => ?_
    rw [sortedEntries_eq, sortedEntries_eq, get_map, get_map]
    have hk := hkeys k
    rw [getEntry_eq, getEntry_eq] at hk
    cases hv : get es k with
    | none =>
      rw [hv] at hk
      have hnone : get fs k = none := by simpa using hk.symm
      rw [hnone]
    | some v =>
      rw [hv] at hk
      obtain ⟨w, hw⟩ := Option.isSome_iff_exists.mp hk.symm
      rw [hw, Option.map_some, Option.map_some,
        ih k v w hv hw (hvs _ ((get_eq_some_iff hes).mp hv)) (hws _ ((get_eq_some_iff hfs).mp hw))]

/-- Values with the same sorted form are the same. -/
lemma sameValue_of_sorted {v : Value} (hv : DistinctKeys v) {w : Value} (hw : DistinctKeys w)
    (h : v.sorted = w.sorted) : SameValue v w := by
  induction hv generalizing w with
  | null =>
    cases w <;> simp [sorted] at h
    exact .null
  | bool | number | string =>
    cases w <;> simp [sorted] at h
    subst h
    constructor
  | @array vs _ ih =>
    cases hw with
    | @array ws hws =>
      rw [sorted, sorted, sortedElements_eq, sortedElements_eq] at h
      have hmap := array.inj h
      refine .array (by simpa using congrArg List.length hmap) fun i v w hv hw => ?_
      refine ih v (List.mem_of_getElem? hv) (hws w (List.mem_of_getElem? hw)) ?_
      have hi := congrArg (·[i]?) hmap
      simpa [hv, hw] using hi
    | _ => simp [sorted] at h
  | @object es hes _ ih =>
    cases hw with
    | @object fs hfs hws =>
      rw [sorted, sorted] at h
      have hget : ∀ k, (getEntry es k).map sorted = (getEntry fs k).map sorted := fun k => by
        rw [← get_sortEntries hes, ← get_sortEntries hfs, object.inj h]
      refine .object (fun k => by simpa using congrArg Option.isSome (hget k))
        fun k v w hv hw => ?_
      refine ih (k, v) ((get_eq_some_iff hes).mp hv) (hws _ ((get_eq_some_iff hfs).mp hw)) ?_
      have hk := hget k
      rwa [hv, hw, Option.map_some, Option.map_some, Option.some.injEq] at hk
    | _ => simp [sorted] at h

/-! ### The canonical text -/

variable {P : Platform}

lemma writeElements_eq_ok {vs : List Value} {depth : ℕ} {ts : List Str} :
    writeElements P vs depth = .ok ts ↔
      List.Forall₂ (fun v t => writeCanonicalJson P v depth = .ok t) vs ts := by
  induction vs generalizing ts with
  | nil =>
    rw [List.forall₂_nil_left_iff]
    simp [writeElements, eq_comm]
  | cons v vs ih =>
    rw [List.forall₂_cons_left_iff]
    simp only [writeElements, bind_eq_ok, pure_eq_ok, ih]
    constructor
    · rintro ⟨t, hv, us, hvs, rfl⟩
      exact ⟨t, us, hv, hvs, rfl⟩
    · rintro ⟨t, us, hv, hvs, rfl⟩
      exact ⟨t, hv, us, hvs, rfl⟩

lemma writeEntries_eq_ok {es : List (Str × Value)} {depth : ℕ} {items : List (Str × Str)} :
    writeEntries P es depth = .ok items ↔
      List.Forall₂ (fun e item => e.1 = item.1 ∧ writeCanonicalJson P e.2 depth = .ok item.2)
        es items := by
  induction es generalizing items with
  | nil =>
    rw [List.forall₂_nil_left_iff]
    simp [writeEntries, eq_comm]
  | cons e es ih =>
    obtain ⟨k, v⟩ := e
    rw [List.forall₂_cons_left_iff]
    simp only [writeEntries, bind_eq_ok, pure_eq_ok, ih]
    constructor
    · rintro ⟨t, hv, us, hes, rfl⟩
      exact ⟨(k, t), us, ⟨rfl, hv⟩, hes, rfl⟩
    · rintro ⟨⟨l, t⟩, us, ⟨rfl, hv⟩, hes, rfl⟩
      exact ⟨t, hv, us, hes, rfl⟩

/-- **Sorting first changes nothing**: the canonical text of a value is that of its sorted form. -/
lemma writeCanonicalJson_sorted {v : Value} (hv : DistinctKeys v) {depth : ℕ} {t : Str}
    (h : writeCanonicalJson P v depth = .ok t) : writeCanonicalJson P v.sorted depth = .ok t := by
  induction hv generalizing depth t with
  | null | bool | number | string => exact h
  | @array vs _ ih =>
    simp only [sorted, writeCanonicalJson, bind_eq_ok, pure_eq_ok, writeElements_eq_ok] at h ⊢
    obtain ⟨_, hdepth, items, hitems, rfl⟩ := h
    refine ⟨_, hdepth, items, ?_, rfl⟩
    rw [sortedElements_eq, List.forall₂_map_left_iff]
    exact ((List.forall₂_and_left _ _).mpr ⟨fun v hv => @ih v hv _, hitems⟩).imp fun v t hvt =>
      hvt.1 hvt.2
  | @object es _ _ ih =>
    simp only [sorted, writeCanonicalJson, bind_eq_ok, pure_eq_ok, writeEntries_eq_ok] at h ⊢
    obtain ⟨_, hdepth, items, hitems, rfl⟩ := h
    refine ⟨_, hdepth, sortEntries items, ?_, ?_⟩
    · refine forall₂_sortEntries (fun a b hab => hab.1) ?_
      rw [sortedEntries_eq, List.forall₂_map_left_iff]
      exact ((List.forall₂_and_left _ _).mpr ⟨fun e he => @ih e he _, hitems⟩).imp fun e item hei =>
        ⟨hei.2.1, hei.1 hei.2.2⟩
    · rw [sortedByKey_eq, sortedByKey_eq, sortEntries_eq, sortEntries_eq, sortByKey_idem]

end Value

/-- A JSON value as the code can hold it. -/
abbrev JsonValue := { v : Value // v.DistinctKeys }

namespace Value

variable {P : Platform}

/-- **Canonical equality is JSON equality.** Two values that have canonical texts have the same one
exactly when they are the same value. -/
theorem canonicalJson_eq_iff (hP : P.WritesFloats) {v w : JsonValue} {t u : Str}
    (hv : canonicalJson P v.1 = .ok t) (hw : canonicalJson P w.1 = .ok u) :
    t = u ↔ SameValue v.1 w.1 := by
  constructor
  · rintro rfl
    exact sameValue_of_sorted v.2 w.2 (sorted_eq_of_canonicalJson hP hv hw)
  · intro h
    have hsorted : v.1.sorted = w.1.sorted := h.sorted_eq v.2 w.2
    have hv' : writeCanonicalJson P v.1.sorted 0 = .ok t := writeCanonicalJson_sorted v.2 hv
    have hw' : writeCanonicalJson P w.1.sorted 0 = .ok u := writeCanonicalJson_sorted w.2 hw
    rw [hsorted, hw'] at hv'
    exact (Except.ok.inj hv').symm

/-- An object with two keys and an array under one of them. -/
def pathAndLines : JsonValue :=
  ⟨.object [("path", .string "a"), ("lines", .array [.number (.int 2), .null])],
    .object (by decide) (by
      simp only [List.forall_mem_cons, List.not_mem_nil, false_implies, implies_true, and_true]
      exact ⟨.string _, .array (by simp [DistinctKeys.number, DistinctKeys.null])⟩)⟩

/-- The same object with its keys the other way round. -/
def linesAndPath : JsonValue :=
  ⟨.object [("lines", .array [.number (.int 2), .null]), ("path", .string "a")],
    .object (by decide) (by
      simp only [List.forall_mem_cons, List.not_mem_nil, false_implies, implies_true, and_true]
      exact ⟨.array (by simp [DistinctKeys.number, DistinctKeys.null]), .string _⟩)⟩

theorem canonicalJson_eq_iff_pathAndLines : SameValue pathAndLines.1 linesAndPath.1 :=
  (canonicalJson_eq_iff pointPlatform_writesFloats rfl rfl).mp rfl

end Value

end GovSec
