import Mathlib

/-!
Lists of keyed entries as finite maps.

With distinct keys a list of entries is a map from keys to values, and two lists are the same map
exactly when they are the same after sorting by key. The order of the keys is any decidable total
order.
-/

namespace GovSec.Lib.KeyedLists

variable {κ α β : Type*}

def keys (es : List (κ × α)) : List κ := es.map Prod.fst

section Lookup

variable [DecidableEq κ]

/-- The value of the first entry with the key. -/
def get (es : List (κ × α)) (k : κ) : Option α := (es.find? (·.1 = k)).map (·.2)

lemma get_cons (e : κ × α) (es : List (κ × α)) (k : κ) :
    get (e :: es) k = if e.1 = k then some e.2 else get es k := by
  unfold get
  by_cases h : e.1 = k <;> simp [h]

/-- With distinct keys, what is found is what is there. -/
lemma get_eq_some_iff {es : List (κ × α)} (hn : (keys es).Nodup) {k : κ} {v : α} :
    get es k = some v ↔ (k, v) ∈ es := by
  induction es with
  | nil => simp [get]
  | cons e es ih =>
    obtain ⟨hnotin, htail⟩ := List.nodup_cons.mp hn
    rw [get_cons, List.mem_cons, ← ih htail]
    split
    · next hk =>
      -- the key of the head is not among those of the tail
      have hnone : get es k ≠ some v := fun h =>
        hnotin (List.mem_map.mpr ⟨(k, v), (ih htail).mp h, hk.symm⟩)
      rw [or_iff_left hnone, Prod.ext_iff]
      simp [hk, eq_comm]
    · next hk =>
      rw [or_iff_right fun h => hk (by rw [← h])]

lemma mem_of_get {es : List (κ × α)} {k : κ} {v : α} (h : get es k = some v) : (k, v) ∈ es := by
  obtain ⟨e, he, rfl⟩ := Option.map_eq_some_iff.mp h
  obtain rfl : e.1 = k := by simpa using List.find?_some he
  exact List.mem_of_find?_eq_some he

lemma get_reverse {es : List (κ × α)} (hn : (keys es).Nodup) (k : κ) :
    get es.reverse k = get es k := by
  have hreverse : (keys es.reverse).Nodup := by simpa [keys] using hn
  ext v
  rw [get_eq_some_iff hreverse, get_eq_some_iff hn, List.mem_reverse]

/-- A map of the values. -/
lemma get_map (f : α → β) (es : List (κ × α)) (k : κ) :
    get (es.map fun e => (e.1, f e.2)) k = (get es k).map f := by
  induction es with
  | nil => rfl
  | cons e es ih =>
    rw [List.map_cons, get_cons, get_cons, ih]
    split <;> rfl

/-! ### Building a map -/

/-- The value of a key is replaced in its place; a new key goes to the end. -/
def put (es : List (κ × α)) (e : κ × α) : List (κ × α) :=
  if e.1 ∈ keys es then es.map fun f => if f.1 = e.1 then (f.1, e.2) else f else es ++ [e]

lemma keys_put (es : List (κ × α)) (e : κ × α) :
    keys (put es e) = if e.1 ∈ keys es then keys es else keys es ++ [e.1] := by
  unfold put
  split
  · have hkey : ∀ f : κ × α, (if f.1 = e.1 then (f.1, e.2) else f).1 = f.1 := by
      intro f
      split <;> rfl
    simp [keys, hkey]
  · simp [keys]

lemma keys_put_nodup {es : List (κ × α)} (hn : (keys es).Nodup) (e : κ × α) :
    (keys (put es e)).Nodup := by
  rw [keys_put]
  split
  · exact hn
  · next hnotin =>
    rw [← List.concat_eq_append]
    exact List.Nodup.concat hnotin hn

lemma keys_foldl_put_nodup {es : List (κ × α)} (hn : (keys es).Nodup) (fs : List (κ × α)) :
    (keys (fs.foldl put es)).Nodup := by
  induction fs generalizing es with
  | nil => exact hn
  | cons f fs ih => exact ih (keys_put_nodup hn f)

/-- Distinct keys are put one after the other. -/
lemma foldl_put_of_nodup {es fs : List (κ × α)} (hn : (keys (es ++ fs)).Nodup) :
    fs.foldl put es = es ++ fs := by
  induction fs generalizing es with
  | nil => simp
  | cons f fs ih =>
    have hnotin : f.1 ∉ keys es := by
      rw [keys, List.map_append, List.map_cons] at hn
      intro hmem
      exact (List.disjoint_of_nodup_append hn) hmem (by simp)
    have hput : put es f = es ++ [f] := if_neg hnotin
    have hsplit : es ++ f :: fs = es ++ [f] ++ fs := by simp
    rw [List.foldl_cons, hput, hsplit]
    exact ih (hsplit ▸ hn)

lemma get_append (es fs : List (κ × α)) (k : κ) : get (es ++ fs) k = (get es k).or (get fs k) := by
  unfold get
  rw [List.find?_append]
  cases es.find? (·.1 = k) <;> simp

lemma isSome_get {es : List (κ × α)} {k : κ} : (get es k).isSome ↔ k ∈ keys es := by
  simp [get, keys]

/-- A value that is replaced is found where its key was. -/
lemma get_map_replace (es : List (κ × α)) (e : κ × α) (k : κ) :
    get (es.map fun f => if f.1 = e.1 then (f.1, e.2) else f) k =
      if e.1 = k then (get es k).map fun _ => e.2 else get es k := by
  induction es with
  | nil => simp [get]
  | cons f es ih =>
    rw [List.map_cons, get_cons, get_cons, ih]
    by_cases hf : f.1 = e.1
    · by_cases hk : e.1 = k <;> simp [hf, hk]
    · by_cases hk : e.1 = k
      · simp [hk, show f.1 ≠ k from hk ▸ hf]
      · simp [hf, hk]

/-- The value that was put is found, and beside it what was there. -/
lemma get_put (es : List (κ × α)) (e : κ × α) (k : κ) :
    get (put es e) k = if e.1 = k then some e.2 else get es k := by
  have hkey : (get es e.1).isSome ↔ e.1 ∈ keys es := isSome_get
  unfold put
  split
  · next hmem =>
    rw [get_map_replace]
    by_cases hk : e.1 = k
    · obtain ⟨v, hv⟩ := Option.isSome_iff_exists.mp (hkey.mpr hmem)
      rw [← hk, hv]
      rfl
    · rw [if_neg hk, if_neg hk]
  · next hnotin =>
    rw [get_append, get_cons]
    by_cases hk : e.1 = k
    · have hnone : get es k = none := by
        rw [← hk, ← Option.not_isSome_iff_eq_none, hkey]
        exact hnotin
      simp [hk, hnone]
    · simp [hk, get]

/-- Of entries that are put one after the other the last of a key is found. -/
lemma get_foldl_put (es fs : List (κ × α)) (k : κ) :
    get (fs.foldl put es) k = (get fs.reverse k).or (get es k) := by
  induction fs generalizing es with
  | nil => rfl
  | cons f fs ih =>
    rw [List.foldl_cons, ih, get_put, List.reverse_cons, get_append, get_cons]
    by_cases hk : f.1 = k <;> cases get fs.reverse k <;> simp [hk, get]

end Lookup

section Sorting

variable (le : κ → κ → Prop) [DecidableRel le]

/-- The entries in the order of their keys. -/
def sortByKey (es : List (κ × α)) : List (κ × α) := es.insertionSort fun a b => le a.1 b.1

variable {le}

lemma sortByKey_perm (es : List (κ × α)) : (sortByKey le es).Perm es := List.perm_insertionSort _ es

lemma keys_sortByKey_nodup {es : List (κ × α)} :
    (keys (sortByKey le es)).Nodup ↔ (keys es).Nodup :=
  ((sortByKey_perm es).map Prod.fst).nodup_iff

lemma get_sortByKey [DecidableEq κ] {es : List (κ × α)} (hn : (keys es).Nodup) (k : κ) :
    get (sortByKey le es) k = get es k := by
  ext v
  rw [get_eq_some_iff (keys_sortByKey_nodup.mpr hn), get_eq_some_iff hn]
  exact (sortByKey_perm es).mem_iff

variable [Std.Total le] [IsTrans κ le]

instance totalByKey : Std.Total fun a b : κ × α => le a.1 b.1 where
  total a b := Std.Total.total a.1 b.1

instance isTransByKey : IsTrans (κ × α) fun a b => le a.1 b.1 where
  trans _ _ _ := Trans.trans (r := le)

lemma sortByKey_pairwise (es : List (κ × α)) :
    (sortByKey le es).Pairwise fun a b => le a.1 b.1 := List.pairwise_insertionSort _ es

/-- Sorting twice is sorting once. -/
lemma sortByKey_idem (es : List (κ × α)) : sortByKey le (sortByKey le es) = sortByKey le es :=
  (sortByKey_pairwise es).insertionSort_eq

variable [Std.Antisymm le]

/-- Entries with distinct keys have one order. -/
lemma sortByKey_eq_of_perm {es fs : List (κ × α)} (hn : (keys es).Nodup) (h : es.Perm fs) :
    sortByKey le es = sortByKey le fs := by
  have hperm : (sortByKey le es).Perm (sortByKey le fs) :=
    calc List.Perm (sortByKey le es) es := sortByKey_perm es
      List.Perm _ fs := h
      List.Perm _ (sortByKey le fs) := (sortByKey_perm fs).symm
  refine hperm.eq_of_pairwise (fun a b ha hb hab hba => ?_) (sortByKey_pairwise es)
    (sortByKey_pairwise fs)
  have ha' : a ∈ es := (sortByKey_perm es).mem_iff.mp ha
  have hb' : b ∈ es := h.mem_iff.mpr ((sortByKey_perm fs).mem_iff.mp hb)
  exact List.inj_on_of_nodup_map hn ha' hb' (Std.Antisymm.antisymm _ _ hab hba)

/-- **One map, one sorted list**: lists with distinct keys that find the same for every key are the
same when sorted. -/
theorem sortByKey_eq_of_get [DecidableEq κ] {es fs : List (κ × α)} (hes : (keys es).Nodup)
    (hfs : (keys fs).Nodup) (h : ∀ k, get es k = get fs k) : sortByKey le es = sortByKey le fs := by
  refine sortByKey_eq_of_perm hes ?_
  refine (List.perm_ext_iff_of_nodup hes.of_map hfs.of_map).mpr fun ⟨k, v⟩ => ?_
  rw [← get_eq_some_iff hes, ← get_eq_some_iff hfs, h k]

end Sorting

end GovSec.Lib.KeyedLists
