import Mathlib

/-!
Hash maps as finite maps. Iteration order is not part of the value, so two maps with the same
bindings are equal.
-/

namespace GovSec.Lib.Maps

abbrev HashMap (κ α : Type*) := Finmap fun _ : κ => α

variable {κ α : Type*}

/-- `m.retain(p)`. -/
def retain (p : κ → α → Bool) (m : HashMap κ α) : HashMap κ α where
  entries := m.entries.filter fun e => p e.1 e.2
  nodupKeys := by
    obtain ⟨⟨l⟩, hl⟩ := m
    exact List.NodupKeys.sublist List.filter_sublist hl

/-- `m.len()`. -/
def len (m : HashMap κ α) : ℕ := m.entries.card

lemma len_eq_card_keys (m : HashMap κ α) : len m = m.keys.card := (Multiset.card_map _ _).symm

/-- `m.values()`. -/
def values (m : HashMap κ α) : Multiset α := m.entries.map (·.2)

variable [DecidableEq κ]

lemma lookup_insert_eq_ite (m : HashMap κ α) (k k' : κ) (v : α) :
    (m.insert k v).lookup k' = if k' = k then some v else m.lookup k' := by
  split
  · next h => rw [h, Finmap.lookup_insert]
  · next h => rw [Finmap.lookup_insert_of_ne _ h]

lemma lookup_erase_eq_ite (m : HashMap κ α) (k k' : κ) :
    (m.erase k).lookup k' = if k' = k then none else m.lookup k' := by
  split
  · next h => rw [h, Finmap.lookup_erase]
  · next h => rw [Finmap.lookup_erase_ne h]

lemma lookup_retain_eq_some {p : κ → α → Bool} {m : HashMap κ α} {k : κ} {v : α} :
    (retain p m).lookup k = some v ↔ m.lookup k = some v ∧ p k v = true := by
  rw [Finmap.lookup_eq_some_iff, Finmap.lookup_eq_some_iff]
  exact Multiset.mem_filter

lemma lookup_retain (p : κ → α → Bool) (m : HashMap κ α) (k : κ) :
    (retain p m).lookup k = (m.lookup k).filter (p k) := by
  ext v
  rw [lookup_retain_eq_some, Option.filter_eq_some_iff]

lemma keys_insert (m : HashMap κ α) (k : κ) (v : α) : (m.insert k v).keys = insert k m.keys := by
  ext k'
  rw [Finmap.mem_keys, Finmap.mem_insert, Finset.mem_insert, Finmap.mem_keys]

/-- `m.entry(k).or_insert(v)`. -/
def orInsert (m : HashMap κ α) (k : κ) (v : α) : HashMap κ α :=
  match m.lookup k with
  | some _ => m
  | none => m.insert k v

lemma lookup_orInsert (m : HashMap κ α) (k k' : κ) (v : α) :
    (orInsert m k v).lookup k' = if k' = k then some ((m.lookup k).getD v) else m.lookup k' := by
  cases h : m.lookup k with
  | none => simp [orInsert, h, lookup_insert_eq_ite]
  | some w =>
    simp only [orInsert, h, Option.getD_some]
    split
    · next hk => rw [hk, h]
    · rfl

/-- `if let Some(v) = m.get_mut(k) { *v = f(v) }`. -/
def modifyAt (m : HashMap κ α) (k : κ) (f : α → α) : HashMap κ α :=
  match m.lookup k with
  | some v => m.insert k (f v)
  | none => m

lemma lookup_modifyAt (m : HashMap κ α) (k k' : κ) (f : α → α) :
    (modifyAt m k f).lookup k' = if k' = k then (m.lookup k).map f else m.lookup k' := by
  cases h : m.lookup k with
  | none =>
    simp only [modifyAt, h, Option.map_none]
    split
    · next hk => rw [hk, h]
    · rfl
  | some v =>
    simp only [modifyAt, h, Option.map_some]
    exact lookup_insert_eq_ite m k k' (f v)

/-! ### Every value through a function -/

section MapValues

variable {β : Type*} (f : α → β) (m : HashMap κ α) (k k' : κ) (v : α)

def mapValues {κ : Type*} (m : HashMap κ α) : HashMap κ β where
  entries := m.entries.map fun e => ⟨e.1, f e.2⟩
  nodupKeys := by
    have hkeys : (m.entries.map fun e => (⟨e.1, f e.2⟩ : Sigma fun _ => β)).keys = m.entries.keys :=
      Multiset.map_map _ _ _
    rw [← Multiset.nodup_keys, hkeys]
    exact m.nodupKeys.nodup_keys

@[simp] lemma lookup_mapValues : (mapValues f m).lookup k = (m.lookup k).map f := by
  ext b
  rw [Finmap.lookup_eq_some_iff, Option.map_eq_some_iff]
  constructor
  · intro h
    obtain ⟨⟨k', a⟩, ha, heq⟩ := Multiset.mem_map.mp h
    cases heq
    exact ⟨a, Finmap.lookup_eq_some_iff.mpr ha, rfl⟩
  · rintro ⟨a, ha, rfl⟩
    exact Multiset.mem_map.mpr ⟨⟨k, a⟩, Finmap.lookup_eq_some_iff.mp ha, rfl⟩

lemma mapValues_insert : mapValues f (m.insert k v) = (mapValues f m).insert k (f v) := by
  refine Finmap.ext_lookup fun k' => ?_
  simp only [lookup_mapValues, lookup_insert_eq_ite]
  split <;> rfl

/-- A change that the function carries over. -/
lemma mapValues_modifyAt {g : α → α} {g' : β → β} (h : ∀ a, f (g a) = g' (f a)) :
    mapValues f (modifyAt m k g) = modifyAt (mapValues f m) k g' := by
  refine Finmap.ext_lookup fun k' => ?_
  simp only [lookup_mapValues, lookup_modifyAt]
  split
  · cases m.lookup k with
    | none => rfl
    | some a => exact congrArg some (h a)
  · rfl

end MapValues

/-! ### Tables with an index -/

section Indexed

variable {ι β : Type*} [DecidableEq ι] (f : α → β) (index : HashMap κ ι) (table : HashMap ι α)
  (k k' : κ) (i : ι) (v : α)

/-- What a key leads to: an id of the table, with what `f` reads of the entry under the id. -/
def indexed : Option (ι × Option β) := (index.lookup k).map fun i => (i, (table.lookup i).map f)

/-- The entry under one id becomes another. -/
def reread (i : ι) (b : Option β → Option β) (e : ι × Option β) : ι × Option β :=
  if e.1 = i then (e.1, b e.2) else e

lemma indexed_insert_table :
    indexed f index (table.insert i v) k =
      (indexed f index table k).map (reread i fun _ => some (f v)) := by
  unfold indexed
  cases index.lookup k with
  | none => rfl
  | some j =>
    simp only [Option.map_some, lookup_insert_eq_ite, reread]
    split <;> rfl

/-- A new entry of the table, under a key. -/
lemma indexed_insert :
    indexed f (index.insert k' i) (table.insert i v) k =
      if k = k' then some (i, some (f v))
      else (indexed f index table k).map (reread i fun _ => some (f v)) := by
  split
  · next h =>
    rw [h]
    simp only [indexed, Finmap.lookup_insert, Option.map_some]
  · next h =>
    rw [← indexed_insert_table]
    simp only [indexed, Finmap.lookup_insert_of_ne _ h]

lemma indexed_modifyAt (g : α → α) :
    indexed id index (modifyAt table i g) k =
      (indexed id index table k).map (reread i fun o => o.map g) := by
  unfold indexed
  cases index.lookup k with
  | none => rfl
  | some j =>
    simp only [Option.map_some, lookup_modifyAt, reread, Option.map_id_fun, id_eq]
    split
    · next h => rw [h]
    · rfl

end Indexed

end GovSec.Lib.Maps
