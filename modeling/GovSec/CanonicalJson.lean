import GovSec.Encoding
import GovSec.Json
import GovSec.Lib.JsonText

/-!
The canonical text of a JSON value is a JSON text of it, so the text determines the value up to
the order of object entries.
-/

namespace GovSec

open GovSec.Lib.Text GovSec.Lib.JsonText

/-! ### Strings -/

namespace Value

lemma hexCode_hexDigit (d : Fin 16) : hexCode (hexDigit d) = some d.val := by
  revert d; decide

lemma run_hexDigits (rev : Str) (a b c d : Fin 16) {m : Mode}
    (h : hexEnd rev (16 * (16 * (16 * a.val + b.val) + c.val) + d.val) none = some m) :
    run (.hex rev none 0 0) [hexDigit a, hexDigit b, hexDigit c, hexDigit d] = some ([], m) := by
  have ha : (Mode.hex rev none 0 0).step (hexDigit a) = some ([], .hex rev none 1 a.val) := by
    simp [Mode.step, hexCode_hexDigit]
  have hb : (Mode.hex rev none 1 a.val).step (hexDigit b) =
      some ([], .hex rev none 2 (16 * a.val + b.val)) := by
    simp [Mode.step, hexCode_hexDigit]
  have hc : (Mode.hex rev none 2 (16 * a.val + b.val)).step (hexDigit c) =
      some ([], .hex rev none 3 (16 * (16 * a.val + b.val) + c.val)) := by
    simp [Mode.step, hexCode_hexDigit]
  have hd : (Mode.hex rev none 3 (16 * (16 * a.val + b.val) + c.val)).step (hexDigit d) =
      some ([], m) := by
    simp [Mode.step, hexCode_hexDigit, h]
  rw [run_cons_of_step ha, run_cons_of_step hb, run_cons_of_step hc, run_cons_of_step hd, run]

/-- Four digits read back to the number they write. -/
lemma run_hexText4 (rev : Str) {n : ℕ} (hn : n < 0xD800) :
    run (.hex rev none 0 0) (hexText4 n) = some ([], .string (Char.ofNat n :: rev)) := by
  have hvalue : 16 * (16 * (16 * (n / 16 ^ 3 % 16) + n / 16 ^ 2 % 16) + n / 16 ^ 1 % 16) +
      n / 16 ^ 0 % 16 = n := by omega
  have hend : hexEnd rev n none = some (.string (Char.ofNat n :: rev)) := by
    rw [hexEnd, if_neg (by omega), if_neg (by omega)]
  refine run_hexDigits rev _ _ _ _ ?_
  rw [Fin.val_ofNat, Fin.val_ofNat, Fin.val_ofNat, Fin.val_ofNat, hvalue, hend]

lemma run_escapeChar (rev : Str) (c : Char) :
    run (.string rev) (escapeChar c) = some ([], .string (c :: rev)) := by
  unfold escapeChar
  by_cases hquote : c = '"'
  · subst hquote; rfl
  by_cases hback : c = '\\'
  · subst hback; rfl
  by_cases hn : c = '\n'
  · subst hn; rfl
  by_cases hr : c = '\r'
  · subst hr; rfl
  by_cases ht : c = '\t'
  · subst ht; rfl
  by_cases h8 : c.toNat = 8
  · obtain rfl : c = Char.ofNat 8 := by rw [← h8, Char.ofNat_toNat]
    rfl
  by_cases h12 : c.toNat = 12
  · obtain rfl : c = Char.ofNat 12 := by rw [← h12, Char.ofNat_toNat]
    rfl
  rw [if_neg hquote, if_neg hback, if_neg hn, if_neg hr, if_neg ht, if_neg h8, if_neg h12]
  by_cases hctl : c.toNat < 32
  · have hu : run (.string rev) ['\\', 'u'] = some ([], .hex rev none 0 0) := rfl
    have hsplit : '\\' :: 'u' :: hexText4 c.toNat = ['\\', 'u'] ++ hexText4 c.toNat := rfl
    rw [if_pos hctl, hsplit, run_append hu, run_hexText4 rev (by omega)]
    simp [Char.ofNat_toNat]
  · rw [if_neg hctl]
    simp [run, Mode.step, hquote, hback, hctl]

lemma run_flatMap_escapeChar (s rev : Str) :
    run (.string rev) (s.flatMap escapeChar) = some ([], .string (s.reverse ++ rev)) := by
  induction s generalizing rev with
  | nil => rfl
  | cons c s ih =>
    rw [List.flatMap_cons, run_append (run_escapeChar rev c), ih]
    simp

/-- A quoted string is the string token. -/
lemma run_quoted (s : Str) : run .outside (quoted s) = some ([.string s], .outside) := by
  have hopen : run .outside ['"'] = some ([], .string []) := rfl
  have hsplit : quoted s = ['"'] ++ (s.flatMap escapeChar ++ ['"']) := rfl
  have hclose : run (.string s.reverse) ['"'] = some ([.string s], .outside) := by
    simp [run, Mode.step]
  rw [hsplit, run_append hopen, run_append (run_flatMap_escapeChar s []), List.append_nil, hclose]
  rfl

lemma reads_quoted (s : Str) : Reads (quoted s) (.string s) := by
  simp [Reads, tokenize, Mode.scan, run_quoted, Mode.finish, JsonTree.tokens]

end Value

/-! ### Numbers -/

lemma natText_eq_toDigits (n : ℕ) : natText n = Nat.toDigits 10 n := Nat.toList_repr

/-- A decimal number has no leading zero. -/
lemma head?_natText_ne {n : ℕ} (hn : 0 < n) : (natText n).head? ≠ some '0' := by
  rw [natText_eq_toDigits]
  induction n using Nat.strongRecOn with
  | ind n ih =>
    by_cases hlt : n < 10
    · rw [Nat.toDigits_of_lt_base hlt]
      simp [Nat.digitChar_eq_zero, hn.ne']
    · have hq : 0 < n / 10 := by omega
      rw [Nat.toDigits_of_base_le (by decide) (by omega), List.head?_append_of_ne_nil _
        Nat.toDigits_ne_nil]
      exact ih (n / 10) (by omega) hq

lemma natText_ne_nil (n : ℕ) : natText n ≠ [] := by
  rw [natText_eq_toDigits]
  exact Nat.toDigits_ne_nil

/-- A decimal number followed by a fraction, or by nothing. -/
lemma isUnsigned_natText_append (n : ℕ) {rest : Str} (hrest : ∀ c ∈ rest.head?, ¬c.isDigit = true)
    (hfraction : isFraction rest = true) : isUnsigned (natText n ++ rest) = true := by
  have hall : ∀ c ∈ natText n, c.isDigit = true := fun c hc => isDigit_of_mem_natText hc
  have htake : (natText n ++ rest).takeWhile Char.isDigit = natText n := by
    rw [List.takeWhile_append_of_pos hall]
    cases rest with
    | nil => simp
    | cons c rest => simp [List.takeWhile_cons_of_neg (hrest c rfl)]
  have hdrop : (natText n ++ rest).dropWhile Char.isDigit = rest := by
    rw [List.dropWhile_append_of_pos hall]
    cases rest with
    | nil => rfl
    | cons c rest => exact List.dropWhile_cons_of_neg (hrest c rfl)
  have hlead : natText n = ['0'] ∨ (natText n).head? ≠ some '0' := by
    rcases Nat.eq_zero_or_pos n with rfl | hpos
    · exact .inl rfl
    · exact .inr (head?_natText_ne hpos)
  simp [isUnsigned, htake, hdrop, natText_ne_nil, hlead, hfraction]

lemma isNumber_natText_append (n : ℕ) {rest : Str} (hrest : ∀ c ∈ rest.head?, ¬c.isDigit = true)
    (hfraction : isFraction rest = true) : isNumber (natText n ++ rest) = true := by
  have hneg : ∀ t, natText n ++ rest ≠ '-' :: t := by
    intro t ht
    obtain ⟨c, cs, hcs⟩ := List.exists_cons_of_ne_nil (natText_ne_nil n)
    rw [hcs, List.cons_append] at ht
    obtain ⟨rfl, -⟩ := List.cons.inj ht
    have hdigit : '-'.isDigit = true := isDigit_of_mem_natText (n := n) (by simp [hcs])
    exact absurd hdigit (by decide)
  unfold isNumber
  split
  · exact absurd ‹_› (hneg _)
  · exact isUnsigned_natText_append n hrest hfraction

lemma isNumber_intText (n : ℤ) : isNumber (intText n) = true := by
  cases n with
  | ofNat n =>
    have hsplit : intText (.ofNat n) = natText n ++ [] := (List.append_nil _).symm
    rw [hsplit]
    exact isNumber_natText_append n (by simp) rfl
  | negSucc n =>
    have hminus : intText (.negSucc n) = '-' :: natText (n + 1) := String.toList_append
    have hsplit : natText (n + 1) = natText (n + 1) ++ [] := (List.append_nil _).symm
    rw [hminus, hsplit]
    exact isUnsigned_natText_append (n + 1) (by simp) rfl

/-- What `serde_json` documents of finite floats: a number with a point or an exponent, from which
the same float is read back. -/
structure Platform.WritesFloats (P : Platform) : Prop where
  isNumber : ∀ f : FiniteF64, isNumber (P.floatText f.1) = true
  notInteger : ∀ f : FiniteF64, ∃ c ∈ P.floatText f.1, c = '.' ∨ c = 'e'
  injective : ∀ f g : FiniteF64, P.floatText f.1 = P.floatText g.1 → f = g

namespace Value

variable {P : Platform}

lemma isNumber_numberText (hP : P.WritesFloats) (n : Number) :
    isNumber (numberText P n) = true := by
  cases n with
  | int n => exact isNumber_intText n
  | float f => exact hP.isNumber f

lemma numberText_injective (hP : P.WritesFloats) : Function.Injective (numberText P) := by
  have hmixed : ∀ (n : ℤ) (f : FiniteF64), intText n ≠ P.floatText f.1 := by
    intro n f h
    obtain ⟨c, hc, hpoint⟩ := hP.notInteger f
    rcases mem_intText (h ▸ hc) with rfl | hdigit
    · exact absurd hpoint (by decide)
    · rcases hpoint with rfl | rfl <;> exact absurd hdigit (by decide)
  rintro (n | f) (m | g) h
  · rw [intText_injective h]
  · exact absurd h (hmixed n g)
  · exact absurd h.symm (hmixed m f)
  · rw [hP.injective f g h]

/-! ### Sorted values and their trees -/

/-- Values with a key in the order of their keys. -/
def sortEntries {α : Type} (es : List (Str × α)) : List (Str × α) :=
  es.insertionSort fun a b => keyLe a.1 b.1

lemma sortedByKey_eq (items : List (Str × Str)) : sortedByKey items = sortEntries items := rfl

lemma forall₂_orderedInsert {α β : Type} {R : Str × α → Str × β → Prop}
    (hR : ∀ a b, R a b → a.1 = b.1) {a : Str × α} {b : Str × β} (hab : R a b)
    {as : List (Str × α)} {bs : List (Str × β)} (h : List.Forall₂ R as bs) :
    List.Forall₂ R (as.orderedInsert (fun a b => keyLe a.1 b.1) a)
      (bs.orderedInsert (fun a b => keyLe a.1 b.1) b) := by
  induction h with
  | nil => exact .cons hab .nil
  | @cons a' b' as bs hab' h ih =>
    rw [List.orderedInsert_cons, List.orderedInsert_cons, hR a b hab, hR a' b' hab']
    split
    · exact .cons hab (.cons hab' h)
    · exact .cons hab' ih

lemma forall₂_sortEntries {α β : Type} {R : Str × α → Str × β → Prop}
    (hR : ∀ a b, R a b → a.1 = b.1) {as : List (Str × α)} {bs : List (Str × β)}
    (h : List.Forall₂ R as bs) : List.Forall₂ R (sortEntries as) (sortEntries bs) := by
  induction h with
  | nil => exact .nil
  | cons hab _ ih => exact forall₂_orderedInsert hR hab ih

mutual

/-- The value with the entries of every object in the order of their keys. Values whose sorted
forms are equal are equal as JSON values. -/
def sorted : Value → Value
  | .array values => .array (sortedElements values)
  | .object entries => .object (sortEntries (sortedEntries entries))
  | v => v

def sortedElements : List Value → List Value
  | [] => []
  | v :: vs => sorted v :: sortedElements vs

def sortedEntries : List (Str × Value) → List (Str × Value)
  | [] => []
  | (k, v) :: es => (k, sorted v) :: sortedEntries es

end

variable (P) in
mutual

/-- The tree of a value, with its numbers as they are written. -/
def tree : Value → JsonTree
  | .null => .null
  | .bool b => .bool b
  | .number n => .number (numberText P n)
  | .string s => .string s
  | .array values => .array (treeElements values)
  | .object entries => .object (treeEntries entries)

def treeElements : List Value → List JsonTree
  | [] => []
  | v :: vs => tree v :: treeElements vs

def treeEntries : List (Str × Value) → List (Str × JsonTree)
  | [] => []
  | (k, v) :: es => (k, tree v) :: treeEntries es

end

lemma treeEntries_eq (es : List (Str × Value)) :
    treeEntries P es = es.map fun e => (e.1, tree P e.2) := by
  induction es with
  | nil => rfl
  | cons e es ih => simp [treeEntries, ih]

mutual

lemma tree_injective (hP : P.WritesFloats) : ∀ {v w : Value}, tree P v = tree P w → v = w
  | .null, w, h => by cases w <;> simp_all [tree]
  | .bool b, w, h => by cases w <;> simp_all [tree]
  | .number n, w, h => by
    cases w with
    | number m => rw [numberText_injective hP (JsonTree.number.inj h)]
    | _ => simp [tree] at h
  | .string s, w, h => by cases w <;> simp_all [tree]
  | .array values, w, h => by
    cases w with
    | array values' => rw [treeElements_injective hP (JsonTree.array.inj h)]
    | _ => simp [tree] at h
  | .object entries, w, h => by
    cases w with
    | object entries' => rw [treeEntries_injective hP (JsonTree.object.inj h)]
    | _ => simp [tree] at h

lemma treeElements_injective (hP : P.WritesFloats) :
    ∀ {vs ws : List Value}, treeElements P vs = treeElements P ws → vs = ws
  | [], [], _ => rfl
  | [], _ :: _, h => by simp [treeElements] at h
  | _ :: _, [], h => by simp [treeElements] at h
  | v :: vs, w :: ws, h => by
    obtain ⟨hv, hvs⟩ := List.cons.inj h
    rw [tree_injective hP hv, treeElements_injective hP hvs]

lemma treeEntries_injective (hP : P.WritesFloats) :
    ∀ {es fs : List (Str × Value)}, treeEntries P es = treeEntries P fs → es = fs
  | [], [], _ => rfl
  | [], _ :: _, h => by simp [treeEntries] at h
  | _ :: _, [], h => by simp [treeEntries] at h
  | (k, v) :: es, (l, w) :: fs, h => by
    obtain ⟨he, hes⟩ := List.cons.inj h
    obtain ⟨hk, hv⟩ := Prod.mk.inj he
    rw [hk, tree_injective hP hv, treeEntries_injective hP hes]

end

/-! ### The canonical text reads as the sorted value -/

mutual

/-- **The canonical text of a value is a JSON text of its sorted form.** -/
lemma reads_writeCanonicalJson (hP : P.WritesFloats) : ∀ (v : Value) {depth : ℕ} {t : Str},
    writeCanonicalJson P v depth = .ok t → Reads t (tree P v.sorted)
  | .null, _, t, h => by
    simp only [writeCanonicalJson, bind_eq_ok, pure_eq_ok] at h
    obtain ⟨_, -, rfl⟩ := h
    exact rfl
  | .bool b, _, t, h => by
    simp only [writeCanonicalJson, bind_eq_ok, pure_eq_ok] at h
    obtain ⟨_, -, rfl⟩ := h
    cases b <;> exact rfl
  | .number n, _, t, h => by
    simp only [writeCanonicalJson, bind_eq_ok, pure_eq_ok] at h
    obtain ⟨_, -, rfl⟩ := h
    exact reads_number (isNumber_numberText hP n)
  | .string s, _, t, h => by
    simp only [writeCanonicalJson, bind_eq_ok, pure_eq_ok] at h
    obtain ⟨_, -, rfl⟩ := h
    exact reads_quoted s
  | .array values, depth, t, h => by
    simp only [writeCanonicalJson, bind_eq_ok, pure_eq_ok] at h
    obtain ⟨_, -, items, hitems, rfl⟩ := h
    exact reads_array (reads_writeElements hP values hitems)
  | .object entries, depth, t, h => by
    simp only [writeCanonicalJson, bind_eq_ok, pure_eq_ok] at h
    obtain ⟨_, -, items, hitems, rfl⟩ := h
    refine reads_object ?_
    have hsorted := forall₂_sortEntries (fun a b hab => hab.1)
      (reads_writeEntries hP entries hitems)
    rw [sortedByKey_eq, treeEntries_eq, List.forall₂_map_left_iff, List.forall₂_map_right_iff]
    refine hsorted.imp fun item e hie => ?_
    rw [hie.1]
    exact settles_member (run_quoted e.1) hie.2

lemma reads_writeElements (hP : P.WritesFloats) : ∀ (vs : List Value) {depth : ℕ} {ts : List Str},
    writeElements P vs depth = .ok ts →
      List.Forall₂ Reads ts (treeElements P (sortedElements vs))
  | [], _, ts, h => by
    obtain rfl : [] = ts := Except.ok.inj h
    exact .nil
  | v :: vs, _, ts, h => by
    simp only [writeElements, bind_eq_ok, pure_eq_ok] at h
    obtain ⟨t, hv, us, hvs, rfl⟩ := h
    exact .cons (reads_writeCanonicalJson hP v hv) (reads_writeElements hP vs hvs)

lemma reads_writeEntries (hP : P.WritesFloats) : ∀ (es : List (Str × Value)) {depth : ℕ}
    {items : List (Str × Str)}, writeEntries P es depth = .ok items →
      List.Forall₂ (fun item e => item.1 = e.1 ∧ Reads item.2 (tree P e.2)) items
        (sortedEntries es)
  | [], _, items, h => by
    obtain rfl : [] = items := Except.ok.inj h
    exact .nil
  | (k, v) :: es, _, items, h => by
    simp only [writeEntries, bind_eq_ok, pure_eq_ok] at h
    obtain ⟨t, hv, us, hes, rfl⟩ := h
    exact .cons ⟨rfl, reads_writeCanonicalJson hP v hv⟩ (reads_writeEntries hP es hes)

end

/-- **The canonical text fixes the value.** -/
theorem sorted_eq_of_canonicalJson (hP : P.WritesFloats) {v w : Value} {t : Str}
    (hv : canonicalJson P v = .ok t) (hw : canonicalJson P w = .ok t) : v.sorted = w.sorted :=
  tree_injective hP ((reads_writeCanonicalJson hP v hv).unique (reads_writeCanonicalJson hP w hw))

end Value

end GovSec
