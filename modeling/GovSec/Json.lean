import Mathlib
import GovSec.Validation

/-!
JSON values: the depth limit, the canonical text that hashes are taken of, and the strings
that occur anywhere in a value.

An object is the list of its entries in iteration order.
-/

namespace GovSec

open GovSec.Lib.Text

/-- A finite `f64`, by its bits: the exponent is not all ones. -/
abbrev FiniteF64 := { bits : BitVec 64 // bits.toNat / 2 ^ 52 % 2 ^ 11 ≠ 2 ^ 11 - 1 }

inductive Number
  | int (n : ℤ)
  | float (f : FiniteF64)
  deriving DecidableEq

inductive Value
  | null
  | bool (b : Bool)
  | number (n : Number)
  | string (s : Str)
  | array (values : List Value)
  | object (entries : List (Str × Value))

namespace Value

/-- `map.get(key)`. -/
def getEntry (entries : List (Str × Value)) (key : Str) : Option Value :=
  (entries.find? (·.1 = key)).map (·.2)

/-! ### Limits -/

mutual

def validateJsonLimits : Value → ℕ → Except EnvelopeError Unit
  | .array values, depth => do
    failIf (maxJsonDepth < depth) (.limitExceeded "json depth")
    validateElements values (depth + 1)
  | .object entries, depth => do
    failIf (maxJsonDepth < depth) (.limitExceeded "json depth")
    validateEntries entries (depth + 1)
  | _, depth => failIf (maxJsonDepth < depth) (.limitExceeded "json depth")

def validateElements : List Value → ℕ → Except EnvelopeError Unit
  | [], _ => .ok ()
  | v :: vs, depth => do
    validateJsonLimits v depth
    validateElements vs depth

def validateEntries : List (Str × Value) → ℕ → Except EnvelopeError Unit
  | [], _ => .ok ()
  | (_, v) :: es, depth => do
    validateJsonLimits v depth
    validateEntries es depth

end

/-! ### Canonical text -/

def hexText4 (n : ℕ) : Str :=
  [3, 2, 1, 0].map fun i => hexDigit (Fin.ofNat 16 (n / 16 ^ i))

/-- One character as `serde_json` writes it inside a string. -/
def escapeChar (c : Char) : Str :=
  if c = '"' then ['\\', '"']
  else if c = '\\' then ['\\', '\\']
  else if c = '\n' then ['\\', 'n']
  else if c = '\r' then ['\\', 'r']
  else if c = '\t' then ['\\', 't']
  else if c.toNat = 8 then ['\\', 'b']
  else if c.toNat = 12 then ['\\', 'f']
  else if c.toNat < 32 then '\\' :: 'u' :: hexText4 c.toNat
  else [c]

/-- `serde_json::to_string` of a string. -/
def quoted (s : Str) : Str := '"' :: s.flatMap escapeChar ++ ['"']

variable (P : Platform)

def numberText : Number → Str
  | .int n => intText n
  | .float f => P.floatText f.1

/-- The order of strings, that of their code points. -/
def keyLe : Str → Str → Bool
  | [], _ => true
  | _ :: _, [] => false
  | c :: cs, d :: ds => c.toNat < d.toNat || (c = d && keyLe cs ds)

/-- The entries of an object in the order of their keys. -/
def sortedByKey (entries : List (Str × Str)) : List (Str × Str) :=
  entries.insertionSort fun a b => keyLe a.1 b.1

mutual

def writeCanonicalJson : Value → ℕ → Except EnvelopeError Str
  | .null, depth => do
    failIf (maxJsonDepth < depth) (.limitExceeded "json depth")
    pure "null"
  | .bool b, depth => do
    failIf (maxJsonDepth < depth) (.limitExceeded "json depth")
    pure (if b then "true" else "false")
  | .number n, depth => do
    failIf (maxJsonDepth < depth) (.limitExceeded "json depth")
    pure (numberText P n)
  | .string s, depth => do
    failIf (maxJsonDepth < depth) (.limitExceeded "json depth")
    pure (quoted s)
  | .array values, depth => do
    failIf (maxJsonDepth < depth) (.limitExceeded "json depth")
    let items ← writeElements values (depth + 1)
    pure ('[' :: joinWith ',' items ++ [']'])
  | .object entries, depth => do
    failIf (maxJsonDepth < depth) (.limitExceeded "json depth")
    let items ← writeEntries entries (depth + 1)
    pure ('{' :: joinWith ',' ((sortedByKey items).map fun e => quoted e.1 ++ ':' :: e.2) ++ ['}'])

def writeElements : List Value → ℕ → Except EnvelopeError (List Str)
  | [], _ => .ok []
  | v :: vs, depth => do
    let t ← writeCanonicalJson v depth
    let ts ← writeElements vs depth
    pure (t :: ts)

def writeEntries : List (Str × Value) → ℕ → Except EnvelopeError (List (Str × Str))
  | [], _ => .ok []
  | (k, v) :: es, depth => do
    let t ← writeCanonicalJson v depth
    let ts ← writeEntries es depth
    pure ((k, t) :: ts)

end

def canonicalJson (v : Value) : Except EnvelopeError Str := writeCanonicalJson P v 0

def hashCanonical (v : Value) : Except EnvelopeError Str := do
  let t ← canonicalJson P v
  pure (computeHash P t)

/-! ### The strings of a value -/

mutual

/-- Append every string and key of a value in lower case, each after a newline. -/
def collectJsonStrings : Value → Str → Str
  | .string s, output => output ++ '\n' :: P.toLowercase s
  | .array values, output => collectElements values output
  | .object entries, output => collectEntries entries output
  | _, output => output

def collectElements : List Value → Str → Str
  | [], output => output
  | v :: vs, output => collectElements vs (collectJsonStrings v output)

def collectEntries : List (Str × Value) → Str → Str
  | [], output => output
  | (k, v) :: es, output =>
    collectEntries es (collectJsonStrings v (output ++ '\n' :: P.toLowercase k))

end

mutual

/-- The strings and keys of a value, in the order in which they are collected. -/
def strings : Value → List Str
  | .string s => [s]
  | .array values => elementStrings values
  | .object entries => entryStrings entries
  | _ => []

def elementStrings : List Value → List Str
  | [] => []
  | v :: vs => strings v ++ elementStrings vs

def entryStrings : List (Str × Value) → List Str
  | [] => []
  | (k, v) :: es => k :: strings v ++ entryStrings es

end

mutual

lemma collectJsonStrings_eq : ∀ (v : Value) (output : Str), collectJsonStrings P v output =
    output ++ (v.strings.map P.toLowercase).flatMap ('\n' :: ·)
  | .null, output => by simp [collectJsonStrings, strings]
  | .bool _, output => by simp [collectJsonStrings, strings]
  | .number _, output => by simp [collectJsonStrings, strings]
  | .string s, output => by simp [collectJsonStrings, strings]
  | .array values, output => by
    rw [collectJsonStrings, strings, collectElements_eq values output]
  | .object entries, output => by
    rw [collectJsonStrings, strings, collectEntries_eq entries output]

lemma collectElements_eq : ∀ (vs : List Value) (output : Str), collectElements P vs output =
    output ++ ((elementStrings vs).map P.toLowercase).flatMap ('\n' :: ·)
  | [], output => by simp [collectElements, elementStrings]
  | v :: vs, output => by
    rw [collectElements, collectElements_eq vs, collectJsonStrings_eq v, elementStrings]
    simp

lemma collectEntries_eq : ∀ (es : List (Str × Value)) (output : Str), collectEntries P es output =
    output ++ ((entryStrings es).map P.toLowercase).flatMap ('\n' :: ·)
  | [], output => by simp [collectEntries, entryStrings]
  | (k, v) :: es, output => by
    rw [collectEntries, collectEntries_eq es, collectJsonStrings_eq v, entryStrings]
    simp

end

/-- `s` is a string value or an object key at some position inside a value. -/
inductive Occurs (s : Str) : Value → Prop
  | string : Occurs s (.string s)
  | element {v : Value} {values : List Value} (hv : v ∈ values) (h : Occurs s v) :
      Occurs s (.array values)
  | key {v : Value} {entries : List (Str × Value)} (he : (s, v) ∈ entries) :
      Occurs s (.object entries)
  | entry {k : Str} {v : Value} {entries : List (Str × Value)} (he : (k, v) ∈ entries)
      (h : Occurs s v) : Occurs s (.object entries)

lemma mem_elementStrings {s : Str} {vs : List Value} :
    s ∈ elementStrings vs ↔ ∃ v ∈ vs, s ∈ v.strings := by
  induction vs with
  | nil => simp [elementStrings]
  | cons v vs ih => simp [elementStrings, ih]

lemma mem_entryStrings {s : Str} {es : List (Str × Value)} :
    s ∈ entryStrings es ↔ ∃ e ∈ es, s = e.1 ∨ s ∈ e.2.strings := by
  induction es with
  | nil => simp [entryStrings]
  | cons e es ih => obtain ⟨k, v⟩ := e; simp [entryStrings, ih, or_assoc]

/-- Every string and key at every position is collected. -/
theorem Occurs.mem_strings {s : Str} {v : Value} (h : Occurs s v) : s ∈ v.strings := by
  induction h with
  | string => simp [strings]
  | element hv _ ih =>
    rw [strings, mem_elementStrings]
    exact ⟨_, hv, ih⟩
  | key he =>
    rw [strings, mem_entryStrings]
    exact ⟨_, he, .inl rfl⟩
  | entry he _ ih =>
    rw [strings, mem_entryStrings]
    exact ⟨_, he, .inr ih⟩

mutual

/-- Nothing else is collected. -/
lemma occurs_of_mem_strings {s : Str} : ∀ (v : Value), s ∈ v.strings → Occurs s v
  | .null, h => by simp [strings] at h
  | .bool _, h => by simp [strings] at h
  | .number _, h => by simp [strings] at h
  | .string t, h => by
    obtain rfl : s = t := by simpa [strings] using h
    exact .string
  | .array values, h => by
    rw [strings] at h
    obtain ⟨v, hv, hs⟩ := occurs_of_mem_elementStrings values h
    exact .element hv hs
  | .object entries, h => by
    rw [strings] at h
    obtain ⟨e, he, rfl | hs⟩ := occurs_of_mem_entryStrings entries h
    · exact .key he
    · exact .entry he hs

lemma occurs_of_mem_elementStrings {s : Str} :
    ∀ (vs : List Value), s ∈ elementStrings vs → ∃ v ∈ vs, Occurs s v
  | [], h => by simp [elementStrings] at h
  | v :: vs, h => by
    rw [elementStrings, List.mem_append] at h
    rcases h with h | h
    · exact ⟨v, by simp, occurs_of_mem_strings v h⟩
    · obtain ⟨w, hw, hs⟩ := occurs_of_mem_elementStrings vs h
      exact ⟨w, by simp [hw], hs⟩

lemma occurs_of_mem_entryStrings {s : Str} :
    ∀ (es : List (Str × Value)), s ∈ entryStrings es → ∃ e ∈ es, s = e.1 ∨ Occurs s e.2
  | [], h => by simp [entryStrings] at h
  | (k, v) :: es, h => by
    rw [entryStrings, List.cons_append, List.mem_cons, List.mem_append] at h
    rcases h with h | h | h
    · exact ⟨(k, v), by simp, .inl h⟩
    · exact ⟨(k, v), by simp, .inr (occurs_of_mem_strings v h)⟩
    · obtain ⟨e, he, hs⟩ := occurs_of_mem_entryStrings es h
      exact ⟨e, by simp [he], hs⟩

end

/-- **The collected strings are exactly those that occur.** -/
theorem mem_strings_iff {s : Str} {v : Value} : s ∈ v.strings ↔ Occurs s v :=
  ⟨occurs_of_mem_strings v, Occurs.mem_strings⟩

end Value

end GovSec
