import Mathlib
import GovSec.Lib.Text

/-!
JSON texts: a one-pass scan into tokens, and the tree whose tokens they are.

White space may stand between tokens and nowhere else, so a text is read in two stages. The
scan cuts it into tokens, with the escapes of strings undone. A tree has exactly one token list,
and different trees have different ones, so the tokens of a well-formed text determine its tree.
-/

namespace GovSec.Lib.JsonText

open GovSec.Lib.Text

inductive Token
  | openObject
  | closeObject
  | openArray
  | closeArray
  | colon
  | comma
  | null
  | bool (b : Bool)
  | number (raw : Str)
  | string (s : Str)
  deriving DecidableEq

/-! ### Numbers -/

def isNumberChar (c : Char) : Bool :=
  c.isDigit || c == '-' || c == '+' || c == '.' || c == 'e' || c == 'E'

/-- One or more digits and nothing else. -/
def isDigits (t : Str) : Bool := t ≠ [] && t.all Char.isDigit

def isSigned : Str → Bool
  | '+' :: t => isDigits t
  | '-' :: t => isDigits t
  | t => isDigits t

def isExponent : Str → Bool
  | [] => true
  | c :: t => (c = 'e' || c = 'E') && isSigned t

def isFraction (t : Str) : Bool :=
  match t with
  | '.' :: t => t.takeWhile Char.isDigit ≠ [] && isExponent (t.dropWhile Char.isDigit)
  | t => isExponent t

def isUnsigned (t : Str) : Bool :=
  let whole := t.takeWhile Char.isDigit
  whole ≠ [] && (whole = ['0'] || whole.head? ≠ some '0') && isFraction (t.dropWhile Char.isDigit)

/-- The grammar of numbers. -/
def isNumber : Str → Bool
  | '-' :: t => isUnsigned t
  | t => isUnsigned t

lemma all_isNumberChar_of_all_isDigit {t : Str} (h : t.all Char.isDigit = true) :
    t.all isNumberChar = true := by
  rw [List.all_eq_true] at h ⊢
  intro c hc
  simp [isNumberChar, h c hc]

lemma all_isNumberChar_of_isDigits {t : Str} (h : isDigits t = true) :
    t.all isNumberChar = true := by
  rw [isDigits, Bool.and_eq_true] at h
  exact all_isNumberChar_of_all_isDigit h.2

/-- Digits with an optional sign. -/
lemma all_isNumberChar_of_isSigned {t : Str} (h : isSigned t = true) :
    t.all isNumberChar = true := by
  unfold isSigned at h
  split at h
  · rw [List.all_cons, all_isNumberChar_of_isDigits h]; rfl
  · rw [List.all_cons, all_isNumberChar_of_isDigits h]; rfl
  · exact all_isNumberChar_of_isDigits h

lemma all_isNumberChar_of_isExponent {t : Str} (h : isExponent t = true) :
    t.all isNumberChar = true := by
  cases t with
  | nil => rfl
  | cons c t =>
    simp only [isExponent, Bool.and_eq_true, Bool.or_eq_true, decide_eq_true_eq] at h
    obtain ⟨hc, ht⟩ := h
    rw [List.all_cons, all_isNumberChar_of_isSigned ht, Bool.and_true]
    rcases hc with rfl | rfl <;> rfl

lemma all_isDigit_takeWhile (t : Str) : (t.takeWhile Char.isDigit).all Char.isDigit = true := by
  rw [List.all_eq_true]
  exact fun c hc => List.mem_takeWhile_imp hc

lemma all_isNumberChar_of_dropWhile {t : Str}
    (h : (t.dropWhile Char.isDigit).all isNumberChar = true) : t.all isNumberChar = true := by
  rw [← List.takeWhile_append_dropWhile (p := Char.isDigit) (l := t), List.all_append, h,
    all_isNumberChar_of_all_isDigit (all_isDigit_takeWhile t)]
  rfl

lemma all_isNumberChar_of_isFraction {t : Str} (h : isFraction t = true) :
    t.all isNumberChar = true := by
  unfold isFraction at h
  split at h
  · rw [Bool.and_eq_true] at h
    rw [List.all_cons, all_isNumberChar_of_dropWhile (all_isNumberChar_of_isExponent h.2)]
    rfl
  · exact all_isNumberChar_of_isExponent h

lemma all_isNumberChar_of_isUnsigned {t : Str} (h : isUnsigned t = true) :
    t.all isNumberChar = true := by
  rw [isUnsigned, Bool.and_eq_true] at h
  exact all_isNumberChar_of_dropWhile (all_isNumberChar_of_isFraction h.2)

/-- A number is written in the characters of numbers. -/
lemma all_isNumberChar_of_isNumber {t : Str} (h : isNumber t = true) :
    t.all isNumberChar = true := by
  unfold isNumber at h
  split at h
  · rw [List.all_cons, all_isNumberChar_of_isUnsigned h]; rfl
  · exact all_isNumberChar_of_isUnsigned h

/-! ### The scan -/

/-- Where the scan stands. The characters of the string or number being read are kept in
reverse. -/
inductive Mode
  | outside
  | string (rev : Str)
  /-- After a backslash. -/
  | escape (rev : Str)
  /-- Among the four digits after `\\u`, perhaps for the second half of a surrogate pair. -/
  | hex (rev : Str) (high : Option ℕ) (count value : ℕ)
  | afterHigh (rev : Str) (high : ℕ)
  | afterHighEscape (rev : Str) (high : ℕ)
  | number (rev : Str)
  | literal (rest : Str) (token : Token)
  deriving DecidableEq

def isBlank (c : Char) : Bool := c = ' ' || c = '\t' || c = '\n' || c = '\r'

def hexCode (c : Char) : Option ℕ :=
  if '0' ≤ c ∧ c ≤ '9' then some (c.toNat - 48)
  else if 'a' ≤ c ∧ c ≤ 'f' then some (c.toNat - 87)
  else if 'A' ≤ c ∧ c ≤ 'F' then some (c.toNat - 55)
  else none

/-- The character a two-character escape stands for. -/
def simpleEscape (c : Char) : Option Char :=
  if c = '"' ∨ c = '\\' ∨ c = '/' then some c
  else if c = 'b' then some (Char.ofNat 8)
  else if c = 'f' then some (Char.ofNat 12)
  else if c = 'n' then some '\n'
  else if c = 'r' then some '\r'
  else if c = 't' then some '\t'
  else none

/-- After the fourth digit: a character, the first half of a surrogate pair or its second. -/
def hexEnd (rev : Str) (value : ℕ) : Option ℕ → Option Mode
  | none =>
    if 0xD800 ≤ value ∧ value < 0xDC00 then some (.afterHigh rev value)
    else if 0xDC00 ≤ value ∧ value < 0xE000 then none
    else some (.string (Char.ofNat value :: rev))
  | some high =>
    if 0xDC00 ≤ value ∧ value < 0xE000 then
      some (.string (Char.ofNat (0x10000 + (high - 0xD800) * 0x400 + (value - 0xDC00)) :: rev))
    else none

def outsideStep (c : Char) : Option (List Token × Mode) :=
  if isBlank c then some ([], .outside)
  else if c = '\x7b' then some ([.openObject], .outside)
  else if c = '\x7d' then some ([.closeObject], .outside)
  else if c = '[' then some ([.openArray], .outside)
  else if c = ']' then some ([.closeArray], .outside)
  else if c = ':' then some ([.colon], .outside)
  else if c = ',' then some ([.comma], .outside)
  else if c = '"' then some ([], .string [])
  else if c = 'n' then some ([], .literal "ull" .null)
  else if c = 't' then some ([], .literal "rue" (.bool true))
  else if c = 'f' then some ([], .literal "alse" (.bool false))
  else if isNumberChar c then some ([], .number [c])
  else none

def Mode.step : Mode → Char → Option (List Token × Mode)
  | outside, c => outsideStep c
  | string rev, c =>
    if c = '"' then some ([.string rev.reverse], outside)
    else if c = '\\' then some ([], escape rev)
    else if c.toNat < 32 then none
    else some ([], string (c :: rev))
  | escape rev, c =>
    if c = 'u' then some ([], hex rev none 0 0)
    else (simpleEscape c).map fun d => ([], string (d :: rev))
  | hex rev high count value, c =>
    match hexCode c with
    | none => none
    | some d =>
      if count < 3 then some ([], hex rev high (count + 1) (16 * value + d))
      else (hexEnd rev (16 * value + d) high).map fun m => ([], m)
  | afterHigh rev high, c => if c = '\\' then some ([], afterHighEscape rev high) else none
  | afterHighEscape rev high, c => if c = 'u' then some ([], hex rev (some high) 0 0) else none
  | number rev, c =>
    if isNumberChar c then some ([], number (c :: rev))
    else if isNumber rev.reverse then
      (outsideStep c).map fun r => (.number rev.reverse :: r.1, r.2)
    else none
  | literal [] _, _ => none
  | literal (x :: rest) token, c =>
    if c = x then
      if rest = [] then some ([token], outside) else some ([], literal rest token)
    else none

/-- The tokens a text adds from a mode on, and the mode it leads to. -/
def run : Mode → Str → Option (List Token × Mode)
  | m, [] => some ([], m)
  | m, c :: t =>
    match m.step c with
    | none => none
    | some (ts, m') =>
      match run m' t with
      | none => none
      | some (us, m'') => some (ts ++ us, m'')

/-- What the end of the text adds. -/
def Mode.finish : Mode → Option (List Token)
  | outside => some []
  | number rev => if isNumber rev.reverse then some [.number rev.reverse] else none
  | _ => none

/-- The tokens of a text from a mode on. -/
def Mode.scan (m : Mode) (t : Str) : Option (List Token) :=
  match run m t with
  | none => none
  | some (ts, m') => m'.finish.map (ts ++ ·)

/-- The tokens of a text. -/
def tokenize (t : Str) : Option (List Token) := Mode.outside.scan t

/-! ### Trees -/

/-- A JSON value with its numbers as written and its members in order. -/
inductive JsonTree
  | null
  | bool (b : Bool)
  | number (raw : Str)
  | string (s : Str)
  | array (items : List JsonTree)
  | object (members : List (Str × JsonTree))

namespace JsonTree

mutual

def tokens : JsonTree → List Token
  | null => [.null]
  | bool b => [.bool b]
  | number raw => [.number raw]
  | string s => [.string s]
  | array items => .openArray :: itemTokens true items ++ [.closeArray]
  | object members => .openObject :: memberTokens true members ++ [.closeObject]

def itemTokens : Bool → List JsonTree → List Token
  | _, [] => []
  | isFirst, j :: js => (if isFirst then [] else [.comma]) ++ tokens j ++ itemTokens false js

def memberTokens : Bool → List (Str × JsonTree) → List Token
  | _, [] => []
  | isFirst, (key, j) :: ms =>
    (if isFirst then [] else [.comma]) ++ .string key :: .colon :: tokens j ++ memberTokens false ms

end

/-- The value of a key, the last one when it is repeated. -/
def get (members : List (Str × JsonTree)) (key : Str) : Option JsonTree :=
  (members.reverse.find? (·.1 = key)).map (·.2)

/-- A token that a value can begin with. -/
def Begins (t : Token) : Prop :=
  t ≠ .closeArray ∧ t ≠ .closeObject ∧ t ≠ .comma ∧ t ≠ .colon

lemma tokens_begins (j : JsonTree) : ∃ t ts, j.tokens = t :: ts ∧ Begins t := by
  cases j <;> exact ⟨_, _, rfl, by simp [Begins]⟩

mutual

/-- **The tokens of a tree are a prefix code.** -/
lemma tokens_append_inj : ∀ {j k : JsonTree} {r r' : List Token},
    j.tokens ++ r = k.tokens ++ r' → j = k ∧ r = r'
  | null, k, r, r', h => by cases k <;> simp_all [tokens]
  | bool b, k, r, r', h => by cases k <;> simp_all [tokens]
  | number raw, k, r, r', h => by cases k <;> simp_all [tokens]
  | string s, k, r, r', h => by cases k <;> simp_all [tokens]
  | array items, k, r, r', h => by
    cases k with
    | array items' =>
      have h' : itemTokens true items ++ .closeArray :: r =
          itemTokens true items' ++ .closeArray :: r' := by simpa [tokens] using h
      obtain ⟨rfl, rfl⟩ := itemTokens_append_inj h'
      exact ⟨rfl, rfl⟩
    | _ => simp [tokens] at h
  | object members, k, r, r', h => by
    cases k with
    | object members' =>
      have h' : memberTokens true members ++ .closeObject :: r =
          memberTokens true members' ++ .closeObject :: r' := by simpa [tokens] using h
      obtain ⟨rfl, rfl⟩ := memberTokens_append_inj h'
      exact ⟨rfl, rfl⟩
    | _ => simp [tokens] at h

lemma itemTokens_append_inj : ∀ {isFirst : Bool} {js ks : List JsonTree} {r r' : List Token},
    itemTokens isFirst js ++ .closeArray :: r = itemTokens isFirst ks ++ .closeArray :: r' →
      js = ks ∧ r = r'
  | _, [], [], r, r', h => by simpa [itemTokens] using h
  | isFirst, [], k :: ks, r, r', h => by
    obtain ⟨t, ts, ht, hb⟩ := tokens_begins k
    cases isFirst <;> simp [itemTokens, ht, hb.1.symm] at h
  | isFirst, j :: js, [], r, r', h => by
    obtain ⟨t, ts, ht, hb⟩ := tokens_begins j
    cases isFirst <;> simp [itemTokens, ht, hb.1] at h
  | isFirst, j :: js, k :: ks, r, r', h => by
    have h' : j.tokens ++ (itemTokens false js ++ .closeArray :: r) =
        k.tokens ++ (itemTokens false ks ++ .closeArray :: r') := by
      cases isFirst <;> simpa [itemTokens] using h
    obtain ⟨rfl, hrest⟩ := tokens_append_inj h'
    obtain ⟨rfl, rfl⟩ := itemTokens_append_inj hrest
    exact ⟨rfl, rfl⟩

lemma memberTokens_append_inj :
    ∀ {isFirst : Bool} {ms ns : List (Str × JsonTree)} {r r' : List Token},
    memberTokens isFirst ms ++ .closeObject :: r = memberTokens isFirst ns ++ .closeObject :: r' →
      ms = ns ∧ r = r'
  | _, [], [], r, r', h => by simpa [memberTokens] using h
  | isFirst, [], (key, k) :: ns, r, r', h => by cases isFirst <;> simp [memberTokens] at h
  | isFirst, (key, j) :: ms, [], r, r', h => by cases isFirst <;> simp [memberTokens] at h
  | isFirst, (key, j) :: ms, (key', k) :: ns, r, r', h => by
    have h' : key = key' ∧ j.tokens ++ (memberTokens false ms ++ .closeObject :: r) =
        k.tokens ++ (memberTokens false ns ++ .closeObject :: r') := by
      cases isFirst <;> simpa [memberTokens] using h
    obtain ⟨rfl, hvalue⟩ := h'
    obtain ⟨rfl, hrest⟩ := tokens_append_inj hvalue
    obtain ⟨rfl, rfl⟩ := memberTokens_append_inj hrest
    exact ⟨rfl, rfl⟩

end

/-- **JSON is unambiguous.** -/
theorem tokens_injective : Function.Injective tokens := by
  intro j k h
  have happend : j.tokens ++ [] = k.tokens ++ [] := by rw [h]
  exact (tokens_append_inj happend).1

end JsonTree

/-- `t` is a JSON text of the tree `j`. -/
def Reads (t : Str) (j : JsonTree) : Prop := tokenize t = some j.tokens

instance (t : Str) (j : JsonTree) : Decidable (Reads t j) :=
  inferInstanceAs (Decidable (tokenize t = some j.tokens))

lemma Reads.unique {t : Str} {j k : JsonTree} (hj : Reads t j) (hk : Reads t k) : j = k :=
  JsonTree.tokens_injective (Option.some.inj (hj.symm.trans hk))

/-! ### Scanning a text in parts -/

/-- A character that adds no token only changes the mode. -/
lemma run_cons_of_step {m m' : Mode} {c : Char} (h : m.step c = some ([], m')) (t : Str) :
    run m (c :: t) = run m' t := by
  rw [run, h]
  cases hrun : run m' t <;> simp [hrun]

/-- One character, then the rest. -/
lemma run_cons_eq_some {m m' : Mode} {c : Char} {t : Str} {ts : List Token} :
    run m (c :: t) = some (ts, m') ↔ ∃ us m₁ vs, m.step c = some (us, m₁) ∧
      run m₁ t = some (vs, m') ∧ us ++ vs = ts := by
  constructor
  · intro h
    rw [run] at h
    cases hstep : m.step c with
    | none => simp [hstep] at h
    | some r =>
      obtain ⟨us, m₁⟩ := r
      cases hrest : run m₁ t with
      | none => simp [hstep, hrest] at h
      | some r' =>
        obtain ⟨vs, m₂⟩ := r'
        obtain ⟨rfl, rfl⟩ : us ++ vs = ts ∧ m₂ = m' := by simpa [hstep, hrest] using h
        exact ⟨us, m₁, vs, rfl, hrest, rfl⟩
  · rintro ⟨us, m₁, vs, hstep, hrest, rfl⟩
    simp [run, hstep, hrest]

lemma run_append {m m' : Mode} {t : Str} {ts : List Token} (h : run m t = some (ts, m')) (u : Str) :
    run m (t ++ u) = (run m' u).map fun r => (ts ++ r.1, r.2) := by
  induction t generalizing m ts with
  | nil =>
    obtain ⟨rfl, rfl⟩ : ts = [] ∧ m = m' := by simpa [run, eq_comm] using h
    simp only [List.nil_append]
    cases run m u <;> rfl
  | cons c t ih =>
    obtain ⟨us, m₁, vs, hstep, hrest, rfl⟩ := run_cons_eq_some.mp h
    rw [List.cons_append, run, hstep]
    simp only [ih hrest]
    cases run m' u <;> simp

lemma run_append_none {m : Mode} {t : Str} (h : run m t = none) (u : Str) :
    run m (t ++ u) = none := by
  induction t generalizing m with
  | nil => simp [run] at h
  | cons c t ih =>
    rw [List.cons_append]
    rw [run] at h ⊢
    cases hstep : m.step c with
    | none => rfl
    | some r =>
      have hrest : run r.2 t = none := by
        cases hr : run r.2 t with
        | none => rfl
        | some _ => simp [hstep, hr] at h
      simp [ih hrest]

lemma scan_append {m m' : Mode} {t : Str} {ts : List Token} (h : run m t = some (ts, m'))
    (u : Str) :
    m.scan (t ++ u) = (m'.scan u).map (ts ++ ·) := by
  simp only [Mode.scan, run_append h]
  cases run m' u with
  | none => rfl
  | some r => cases hf : r.2.finish <;> simp [hf]

lemma scan_append_eq_some {m : Mode} {t u : Str} {ts : List Token}
    (h : m.scan (t ++ u) = some ts) :
    ∃ us m' vs, run m t = some (us, m') ∧ m'.scan u = some vs ∧ ts = us ++ vs := by
  cases hrun : run m t with
  | none => simp [Mode.scan, run_append_none hrun] at h
  | some r =>
    obtain ⟨us, m'⟩ := r
    rw [scan_append hrun] at h
    cases hscan : m'.scan u with
    | none => simp [hscan] at h
    | some vs => exact ⟨us, m', vs, rfl, hscan, by simpa [hscan, eq_comm] using h⟩

lemma scan_cons (m : Mode) (c : Char) (t : Str) :
    m.scan (c :: t) = (m.step c).bind fun r => (r.2.scan t).map (r.1 ++ ·) := by
  simp only [Mode.scan, run]
  cases m.step c with
  | none => rfl
  | some r =>
    cases hrun : run r.2 t with
    | none => simp [hrun]
    | some r' => cases hf : r'.2.finish <;> simp [hrun, hf]

@[simp] lemma scan_nil (m : Mode) : m.scan [] = m.finish := by
  simp only [Mode.scan, run]
  cases m.finish <;> simp

/-! ### Values in a row

What follows a value in an array or an object ends it, so a value can be read on its own. -/

/-- A character that ends a value. -/
def IsEnd (c : Char) : Prop := c = ',' ∨ c = ']' ∨ c = '\x7d'

/-- Before an end of value, `t` adds exactly the tokens `ts`. -/
def Settles (t : Str) (ts : List Token) : Prop :=
  ∀ c u, IsEnd c → Mode.outside.scan (t ++ c :: u) = (Mode.outside.scan (c :: u)).map (ts ++ ·)

lemma not_isNumberChar_of_isEnd {c : Char} (h : IsEnd c) : isNumberChar c = false := by
  rcases h with rfl | rfl | rfl <;> decide

/-- A text with tokens of its own settles before an end of value. -/
lemma settles_of_tokenize {t : Str} {ts : List Token} (h : tokenize t = some ts) :
    Settles t ts := by
  intro c u hc
  cases hrun : run .outside t with
  | none => simp [tokenize, Mode.scan, hrun] at h
  | some r =>
    obtain ⟨us, m⟩ := r
    have hfinish : m.finish.map (us ++ ·) = some ts := by simpa [tokenize, Mode.scan, hrun] using h
    rw [scan_append hrun]
    cases m with
    | outside =>
      obtain rfl : us = ts := by simpa [Mode.finish] using hfinish
      rfl
    | number rev =>
      by_cases hnum : isNumber rev.reverse = true
      · obtain rfl : us ++ [.number rev.reverse] = ts := by simpa [Mode.finish, hnum] using hfinish
        have hstep : (Mode.number rev).step c =
            (outsideStep c).map fun r => (.number rev.reverse :: r.1, r.2) := by
          simp [Mode.step, not_isNumberChar_of_isEnd hc, hnum]
        rw [scan_cons, scan_cons, hstep]
        change _ = ((outsideStep c).bind _).map _
        cases outsideStep c with
        | none => rfl
        | some r =>
          simp only [Option.map_some, Option.bind_some]
          cases r.2.scan u <;> simp
      · simp [Mode.finish, hnum] at hfinish
    | _ => simp [Mode.finish] at hfinish

lemma Settles.join {texts : List Str} {tss : List (List Token)}
    (h : List.Forall₂ Settles texts tss) (hne : texts ≠ []) :
    Settles (joinWith ',' texts) ([Token.comma].intercalate tss) := by
  induction h with
  | nil => exact absurd rfl hne
  | @cons t ts texts tss ht hrest ih =>
    cases hrest with
    | nil => simpa using ht
    | @cons t' ts' texts' tss' ht' hrest' =>
      intro c u hc
      have hjoin : joinWith ',' (t :: t' :: texts') ++ c :: u =
          t ++ ',' :: (joinWith ',' (t' :: texts') ++ c :: u) := by
        rw [joinWith_cons_cons]
        simp
      have htokens : [Token.comma].intercalate (ts :: ts' :: tss') =
          ts ++ .comma :: [Token.comma].intercalate (ts' :: tss') := by simp
      have hcomma : Mode.outside.step ',' = some ([.comma], .outside) := rfl
      rw [hjoin, ht ',' _ (.inl rfl), scan_cons, hcomma, htokens]
      simp only [Option.bind_some, ih (by simp) c u hc]
      cases Mode.outside.scan (c :: u) <;> simp

lemma intercalate_cons {α : Type*} (x : α) (l : List α) (ls : List (List α)) :
    [x].intercalate (l :: ls) = l ++ ls.flatMap (x :: ·) := by
  induction ls generalizing l with
  | nil => simp
  | cons l' ls ih =>
    rw [List.intercalate_cons_cons, ih]
    simp

namespace JsonTree

lemma itemTokens_eq (js : List JsonTree) :
    itemTokens true js = [Token.comma].intercalate (js.map tokens) := by
  have htail : ∀ js : List JsonTree,
      itemTokens false js = (js.map tokens).flatMap (.comma :: ·) := by
    intro js
    induction js with
    | nil => rfl
    | cons j js ih => simp [itemTokens, ih]
  cases js with
  | nil => rfl
  | cons j js => rw [List.map_cons, intercalate_cons, ← htail]; rfl

def memberTokenList (m : Str × JsonTree) : List Token := .string m.1 :: .colon :: m.2.tokens

lemma memberTokens_eq (ms : List (Str × JsonTree)) :
    memberTokens true ms = [Token.comma].intercalate (ms.map memberTokenList) := by
  have htail : ∀ ms, memberTokens false ms = (ms.map memberTokenList).flatMap (.comma :: ·) := by
    intro ms
    induction ms with
    | nil => rfl
    | cons m ms ih => simp [memberTokens, memberTokenList, ih]
  cases ms with
  | nil => rfl
  | cons m ms => rw [List.map_cons, intercalate_cons, ← htail]; simp [memberTokens, memberTokenList]

end JsonTree

/-- **An array reads** when its items do. -/
theorem reads_array {texts : List Str} {js : List JsonTree} (h : List.Forall₂ Reads texts js) :
    Reads ('[' :: joinWith ',' texts ++ [']']) (.array js) := by
  have hopen : Mode.outside.step '[' = some ([.openArray], .outside) := rfl
  have hclose : Mode.outside.scan [']'] = some [.closeArray] := rfl
  rw [Reads, tokenize, List.cons_append, scan_cons, hopen, JsonTree.tokens, JsonTree.itemTokens_eq]
  cases texts with
  | nil =>
    obtain rfl := List.forall₂_nil_left_iff.mp h
    rfl
  | cons t ts =>
    have hsettles : List.Forall₂ Settles (t :: ts) (js.map JsonTree.tokens) := by
      rw [List.forall₂_map_right_iff]
      exact h.imp fun _ _ => settles_of_tokenize
    simp only [Option.bind_some, Settles.join hsettles (by simp) ']' [] (.inr (.inl rfl)), hclose]
    simp

/-- A member settles when its key is a string text and its value reads. -/
lemma settles_member {kt vt key : Str} {j : JsonTree}
    (hk : run .outside kt = some ([.string key], .outside)) (hv : Reads vt j) :
    Settles (kt ++ ':' :: vt) (JsonTree.memberTokenList (key, j)) := by
  intro c u hc
  have hcolon : Mode.outside.step ':' = some ([.colon], .outside) := rfl
  rw [List.append_assoc, scan_append hk, List.cons_append, scan_cons, hcolon]
  simp only [Option.bind_some, settles_of_tokenize hv c u hc, JsonTree.memberTokenList]
  cases Mode.outside.scan (c :: u) <;> simp

/-- **An object reads** when its members settle. -/
theorem reads_object {texts : List Str} {ms : List (Str × JsonTree)}
    (h : List.Forall₂ (fun t m => Settles t (JsonTree.memberTokenList m)) texts ms) :
    Reads ('\x7b' :: joinWith ',' texts ++ ['\x7d']) (.object ms) := by
  have hopen : Mode.outside.step '\x7b' = some ([.openObject], .outside) := rfl
  have hclose : Mode.outside.scan ['\x7d'] = some [.closeObject] := rfl
  rw [Reads, tokenize, List.cons_append, scan_cons, hopen, JsonTree.tokens,
    JsonTree.memberTokens_eq]
  cases texts with
  | nil =>
    obtain rfl := List.forall₂_nil_left_iff.mp h
    rfl
  | cons t ts =>
    have hsettles : List.Forall₂ Settles (t :: ts) (ms.map JsonTree.memberTokenList) := by
      rwa [List.forall₂_map_right_iff]
    simp only [Option.bind_some, Settles.join hsettles (by simp) '\x7d' [] (.inr (.inr rfl)),
      hclose]
    simp

lemma outsideStep_of_isNumberChar {c : Char} (h : isNumberChar c = true) :
    outsideStep c = some ([], .number [c]) := by
  have hne : ∀ d, isNumberChar d = false → c ≠ d := by
    rintro d hd rfl
    rw [hd] at h
    cases h
  have hblank : isBlank c = false := by
    simp [isBlank, hne ' ' rfl, hne '\t' rfl, hne '\n' rfl, hne '\r' rfl]
  simp [outsideStep, hblank, h, hne '\x7b' rfl, hne '\x7d' rfl, hne '[' rfl, hne ']' rfl,
    hne ':' rfl, hne ',' rfl, hne '"' rfl, hne 'n' rfl, hne 't' rfl, hne 'f' rfl]

/-- A number reads as itself. -/
lemma reads_number {raw : Str} (hnum : isNumber raw = true) : Reads raw (.number raw) := by
  have hchars := all_isNumberChar_of_isNumber hnum
  -- the scan collects the characters of a number
  have hrun : ∀ (t rev : Str), t.all isNumberChar = true →
      run (.number rev) t = some ([], .number (t.reverse ++ rev)) := by
    intro t
    induction t with
    | nil => intro rev _; rfl
    | cons c t ih =>
      intro rev ht
      rw [List.all_cons, Bool.and_eq_true] at ht
      have hstep : (Mode.number rev).step c = some ([], .number (c :: rev)) := by
        simp [Mode.step, ht.1]
      simp [run, hstep, ih _ ht.2]
  cases raw with
  | nil => simp [isNumber, isUnsigned] at hnum
  | cons c t =>
    rw [List.all_cons, Bool.and_eq_true] at hchars
    have hstart : Mode.outside.step c = some ([], .number [c]) :=
      outsideStep_of_isNumberChar hchars.1
    rw [Reads, tokenize, scan_cons, hstart]
    simp [Mode.scan, hrun t [c] hchars.2, Mode.finish, hnum, JsonTree.tokens]

end GovSec.Lib.JsonText
