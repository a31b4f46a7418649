import Mathlib

/-!
Text as a list of Unicode scalar values, with the string operations a program scans text
with: substring tests, splitting at a character, splitting at white space, trimming.

The lemmas say what joining several texts with a separator does to these scans: a substring
or a word of one part survives in the joined text, and a piece between two separators of
another kind survives unless it touches a seam.
-/

namespace GovSec.Lib.Text

abbrev Str := List Char

instance : Coe String Str := ⟨String.toList⟩

instance : LawfulBEq Str := inferInstance

/-- The number of bytes of the UTF-8 encoding. -/
def utf8Len (t : Str) : ℕ := (t.map Char.utf8Size).sum

@[simp] lemma utf8Len_nil : utf8Len [] = 0 := rfl

@[simp] lemma utf8Len_cons (c : Char) (t : Str) : utf8Len (c :: t) = c.utf8Size + utf8Len t := by
  simp [utf8Len]

@[simp] lemma utf8Len_append (s t : Str) : utf8Len (s ++ t) = utf8Len s + utf8Len t := by
  simp [utf8Len]

/-- A property of every character of a fixed text, by trying each. -/
lemma forall_mem_of_all {t : Str} {p : Char → Prop} [DecidablePred p]
    (h : (t.all fun c => decide (p c)) = true) : ∀ c ∈ t, p c := by
  simpa using h

/-- `t.contains(pat)`. -/
def contains (t pat : Str) : Bool := decide (pat <:+: t)

@[simp] lemma contains_iff {t pat : Str} : contains t pat = true ↔ pat <:+: t := by
  simp [contains]

lemma contains_mono {s t pat : Str} (h : s <:+: t) (hs : contains s pat = true) :
    contains t pat = true := by
  rw [contains_iff] at hs ⊢
  exact hs.trans h

/-- A text does not contain a pattern with a character it does not have. -/
lemma contains_eq_false {t pat : Str} {c : Char} (hc : c ∈ pat) (ht : c ∉ t) :
    contains t pat = false := by
  rw [Bool.eq_false_iff, ne_eq, contains_iff]
  exact fun h => ht (h.subset hc)

/-- `pats.iter().any(|p| t.contains(p))`. -/
def containsAny (t : Str) (pats : List Str) : Bool := pats.any (contains t)

lemma containsAny_mono {s t : Str} {pats : List Str} (h : s <:+: t)
    (hs : containsAny s pats = true) : containsAny t pats = true := by
  rw [containsAny, List.any_eq_true] at hs ⊢
  obtain ⟨p, hp, hsp⟩ := hs
  exact ⟨p, hp, contains_mono h hsp⟩

/-- `t.replace(a, b)` for single characters. -/
def replaceChar (a b : Char) (t : Str) : Str := t.map fun c => if c = a then b else c

@[simp] lemma replaceChar_nil (a b : Char) : replaceChar a b [] = [] := rfl

@[simp] lemma replaceChar_append (a b : Char) (s t : Str) :
    replaceChar a b (s ++ t) = replaceChar a b s ++ replaceChar a b t := by
  simp [replaceChar]

lemma replaceChar_isInfix {a b : Char} {s t : Str} (h : s <:+: t) :
    replaceChar a b s <:+: replaceChar a b t := h.map _

/-- `White_Space` of the Unicode Character Database. -/
def isWhitespace (c : Char) : Bool :=
  let n := c.toNat
  (0x09 ≤ n && n ≤ 0x0D) || n == 0x20 || n == 0x85 || n == 0xA0 || n == 0x1680 ||
    (0x2000 ≤ n && n ≤ 0x200A) || n == 0x2028 || n == 0x2029 || n == 0x202F || n == 0x205F ||
    n == 0x3000

/-- General category `Cc`. -/
def isControl (c : Char) : Bool := c.toNat < 0x20 || (0x7F ≤ c.toNat && c.toNat < 0xA0)

/-- `t.trim()`. -/
def trim (t : Str) : Str := ((t.dropWhile isWhitespace).reverse.dropWhile isWhitespace).reverse

lemma mem_dropWhile_of_not {t : Str} {c : Char} {p : Char → Bool} (hc : c ∈ t)
    (hp : p c = false) : c ∈ t.dropWhile p := by
  rw [← List.takeWhile_append_dropWhile (p := p) (l := t)] at hc
  rcases List.mem_append.mp hc with h | h
  · exact absurd (List.mem_takeWhile_imp h) (by simp [hp])
  · exact h

/-- Trimming only takes white space away. -/
lemma mem_trim {t : Str} {c : Char} (hc : c ∈ t) (hw : isWhitespace c = false) : c ∈ trim t := by
  rw [trim, List.mem_reverse]
  apply mem_dropWhile_of_not _ hw
  rw [List.mem_reverse]
  exact mem_dropWhile_of_not hc hw

lemma trim_ne_nil {t : Str} {c : Char} (hc : c ∈ t) (hw : isWhitespace c = false) :
    trim t ≠ [] := List.ne_nil_of_mem (mem_trim hc hw)

/-- White space around a text without any is trimmed. -/
lemma trim_surrounded {t before after : Str} (hbefore : ∀ c ∈ before, isWhitespace c = true)
    (ht : ∀ c ∈ t, isWhitespace c = false) (hafter : ∀ c ∈ after, isWhitespace c = true) :
    trim (before ++ t ++ after) = t := by
  have hdrop {u v : Str} (hu : ∀ c ∈ u, isWhitespace c = true)
      (hv : ∀ c ∈ v.head?, isWhitespace c = false) : (u ++ v).dropWhile isWhitespace = v := by
    rw [List.dropWhile_append_of_pos hu]
    cases v with
    | nil => rfl
    | cons c v => rw [List.dropWhile_cons_of_neg (by simp [hv c (by simp)])]
  cases t with
  | nil =>
    have hnone : (before ++ [] ++ after).dropWhile isWhitespace = [] := by
      rw [List.dropWhile_eq_nil_iff, List.append_nil]
      intro c hc
      exact (List.mem_append.mp hc).elim (hbefore c) (hafter c)
    rw [trim, hnone]
    rfl
  | cons c t =>
    rw [trim, List.append_assoc, hdrop hbefore (by simpa using ht c (by simp)),
      List.reverse_append, hdrop (by simpa using hafter), List.reverse_reverse]
    intro d hd
    exact ht d (List.mem_reverse.mp (List.mem_of_mem_head? hd))

/-- `t.split_whitespace()`. -/
def words (t : Str) : List Str := (t.splitOnP isWhitespace).filter (· ≠ [])

/-- `t.split(c)`. -/
def split (c : Char) (t : Str) : List Str := t.splitOn c

/-- The texts one after another with `sep` between neighbours. -/
def joinWith (sep : Char) (ts : List Str) : Str := [sep].intercalate ts

@[simp] lemma joinWith_nil (sep : Char) : joinWith sep [] = [] := rfl

@[simp] lemma joinWith_singleton (sep : Char) (t : Str) : joinWith sep [t] = t := by
  simp [joinWith]

lemma joinWith_cons_cons (sep : Char) (s t : Str) (ts : List Str) :
    joinWith sep (s :: t :: ts) = s ++ sep :: joinWith sep (t :: ts) := by
  simp [joinWith]

lemma joinWith_cons_of_ne_nil (sep : Char) (s : Str) {ts : List Str} (h : ts ≠ []) :
    joinWith sep (s :: ts) = s ++ sep :: joinWith sep ts := by
  obtain ⟨t, ts, rfl⟩ := List.exists_cons_of_ne_nil h
  exact joinWith_cons_cons sep s t ts

/-- Writing a separator before every further text joins them. -/
lemma append_flatMap_eq_joinWith (sep : Char) (s : Str) (ts : List Str) :
    s ++ ts.flatMap (sep :: ·) = joinWith sep (s :: ts) := by
  induction ts generalizing s with
  | nil => simp
  | cons t ts ih =>
    rw [joinWith_cons_cons, ← ih]
    simp

/-- Two or more parts leave a separator in the joined text. -/
lemma sep_mem_joinWith (sep : Char) (s t : Str) (ts : List Str) :
    sep ∈ joinWith sep (s :: t :: ts) := by
  rw [joinWith_cons_cons]
  simp

/-- Parts without the separator can be read back. -/
lemma joinWith_injOn {sep : Char} {ts us : List Str} (hts : ∀ t ∈ ts, sep ∉ t)
    (hus : ∀ u ∈ us, sep ∉ u) (hne : ts ≠ []) (hne' : us ≠ [])
    (h : joinWith sep ts = joinWith sep us) : ts = us := by
  rw [← List.splitOn_intercalate sep hts hne, ← List.splitOn_intercalate sep hus hne']
  exact congrArg (List.splitOn sep) h

/-- A separator is found again when the texts before it have as many separators. -/
lemma append_sep_inj {sep : Char} {s t u v : Str} (hcount : s.count sep = t.count sep)
    (h : s ++ sep :: u = t ++ sep :: v) : s = t ∧ u = v := by
  rcases List.append_eq_append_iff.mp h with ⟨l, rfl, hl⟩ | ⟨l, rfl, hl⟩
  · cases l with
    | nil => simpa using hl
    | cons c l =>
      obtain ⟨rfl, -⟩ := List.cons.inj hl
      simp at hcount
  · cases l with
    | nil => simpa using hl.symm
    | cons c l =>
      obtain ⟨rfl, -⟩ := List.cons.inj hl
      simp at hcount

/-- Parts can be read back when each has as many separators as the part in its place. -/
lemma joinWith_inj_of_count {sep : Char} {ts us : List Str}
    (hcount : ts.map (·.count sep) = us.map (·.count sep))
    (h : joinWith sep ts = joinWith sep us) : ts = us := by
  induction ts generalizing us with
  | nil => exact (List.map_eq_nil_iff.mp hcount.symm).symm
  | cons t ts ih =>
    cases us with
    | nil => simp at hcount
    | cons u us =>
      obtain ⟨hhead, htail⟩ := List.cons.inj hcount
      cases ts with
      | nil =>
        obtain rfl := List.map_eq_nil_iff.mp htail.symm
        simpa using h
      | cons t' ts =>
        cases us with
        | nil => simp at htail
        | cons u' us =>
          rw [joinWith_cons_cons, joinWith_cons_cons] at h
          obtain ⟨rfl, hrest⟩ := append_sep_inj hhead h
          rw [ih htail hrest]

/-- The separators of a joined text are those between the parts and those in them. -/
lemma count_joinWith (sep : Char) (t : Str) (ts : List Str) :
    (joinWith sep (t :: ts)).count sep = ((t :: ts).map (·.count sep)).sum + ts.length := by
  induction ts generalizing t with
  | nil => simp
  | cons u ts ih =>
    rw [joinWith_cons_cons, List.count_append, List.count_cons_self, ih u]
    simp only [List.map_cons, List.sum_cons, List.length_cons]
    omega

/-- As many parts of the same text have no separator when the others have none. -/
lemma sep_notMem_of_joinWith_eq {sep : Char} {ts us : List Str} (hts : ∀ t ∈ ts, sep ∉ t)
    (hlen : ts.length = us.length) (h : joinWith sep ts = joinWith sep us) :
    ∀ u ∈ us, sep ∉ u := by
  cases ts with
  | nil =>
    obtain rfl := List.length_eq_zero_iff.mp hlen.symm
    simp
  | cons t ts =>
    cases us with
    | nil => simp at hlen
    | cons u us =>
      have hzero : ((t :: ts).map (·.count sep)).sum = 0 := by
        rw [List.sum_eq_zero_iff]
        intro n hn
        obtain ⟨s, hs, rfl⟩ := List.mem_map.mp hn
        exact List.count_eq_zero.mpr (hts s hs)
      have hcount := congrArg (List.count sep) h
      rw [count_joinWith, count_joinWith, hzero] at hcount
      simp only [List.length_cons] at hlen
      have hsum : ((u :: us).map (·.count sep)).sum = 0 := by omega
      intro s hs
      exact List.count_eq_zero.mp (List.sum_eq_zero_iff.mp hsum _ (List.mem_map_of_mem hs))

lemma infix_joinWith {sep : Char} {s : Str} {ts : List Str} (h : s ∈ ts) :
    s <:+: joinWith sep ts := by
  induction ts with
  | nil => simp at h
  | cons t ts ih =>
    by_cases hts : ts = []
    · subst hts
      rw [List.mem_singleton.mp h, joinWith_singleton]
    · rw [joinWith_cons_of_ne_nil sep t hts]
      rcases List.mem_cons.mp h with rfl | h'
      · exact List.infix_append' [] s _
      · exact (ih h').trans ⟨t ++ [sep], [], by simp⟩

lemma replaceChar_joinWith {a b sep : Char} (hsep : sep ≠ a) (ts : List Str) :
    replaceChar a b (joinWith sep ts) = joinWith sep (ts.map (replaceChar a b)) := by
  induction ts with
  | nil => rfl
  | cons t ts ih =>
    by_cases hts : ts = []
    · subst hts; simp
    · have hm : ts.map (replaceChar a b) ≠ [] := by simpa using hts
      rw [List.map_cons, joinWith_cons_of_ne_nil sep t hts, joinWith_cons_of_ne_nil sep _ hm, ← ih]
      simp [replaceChar, hsep]

/-! ### Words of a joined text -/

lemma splitOnP_joinWith {p : Char → Bool} {sep : Char} (hsep : p sep = true) {ts : List Str}
    (hts : ts ≠ []) : (joinWith sep ts).splitOnP p = ts.flatMap (List.splitOnP p) := by
  induction ts with
  | nil => exact absurd rfl hts
  | cons t ts ih =>
    by_cases h : ts = []
    · subst h; simp
    · rw [joinWith_cons_of_ne_nil sep t h, List.splitOnP_append_cons t _ hsep, ih h,
        List.flatMap_cons]

/-- Joining at white space keeps the words. -/
lemma words_joinWith {sep : Char} (hsep : isWhitespace sep = true) {ts : List Str}
    (hts : ts ≠ []) : words (joinWith sep ts) = ts.flatMap words := by
  unfold words
  rw [splitOnP_joinWith hsep hts, List.filter_flatMap]

lemma mem_words_joinWith {sep : Char} (hsep : isWhitespace sep = true) {ts : List Str} {t w : Str}
    (ht : t ∈ ts) (hw : w ∈ words t) : w ∈ words (joinWith sep ts) := by
  rw [words_joinWith hsep (List.ne_nil_of_mem ht)]
  exact List.mem_flatMap.mpr ⟨t, ht, hw⟩

/-! ### Pieces of a joined text

A text is cut at `c` into pieces. In a joined text the last piece of one part and the first
piece of the next run together over the seam, so only the pieces away from the seams are
pieces of the whole. -/

/-- The pieces of `t` that do not touch a seam, when `t` is the first part, the last part,
both or neither. -/
def freePieces (c : Char) (isFirst isLast : Bool) (t : Str) : List Str :=
  let ps := split c t
  let ps := if isFirst then ps else ps.tail
  if isLast then ps else ps.dropLast

/-- The pieces of the parts of a joined text that do not touch a seam. -/
def allFreePieces (c : Char) : Bool → List Str → List Str
  | _, [] => []
  | isFirst, [t] => freePieces c isFirst true t
  | isFirst, t :: u :: ts => freePieces c isFirst false t ++ allFreePieces c false (u :: ts)

lemma allFreePieces_cons_of_ne_nil (c : Char) (isFirst : Bool) (t : Str) {ts : List Str}
    (h : ts ≠ []) :
    allFreePieces c isFirst (t :: ts) =
      freePieces c isFirst false t ++ allFreePieces c false ts := by
  obtain ⟨u, us, rfl⟩ := List.exists_cons_of_ne_nil h
  rfl

lemma mem_allFreePieces {c : Char} {d : Str} {isFirst : Bool} {ts : List Str} :
    d ∈ allFreePieces c isFirst ts ↔
      ∃ pre t post, ts = pre ++ t :: post ∧
        d ∈ freePieces c (isFirst && pre.isEmpty) post.isEmpty t := by
  induction ts generalizing isFirst with
  | nil => simp [allFreePieces]
  | cons t ts ih =>
    by_cases h : ts = []
    · subst h
      constructor
      · intro hd
        exact ⟨[], t, [], rfl, by simpa [allFreePieces] using hd⟩
      · rintro ⟨pre, u, post, hsplit, hd⟩
        obtain ⟨rfl, rfl, rfl⟩ : pre = [] ∧ t = u ∧ post = [] := by
          cases pre with
          | nil => simpa using hsplit
          | cons _ _ => simp at hsplit
        simpa [allFreePieces] using hd
    · have hemp : ts.isEmpty = false := by simpa using h
      rw [allFreePieces_cons_of_ne_nil c isFirst t h, List.mem_append, ih]
      constructor
      · rintro (hd | ⟨pre, u, post, rfl, hd⟩)
        · exact ⟨[], t, ts, rfl, by simpa [hemp] using hd⟩
        · exact ⟨t :: pre, u, post, rfl, by simpa using hd⟩
      · rintro ⟨pre, u, post, hsplit, hd⟩
        cases pre with
        | nil =>
          obtain ⟨rfl, rfl⟩ : t = u ∧ ts = post := by simpa using hsplit
          exact .inl (by simpa [hemp] using hd)
        | cons v pre =>
          obtain ⟨rfl, rfl⟩ : t = v ∧ ts = pre ++ u :: post := by simpa using hsplit
          exact .inr ⟨pre, u, post, rfl, by simpa using hd⟩

lemma split_append_sep {c sep : Char} (hsep : sep ≠ c) (s t : Str) :
    split c (s ++ sep :: t) =
      (split c s).dropLast ++
        ((split c s).getLast (List.splitOn_ne_nil c s) ++
          sep :: (split c t).head (List.splitOn_ne_nil c t)) :: (split c t).tail := by
  unfold split
  induction s with
  | nil =>
    obtain ⟨p, ps, hp⟩ := List.exists_cons_of_ne_nil (List.splitOn_ne_nil c t)
    simp [List.splitOn_cons_eq_if_modifyHead, hsep, hp]
  | cons x s ih =>
    obtain ⟨p, ps, hp⟩ := List.exists_cons_of_ne_nil (List.splitOn_ne_nil c s)
    rw [List.cons_append, List.splitOn_cons_eq_if_modifyHead, ih]
    by_cases hx : x = c
    · subst hx
      simp [List.splitOn_cons_eq_if_modifyHead, hp]
    · cases ps with
      | nil => simp [List.splitOn_cons_eq_if_modifyHead, hp, hx]
      | cons q qs => simp [List.splitOn_cons_eq_if_modifyHead, hp, hx]

/-- The pieces of a joined text without a separator in them are the pieces of its parts away
from the seams. -/
lemma mem_split_joinWith_tail {c sep : Char} (hsep : sep ≠ c) {d : Str} (hd : sep ∉ d)
    (isFirst : Bool) {ts : List Str} (hts : ts ≠ []) :
    d ∈ (if isFirst then split c (joinWith sep ts) else (split c (joinWith sep ts)).tail) ↔
      d ∈ allFreePieces c isFirst ts := by
  induction ts generalizing isFirst with
  | nil => exact absurd rfl hts
  | cons t ts ih =>
    by_cases h : ts = []
    · subst h
      cases isFirst <;> simp [allFreePieces, freePieces]
    · have htail := ih false h
      rw [if_neg Bool.false_ne_true] at htail
      rw [allFreePieces_cons_of_ne_nil c isFirst t h, joinWith_cons_of_ne_nil sep t h,
        split_append_sep hsep, List.mem_append, ← htail]
      obtain ⟨p, ps, hp⟩ := List.exists_cons_of_ne_nil (List.splitOn_ne_nil c t)
      have hp : split c t = p :: ps := hp
      -- the piece over the seam holds the separator, so it is not `d`
      have hseam : ∀ a b : Str, d ≠ a ++ sep :: b := by
        rintro a b rfl
        exact hd (by simp)
      cases isFirst with
      | true => simp [freePieces, hseam]
      | false =>
        cases ps with
        | nil => simp [freePieces, hp]
        | cons q qs => simp [freePieces, hp, hseam]

theorem mem_split_joinWith {c sep : Char} (hsep : sep ≠ c) {d : Str} (hd : sep ∉ d)
    {ts : List Str} (hts : ts ≠ []) :
    d ∈ split c (joinWith sep ts) ↔
      ∃ pre t post, ts = pre ++ t :: post ∧ d ∈ freePieces c pre.isEmpty post.isEmpty t := by
  have h := mem_split_joinWith_tail hsep hd true hts
  rw [if_pos rfl, mem_allFreePieces] at h
  simpa using h

end GovSec.Lib.Text
