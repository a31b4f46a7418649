import GovSec.CanonicalJson
import GovSec.Lib.Fronts
import GovSec.ServerHeaders

/-!
Messages: a start line, header lines, a blank line and a counted body.

What is written as a message is read back by the loops of the server, however its bytes arrive, and
the reader then stands at what follows. Both directions of a connection are such messages: a
request, and the reply that the server formats.
-/

namespace GovSec.Server

open GovSec.Lib.Text GovSec.Lib.Maps GovSec.Lib.Streams GovSec.Lib.Utf8
open Stream' (Seq)

/-! ### White space around a text -/

lemma dropWhile_append_of_not {p : Char → Bool} {c : Char} (hc : p c = false) (s t : Str) :
    (s ++ c :: t).dropWhile p = s.dropWhile p ++ c :: t := by
  induction s with
  | nil => simp [List.dropWhile, hc]
  | cons d s ih =>
    rw [List.cons_append, List.dropWhile_cons, List.dropWhile_cons, ih]
    split <;> rfl

/-- The parts before and after a character that is no white space are trimmed on one side. -/
lemma trim_append_cons {c : Char} (hc : isWhitespace c = false) (s t : Str) :
    trim (s ++ c :: t) =
      s.dropWhile isWhitespace ++ c :: (t.reverse.dropWhile isWhitespace).reverse := by
  have hreverse : (s.dropWhile isWhitespace ++ c :: t).reverse =
      t.reverse ++ c :: (s.dropWhile isWhitespace).reverse := by simp
  rw [trim, dropWhile_append_of_not hc, hreverse, dropWhile_append_of_not hc]
  simp

/-- White space around a text is trimmed with the text's own. -/
lemma trim_surround {before after : Str} (hbefore : ∀ c ∈ before, isWhitespace c = true)
    (hafter : ∀ c ∈ after, isWhitespace c = true) (t : Str) :
    trim (before ++ t ++ after) = trim t := by
  rw [trim, List.append_assoc, List.dropWhile_append_of_pos hbefore]
  by_cases ht : ∀ c ∈ t, isWhitespace c = true
  · rw [List.dropWhile_append_of_pos ht, List.dropWhile_eq_nil_iff.mpr hafter, trim,
      List.dropWhile_eq_nil_iff.mpr ht]
  · push Not at ht
    obtain ⟨c, hc, hblank⟩ := ht
    have hnot : isWhitespace c = false := by simpa using hblank
    obtain ⟨s, u, rfl⟩ := List.append_of_mem hc
    have hreverse : (s.dropWhile isWhitespace ++ c :: (u ++ after)).reverse =
        after.reverse ++ (s.dropWhile isWhitespace ++ c :: u).reverse := by simp
    rw [List.append_assoc, List.cons_append, dropWhile_append_of_not hnot, hreverse,
      List.dropWhile_append_of_pos (fun d hd => hafter d (List.mem_reverse.mp hd)), trim,
      dropWhile_append_of_not hnot]

lemma trim_dropWhile (t : Str) : trim (t.dropWhile isWhitespace) = trim t := by
  rw [trim, trim, List.dropWhile_idempotent]

lemma trim_reverse_dropWhile (t : Str) :
    trim (t.reverse.dropWhile isWhitespace).reverse = trim t := by
  have hsplit : (t.reverse.dropWhile isWhitespace).reverse ++
      (t.reverse.takeWhile isWhitespace).reverse = t := by
    rw [← List.reverse_append, List.takeWhile_append_dropWhile, List.reverse_reverse]
  have hblank : ∀ c ∈ (t.reverse.takeWhile isWhitespace).reverse, isWhitespace c = true :=
    fun c hc => List.mem_takeWhile_imp (List.mem_reverse.mp hc)
  have hnone : ∀ c ∈ ([] : Str), isWhitespace c = true := by simp
  have h := trim_surround hnone hblank (t.reverse.dropWhile isWhitespace).reverse
  rw [List.nil_append, hsplit] at h
  exact h.symm

/-! ### Messages -/

structure Message where
  start : Str
  fields : List (Str × Str)
  body : Str

def fieldLine (f : Str × Str) : Str := f.1 ++ ": " ++ f.2 ++ "\r\n"

namespace Message

variable (m : Message)

def head : Str := m.start ++ "\r\n" ++ (m.fields.flatMap fieldLine ++ "\r\n")

/-- What goes over the connection. -/
def text : Str := m.head ++ m.body

end Message

variable (P : Platform)

/-- Fields, stored as the header loop stores them. -/
def addFields (headers : Headers) (fields : List (Str × Str)) : Headers :=
  fields.foldl (fun headers f => headers.insert (P.toLowercase (trim f.1)) (trim f.2)) headers

/-- A field that its line can hold. -/
structure Fits (f : Str × Str) : Prop where
  colon : ':' ∉ f.1
  name : '\n' ∉ f.1
  value : '\n' ∉ f.2
  length : utf8Len f.1 + utf8Len f.2 + 4 ≤ maxHeaderLineBytes

/-- The start line and the header lines are within the bounds of a reader. -/
structure Message.Bounded (m : Message) : Prop where
  start : '\n' ∉ m.start
  length : utf8Len m.start + 2 ≤ maxHeaderLineBytes
  fits : ∀ f ∈ m.fields, Fits f
  count : m.fields.length ≤ maxHeaderCount

variable {P} {f : Str × Str} {s : Seq UInt8} {headers : Headers}

/-! ### One line -/

lemma decodeLossy_utf8 (t : Str) : decodeLossy (utf8 t) = t := decodeLossy_encode t

lemma utf8_append (s t : Str) : utf8 (s ++ t) = utf8 s ++ utf8 t := List.flatMap_append

lemma length_utf8 (t : Str) : (utf8 t).length = utf8Len t := length_flatMap_utf8EncodeChar t

lemma newline_mem_utf8 {t : Str} : newline ∈ utf8 t ↔ '\n' ∈ t :=
  mem_encode_iff (c := '\n') (by decide)

/-- **A line is read back**, and the reader stands after it. -/
theorem readLineBounded_front {t : Str} (ht : '\n' ∉ t) (hlen : utf8Len t + 1 ≤ maxHeaderLineBytes)
    (s : Seq UInt8) (sizes : Stream' ℕ) : ∃ sizes',
      readLineBounded maxHeaderLineBytes (.ofSizes (front (utf8 (t ++ ['\n'])) s) sizes) =
        (some (t ++ ['\n']), .ofSizes s sizes') := by
  have hline : firstLine newline maxHeaderLineBytes (front (utf8 (t ++ ['\n'])) s) =
      some (utf8 (t ++ ['\n'])) := by
    rw [utf8_append]
    exact firstLine_front (newline_mem_utf8.not.mpr ht) (by rwa [length_utf8]) s
  obtain ⟨rest, sizes', heq, hrest⟩ := readLineBounded_endsWith maxHeaderLineBytes
    (front (utf8 (t ++ ['\n'])) s) sizes
  refine ⟨sizes', ?_⟩
  rw [heq, hrest _ hline, hline, drop_front, Option.map_some, decodeLossy_utf8]

/-- The line of a field, up to its newline. -/
lemma fieldLine_eq (f : Str × Str) : fieldLine f = (f.1 ++ ": " ++ f.2 ++ ['\r']) ++ ['\n'] := by
  simp [fieldLine]

lemma Fits.newline_notMem (h : Fits f) : '\n' ∉ f.1 ++ ": " ++ f.2 ++ ['\r'] := by
  have hname := h.name
  have hvalue := h.value
  simp [hname, hvalue]

lemma Fits.utf8Len_le (h : Fits f) :
    utf8Len (f.1 ++ ": " ++ f.2 ++ ['\r']) + 1 ≤ maxHeaderLineBytes := by
  have hsep : utf8Len ": " = 2 := by decide
  have hcr : utf8Len ['\r'] = 1 := by decide
  have hlen := h.length
  simp only [utf8Len_append, hsep, hcr]
  omega

/-- The first colon of a field's line ends its name. -/
lemma headerField_fieldLine (h : ':' ∉ f.1) :
    headerField P (trim (fieldLine f)) = some (P.toLowercase (trim f.1), trim f.2) := by
  have hline : fieldLine f = f.1 ++ ':' :: ([' '] ++ f.2 ++ ['\r', '\n']) := by simp [fieldLine]
  have hname : ':' ∉ f.1.dropWhile isWhitespace := fun hc =>
    h ((List.dropWhile_suffix _).subset hc)
  have hfind : (f.1.dropWhile isWhitespace ++ ':' ::
      ((([' '] ++ f.2 ++ ['\r', '\n']).reverse.dropWhile isWhitespace).reverse)).findIdx?
        (· = ':') = some (f.1.dropWhile isWhitespace).length := by
    have hnone : (f.1.dropWhile isWhitespace).findIdx? (· = ':') = none := by
      rw [List.findIdx?_eq_none_iff]
      intro c hc
      simpa using fun heq : c = ':' => hname (heq ▸ hc)
    rw [List.findIdx?_append, hnone]
    simp [List.findIdx?_cons]
  rw [hline, trim_append_cons (by decide), headerField, hfind, Option.map_some]
  have htake : (f.1.dropWhile isWhitespace ++ ':' ::
      (([' '] ++ f.2 ++ ['\r', '\n']).reverse.dropWhile isWhitespace).reverse).take
        (f.1.dropWhile isWhitespace).length = f.1.dropWhile isWhitespace := List.take_left
  have hspace : ∀ c ∈ ([' '] : Str), isWhitespace c = true := by
    simp only [List.mem_singleton, forall_eq]
    decide
  have hend : ∀ c ∈ (['\r', '\n'] : Str), isWhitespace c = true := by
    simp only [List.mem_cons, List.not_mem_nil, or_false, forall_eq_or_imp, forall_eq]
    decide
  rw [htake, trim_dropWhile, List.drop_append, List.drop_eq_nil_of_le (by omega),
    List.nil_append, Nat.add_sub_cancel_left, List.drop_one, List.tail_cons,
    trim_reverse_dropWhile, trim_surround hspace hend]

lemma trim_fieldLine_ne_nil (f : Str × Str) : trim (fieldLine f) ≠ [] := by
  refine trim_ne_nil (c := ':') ?_ (by decide)
  simp [fieldLine]

/-! ### The header loop -/

lemma addFields_cons (headers : Headers) (f : Str × Str) (fields : List (Str × Str)) :
    addFields P headers (f :: fields) =
      addFields P (headers.insert (P.toLowercase (trim f.1)) (trim f.2)) fields := rfl

/-- **The header loop reads its fields back**, and stands after the blank line. -/
theorem readHeaders_fields {fields : List (Str × Str)} {n : ℕ} (hfits : ∀ f ∈ fields, Fits f)
    (hroom : len headers + fields.length ≤ maxHeaderCount) (hn : fields.length < n)
    (s : Seq UInt8) (sizes : Stream' ℕ) : ∃ sizes',
      readHeaders P n headers
          (.ofSizes (front (utf8 (fields.flatMap fieldLine ++ "\r\n")) s) sizes) =
        some (.ok (addFields P headers fields), .ofSizes s sizes') := by
  obtain ⟨n, rfl⟩ := Nat.exists_eq_add_of_lt (Nat.zero_lt_of_lt hn)
  rw [Nat.zero_add] at hn ⊢
  induction fields generalizing headers n sizes with
  | nil =>
    obtain ⟨sizes', hline⟩ := readLineBounded_front (t := ['\r']) (by decide) (by decide) s sizes
    refine ⟨sizes', ?_⟩
    have htext : (([] : List (Str × Str)).flatMap fieldLine ++ "\r\n" : Str) =
        ['\r'] ++ ['\n'] := rfl
    rw [htext, readHeaders, hline]
    rfl
  | cons f fields ih =>
    have hf : Fits f := hfits f (by simp)
    have htext : ((f :: fields).flatMap fieldLine ++ "\r\n" : Str) =
        ((f.1 ++ ": " ++ f.2 ++ ['\r']) ++ ['\n']) ++ (fields.flatMap fieldLine ++ "\r\n") := by
      rw [List.flatMap_cons, fieldLine_eq, List.append_assoc]
    obtain ⟨sizes₁, hline⟩ := readLineBounded_front hf.newline_notMem hf.utf8Len_le
      (front (utf8 (fields.flatMap fieldLine ++ "\r\n")) s) sizes
    have hlength : fields.length + 1 < n + 1 := hn
    obtain ⟨n, rfl⟩ := Nat.exists_eq_add_of_lt (show 0 < n by omega)
    rw [Nat.zero_add] at hlength ⊢
    have hlen : len (headers.insert (P.toLowercase (trim f.1)) (trim f.2)) ≤ len headers + 1 := by
      rw [len_eq_card_keys, keys_insert, len_eq_card_keys]
      exact Finset.card_insert_le _ _
    rw [List.length_cons] at hroom
    have hroom' : len (headers.insert (P.toLowercase (trim f.1)) (trim f.2)) + fields.length ≤
        maxHeaderCount := by omega
    obtain ⟨sizes', hrest⟩ := ih (fun g hg => hfits g (by simp [hg])) hroom' sizes₁ n (by omega)
    refine ⟨sizes', ?_⟩
    rw [htext, utf8_append, front_append, readHeaders, hline, ← fieldLine_eq]
    dsimp only
    rw [if_neg (trim_fieldLine_ne_nil f), if_neg (by omega), addHeader,
      headerField_fieldLine hf.colon]
    exact hrest

/-! ### The body -/

lemma readExact_front (l : List UInt8) (s : Seq UInt8) (sizes : Stream' ℕ) : ∃ sizes',
    readExact l.length (.ofSizes (front l s) sizes) = (l, .ofSizes s sizes') := by
  induction hn : l.length using Nat.strong_induction_on generalizing l sizes with
  | _ n ih =>
  subst hn
  rw [readExact]
  by_cases hl : l = []
  · subst hl
    exact ⟨sizes, by simp⟩
  have hpos := List.length_pos_iff.mpr hl
  rw [dif_neg (by omega), Reader.fillBuf_ofSizes]
  dsimp only
  -- the buffer shows a piece from the front of the list, and perhaps more
  have hpiece : ((front l s).take (sizes.head + 1)).take l.length = l.take (sizes.head + 1) := by
    rw [take_take, take_front_of_le (Nat.min_le_left _ _), Nat.min_comm, ← List.take_eq_take_min]
  have hne : (front l s).take (sizes.head + 1) ≠ [] := by
    intro hempty
    rw [hempty, List.take_nil] at hpiece
    exact hl (by simpa using hpiece.symm)
  rw [dif_neg hne, hpiece, Reader.consume_ofSizes, drop_front_of_le (List.length_take_le' _ _)]
  have hdrop : l.drop (l.take (sizes.head + 1)).length = l.drop (sizes.head + 1) := by
    rw [List.length_take, ← List.drop_eq_drop_min]
  have hlen : l.length - (l.take (sizes.head + 1)).length = (l.drop (sizes.head + 1)).length := by
    simp only [List.length_take, List.length_drop]
    omega
  have hless : (l.drop (sizes.head + 1)).length < l.length := by
    rw [List.length_drop]
    omega
  obtain ⟨sizes', hrest⟩ := ih _ hless (l.drop (sizes.head + 1)) sizes.tail rfl
  rw [hdrop, hlen, hrest]
  exact ⟨sizes', by rw [List.take_append_drop]⟩

lemma readBody_front (t : Str) (s : Seq UInt8) (sizes : Stream' ℕ) : ∃ sizes',
    readBody (utf8Len t) (.ofSizes (front (utf8 t) s) sizes) = (t, .ofSizes s sizes') := by
  obtain ⟨sizes', hexact⟩ := readExact_front (utf8 t) s sizes
  refine ⟨sizes', ?_⟩
  rw [← length_utf8, readBody, hexact]
  dsimp only
  rw [Nat.sub_self, List.replicate_zero, List.append_nil, decodeLossy_utf8]

/-! ### Whole messages -/

variable (P) in
/-- The name under which a field is stored. -/
def fieldName (f : Str × Str) : Str := P.toLowercase (trim f.1)

lemma lookup_addFields_of_notMem {fields : List (Str × Str)} {name : Str}
    (h : name ∉ fields.map (fieldName P)) :
    (addFields P headers fields).lookup name = headers.lookup name := by
  induction fields generalizing headers with
  | nil => rfl
  | cons f fields ih =>
    rw [List.map_cons, List.mem_cons, not_or] at h
    rw [addFields_cons, ih h.2]
    exact Finmap.lookup_insert_of_ne _ h.1

/-- With distinct names every field is found. -/
lemma lookup_addFields {fields : List (Str × Str)} (hn : (fields.map (fieldName P)).Nodup)
    (hf : f ∈ fields) : (addFields P headers fields).lookup (fieldName P f) = some (trim f.2) := by
  induction fields generalizing headers with
  | nil => cases hf
  | cons g fields ih =>
    obtain ⟨hnotin, htail⟩ := List.nodup_cons.mp hn
    rw [addFields_cons]
    rcases List.mem_cons.mp hf with rfl | hmem
    · rw [lookup_addFields_of_notMem hnotin]
      exact Finmap.lookup_insert _
    · exact ih htail hmem

lemma trim_natText (n : ℕ) : trim (natText n) = natText n := by
  have hdigits : ∀ c ∈ natText n, isWhitespace c = false := by
    intro c hc
    have hdigit := isDigit_of_mem_natText hc
    simp only [Char.isDigit, Bool.and_eq_true, decide_eq_true_eq, ge_iff_le,
      UInt32.le_iff_toNat_le] at hdigit
    simp only [isWhitespace, Bool.or_eq_false_iff, Bool.and_eq_false_iff, decide_eq_false_iff_not,
      beq_eq_false_iff_ne, Char.toNat]
    change 48 ≤ c.val.toNat ∧ c.val.toNat ≤ 57 at hdigit
    omega
  simpa using @trim_surrounded (natText n) [] [] (by simp) hdigits (by simp)

lemma parseUsize_natText {n : ℕ} (h : n < 2 ^ 64) : parseUsize (natText n) = some n := by
  have hplus : (natText n).head? ≠ some '+' := by
    intro hhead
    exact absurd (isDigit_of_mem_natText (List.mem_of_mem_head? hhead)) (by decide)
  have hall : (natText n).all Char.isDigit = true :=
    List.all_eq_true.mpr fun c hc => isDigit_of_mem_natText hc
  have hvalue : (natText n).foldl (fun n c => 10 * n + (c.toNat - '0'.toNat)) 0 = n := by
    rw [natText_eq_toDigits, ← Nat.ofDigitChars_eq_foldl, Nat.ofDigitChars_ten_toDigits]
  rw [parseUsize, if_neg hplus, hvalue, if_pos ⟨natText_ne_nil n, hall, h⟩]

namespace Message

variable (P) in
/-- No two fields have one name, and one of them is the length of the body. -/
structure Counted (m : Message) : Prop where
  nodup : (m.fields.map (fieldName P)).Nodup
  length : ∃ f ∈ m.fields, fieldName P f = "content-length" ∧ f.2 = natText (utf8Len m.body)

variable {m : Message}

lemma Counted.declaredLen (h : m.Counted P) (hlen : utf8Len m.body < 2 ^ 64) :
    declaredLen (addFields P ∅ m.fields) = utf8Len m.body := by
  obtain ⟨f, hf, hname, hvalue⟩ := h.length
  have hfound : (addFields P ∅ m.fields).lookup (fieldName P f) = some (trim f.2) :=
    lookup_addFields h.nodup hf
  rw [hname, hvalue, trim_natText] at hfound
  rw [Server.declaredLen, hfound, Option.bind_some, parseUsize_natText hlen, Option.getD_some]

/-- **A message is read back**, however its bytes arrive, and the reader then stands at what follows
it. -/
theorem read_back (h : m.Bounded) (hc : m.Counted P) (hlen : utf8Len m.body < 2 ^ 64) {n : ℕ}
    (hn : m.fields.length < n) (s : Seq UInt8) (sizes : Stream' ℕ) : ∃ r₁ r₂ sizes',
      readLineBounded maxHeaderLineBytes (.ofSizes (front (utf8 m.text) s) sizes) =
        (some (m.start ++ "\r\n"), r₁) ∧
      readHeaders P n ∅ r₁ = some (.ok (addFields P ∅ m.fields), r₂) ∧
      readBody (Server.declaredLen (addFields P ∅ m.fields)) r₂ = (m.body, .ofSizes s sizes') := by
  have htext : m.text = ((m.start ++ ['\r']) ++ ['\n']) ++
      ((m.fields.flatMap fieldLine ++ "\r\n") ++ m.body) := by simp [text, head]
  have hcr : utf8Len ['\r'] = 1 := by decide
  have hstart : '\n' ∉ m.start ++ ['\r'] := by
    have := h.start
    simp [this]
  have hbound : utf8Len (m.start ++ ['\r']) + 1 ≤ maxHeaderLineBytes := by
    have := h.length
    rw [utf8Len_append, hcr]
    omega
  have hroom : len (∅ : Headers) + m.fields.length ≤ maxHeaderCount := by
    have := h.count
    have hempty : len (∅ : Headers) = 0 := rfl
    omega
  rw [htext, utf8_append, front_append, utf8_append (m.fields.flatMap fieldLine ++ "\r\n"),
    front_append]
  obtain ⟨sizes₁, hline⟩ := readLineBounded_front hstart hbound
    (front (utf8 (m.fields.flatMap fieldLine ++ "\r\n")) (front (utf8 m.body) s)) sizes
  obtain ⟨sizes₂, hheaders⟩ := readHeaders_fields h.fits hroom hn
    (front (utf8 m.body) s) sizes₁
  obtain ⟨sizes₃, hbody⟩ := readBody_front m.body s sizes₂
  refine ⟨_, _, sizes₃, ?_, hheaders, ?_⟩
  · rw [hline, List.append_assoc]
    rfl
  · rw [hc.declaredLen hlen, hbody]

end Message

/-! ### Receiving a request -/

/-- What a connection has brought. -/
inductive Received
  | dropped
  | malformed (msg : Str)
  | request (method path : Str) (headers : Headers) (body : Str)

variable (P) in
/-- The reading part of `handle`, for at most `n` header lines; `none` is a header loop that is still
running. -/
def receive (n : ℕ) (r : Reader UInt8) : Option Received :=
  match readLineBounded maxHeaderLineBytes r with
  | (none, _) => some .dropped
  | (some req, r) =>
    match words req with
    | method :: path :: _ =>
      match readRequest P n r with
      | none => none
      | some (.error msg, _) => some (.malformed msg)
      | some (.ok (headers, body), _) => some (.request method path headers body)
    | _ => some .dropped

/-- A request to end a session, under a token. -/
def fixedRequest : Message where
  start := "POST /session/end HTTP/1.1"
  fields := [("authorization", "Bearer t"), ("content-length", "2")]
  body := "\x7b\x7d"

lemma fixedRequest_bounded : fixedRequest.Bounded :=
  ⟨by decide +kernel, by decide +kernel,
    List.forall_mem_cons.mpr
      ⟨⟨by decide +kernel, by decide +kernel, by decide +kernel, by decide +kernel⟩,
        List.forall_mem_singleton.mpr
          ⟨by decide +kernel, by decide +kernel, by decide +kernel, by decide +kernel⟩⟩,
    by decide +kernel⟩

lemma fixedRequest_counted : fixedRequest.Counted silentPlatform :=
  ⟨by decide +kernel, ("content-length", "2"), by decide +kernel, by decide +kernel,
    by decide +kernel⟩

lemma fixedRequest_words :
    words (fixedRequest.start ++ "\r\n") = "POST" :: "/session/end" :: ["HTTP/1.1"] := by
  decide +kernel

/-- **A request is received as it was sent**, however its bytes arrive and whatever follows them:
its method, its path, each of its fields and its body. -/
theorem receive_message {m : Message} {method path : Str} {more : List Str} (h : m.Bounded)
    (hc : m.Counted P) (hlen : utf8Len m.body ≤ maxBodyBytes)
    (hwords : words (m.start ++ "\r\n") = method :: path :: more) {n : ℕ}
    (hn : m.fields.length < n) (s : Seq UInt8) (sizes : Stream' ℕ) : ∃ headers,
      receive P n (.ofSizes (front (utf8 m.text) s) sizes) =
        some (.request method path headers m.body) ∧
      ∀ f ∈ m.fields, headers.lookup (P.toLowercase (trim f.1)) = some (trim f.2) := by
  have hless : utf8Len m.body < 2 ^ 64 := lt_of_le_of_lt hlen (by decide)
  obtain ⟨r₁, r₂, sizes', hline, hheaders, hbody⟩ := Message.read_back h hc hless hn s sizes
  refine ⟨addFields P ∅ m.fields, ?_, fun f hf => lookup_addFields hc.nodup hf⟩
  have hdeclared : ¬ maxBodyBytes < declaredLen (addFields P ∅ m.fields) := by
    rw [hc.declaredLen hless]
    omega
  rw [receive, hline]
  dsimp only
  rw [hwords]
  dsimp only
  rw [readRequest, hheaders]
  dsimp only
  rw [if_neg hdeclared, hbody]

theorem receive_message_fixed : ∃ headers,
    receive silentPlatform 5 (.ofSizes (front (utf8 fixedRequest.text) Seq.nil) (Stream'.const 0)) =
      some (.request "POST" "/session/end" headers "\x7b\x7d") ∧
    ∀ f ∈ fixedRequest.fields,
      headers.lookup (silentPlatform.toLowercase (trim f.1)) = some (trim f.2) :=
  receive_message fixedRequest_bounded fixedRequest_counted (by decide +kernel)
    fixedRequest_words (by decide +kernel) Seq.nil (Stream'.const 0)

end GovSec.Server
