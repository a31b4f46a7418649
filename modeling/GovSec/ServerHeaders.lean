import GovSec.ServerReader

/-!
The headers of a request.

`read_request` compares the number of its headers with a bound before it stores the next one. A line
without a colon and a line that repeats a name are read and do not count.
-/

namespace GovSec.Server

open GovSec.Lib.Text GovSec.Lib.Maps GovSec.Lib.Streams GovSec.Lib.Utf8
open Stream' (Seq)

abbrev Headers := HashMap Str Str

variable (P : Platform)

/-- The name and the value of a trimmed header line. -/
def headerField (t : Str) : Option (Str × Str) :=
  (t.findIdx? (· = ':')).map fun p => (P.toLowercase (trim (t.take p)), trim (t.drop (p + 1)))

def addHeader (headers : Headers) (t : Str) : Headers :=
  match headerField P t with
  | some (name, value) => headers.insert name value
  | none => headers

/-- The header loop, for at most `n` lines; `none` is a loop that is still running. -/
def readHeaders : ℕ → Headers → Reader UInt8 → Option (Except Str Headers × Reader UInt8)
  | 0, _, _ => none
  | n + 1, headers, r =>
    match readLineBounded maxHeaderLineBytes r with
    | (none, r) => some (.error "header line too long", r)
    | (some line, r) =>
      let t := trim line
      if t = [] then some (.ok headers, r)
      else if maxHeaderCount ≤ len headers then some (.error "too many headers", r)
      else readHeaders n (addHeader P headers t) r

/-- `v.parse::<usize>().ok()`. -/
def parseUsize (t : Str) : Option ℕ :=
  let digits := if t.head? = some '+' then t.tail else t
  let n := digits.foldl (fun n c => 10 * n + (c.toNat - '0'.toNat)) 0
  if digits ≠ [] ∧ digits.all Char.isDigit ∧ n < 2 ^ 64 then some n else none

/-- The bytes that `read_exact` gets for a buffer of `n`, before an error or the end. -/
def readExact (n : ℕ) (r : Reader UInt8) : List UInt8 × Reader UInt8 :=
  if _hn : n = 0 then ([], r)
  else
    match r.fillBuf with
    | (none, r) => ([], r)
    | (some available, r) =>
      if _hempty : available = [] then ([], r)
      else
        let piece := available.take n
        let (more, r) := readExact (n - piece.length) (r.consume piece.length)
        (piece ++ more, r)
termination_by n
decreasing_by
  have := List.length_pos_iff.mpr _hempty
  simp only [List.length_take]
  omega

/-- The body; what could not be read stays zero. -/
def readBody (n : ℕ) (r : Reader UInt8) : Str × Reader UInt8 :=
  let (bytes, r) := readExact n r
  (decodeLossy (bytes ++ List.replicate (n - bytes.length) 0), r)

def declaredLen (headers : Headers) : ℕ :=
  ((headers.lookup ("content-length" : Str)).bind parseUsize).getD 0

/-- `read_request`, for at most `n` header lines. -/
def readRequest (n : ℕ) (r : Reader UInt8) :
    Option (Except Str (Headers × Str) × Reader UInt8) :=
  match readHeaders P n ∅ r with
  | none => none
  | some (.error e, r) => some (.error e, r)
  | some (.ok headers, r) =>
    if maxBodyBytes < declaredLen headers then some (.ok (headers, []), r)
    else
      let (body, r) := readBody (declaredLen headers) r
      some (.ok (headers, body), r)

variable {P} {n : ℕ} {s : Seq UInt8} {headers : Headers} {t : Str}

/-! ### The lines of the stream -/

/-- The first `n` lines of the stream, as far as they are within the cap. -/
def headerLines (n : ℕ) (s : Seq UInt8) : List Str :=
  (lines newline maxHeaderLineBytes n s).map decodeLossy

/-- The stream begins with `n` lines within the cap that are not blank. -/
def BeginsWith (n : ℕ) (s : Seq UInt8) : Prop :=
  (headerLines n s).length = n ∧ ∀ line ∈ headerLines n s, trim line ≠ []

lemma headerLines_succ {line : List UInt8}
    (h : firstLine newline maxHeaderLineBytes s = some line) :
    headerLines (n + 1) s = decodeLossy line :: headerLines n (s.drop line.length) := by
  simp only [headerLines, lines, h, List.map_cons]

lemma headerLines_of_none (h : firstLine newline maxHeaderLineBytes s = none) :
    headerLines n s = [] := by
  cases n with
  | zero => rfl
  | succ n => simp only [headerLines, lines, h, List.map_nil]

/-- The first line, and the lines after it. -/
lemma beginsWith_succ : BeginsWith (n + 1) s ↔
    ∃ line, firstLine newline maxHeaderLineBytes s = some line ∧ trim (decodeLossy line) ≠ [] ∧
      BeginsWith n (s.drop line.length) := by
  cases hline : firstLine newline maxHeaderLineBytes s with
  | none => simp [BeginsWith, headerLines_of_none hline]
  | some line =>
    simp only [BeginsWith, headerLines_succ hline, List.length_cons, Nat.add_right_cancel_iff,
      List.forall_mem_cons, Option.some.injEq, exists_eq_left']
    tauto

lemma BeginsWith.of_succ (h : BeginsWith (n + 1) s) : BeginsWith n s := by
  induction n generalizing s with
  | zero => exact ⟨rfl, by simp [headerLines, lines]⟩
  | succ n ih =>
    obtain ⟨line, hline, hblank, hrest⟩ := beginsWith_succ.mp h
    exact beginsWith_succ.mpr ⟨line, hline, hblank, ih hrest⟩

/-! ### The loop on the lines -/

/-- The name under which a line is stored. -/
def headerName (P : Platform) (line : Str) : Option Str := (headerField P (trim line)).map (·.1)

/-- Every line has a name, and no two have the same. -/
def DistinctNames (P : Platform) (ls : List Str) : Prop :=
  (∀ line ∈ ls, (headerName P line).isSome) ∧ (ls.filterMap (headerName P)).Nodup

def addLines (P : Platform) (headers : Headers) (ls : List Str) : Headers :=
  ls.foldl (fun headers line => addHeader P headers (trim line)) headers

lemma keys_addHeader (line : Str) : (addHeader P headers (trim line)).keys =
    (headerName P line).toFinset ∪ headers.keys := by
  unfold addHeader headerName
  cases headerField P (trim line) with
  | none => simp
  | some f => simp [keys_insert]

variable (P headers t) in
lemma len_addHeader_le : len (addHeader P headers t) ≤ len headers + 1 := by
  unfold addHeader
  cases headerField P t with
  | none => exact Nat.le_succ _
  | some f =>
    rw [len_eq_card_keys, keys_insert, len_eq_card_keys]
    exact Finset.card_insert_le _ _

lemma keys_addLines (ls : List Str) :
    (addLines P headers ls).keys = (ls.filterMap (headerName P)).toFinset ∪ headers.keys := by
  induction ls generalizing headers with
  | nil => simp [addLines]
  | cons line ls ih =>
    have hcons : addLines P headers (line :: ls) =
      addLines P (addHeader P headers (trim line)) ls := rfl
    rw [hcons, ih, keys_addHeader]
    cases hname : headerName P line with
    | none => rw [List.filterMap_cons_none hname, Option.toFinset_none, Finset.empty_union]
    | some name =>
      rw [List.filterMap_cons_some hname, List.toFinset_cons, Option.toFinset_some,
        Finset.singleton_union, Finset.union_insert, Finset.insert_union]

/-- As many headers as lines. -/
lemma length_le_len_addLines (ls : List Str) :
    ls.length ≤ len (addLines P ∅ ls) ↔ DistinctNames P ls := by
  have hlen : len (addLines P ∅ ls) = (ls.filterMap (headerName P)).dedup.length := by
    rw [len_eq_card_keys, keys_addLines, Finmap.keys_empty, Finset.union_empty, List.card_toFinset]
  have hdedup := (List.dedup_sublist (ls.filterMap (headerName P))).length_le
  have hfilter := List.length_filterMap_le (headerName P) ls
  rw [hlen, DistinctNames]
  constructor
  · intro h
    refine ⟨List.filterMap_length_eq_length.mp (by omega), List.dedup_eq_self.mp ?_⟩
    exact (List.dedup_sublist _).eq_of_length (by omega)
  · rintro ⟨hsome, hnodup⟩
    rw [List.dedup_eq_self.mpr hnodup, List.filterMap_length_eq_length.mpr hsome]

variable (P n headers) in
/-- The loop on one line. -/
lemma readHeaders_succ (sizes : Stream' ℕ) : ∃ sizes', ∀ line,
    firstLine newline maxHeaderLineBytes s = some line →
      readHeaders P (n + 1) headers (.ofSizes s sizes) =
        let r := Reader.ofSizes (s.drop line.length) sizes'
        if trim (decodeLossy line) = [] then some (.ok headers, r)
        else if maxHeaderCount ≤ len headers then some (.error "too many headers", r)
        else readHeaders P n (addHeader P headers (trim (decodeLossy line))) r := by
  obtain ⟨rest, sizes', heq, hrest⟩ := readLineBounded_endsWith maxHeaderLineBytes s sizes
  refine ⟨sizes', fun line hline => ?_⟩
  obtain rfl := hrest line hline
  rw [readHeaders, heq, hline]
  rfl

lemma readHeaders_of_none (h : firstLine newline maxHeaderLineBytes s = none) (sizes : Stream' ℕ) :
    (readHeaders P (n + 1) headers (.ofSizes s sizes)).isSome := by
  obtain ⟨rest, sizes', heq, -⟩ := readLineBounded_endsWith maxHeaderLineBytes s sizes
  rw [readHeaders, heq, h]
  rfl

variable (P headers) in
/-- A line that is blank or too long stops the loop. -/
lemma readHeaders_isSome (h : ¬ BeginsWith n s) (sizes : Stream' ℕ) :
    (readHeaders P n headers (.ofSizes s sizes)).isSome := by
  induction n generalizing s headers sizes with
  | zero => exact absurd ⟨rfl, by simp [headerLines, lines]⟩ h
  | succ n ih =>
    cases hline : firstLine newline maxHeaderLineBytes s with
    | none => exact readHeaders_of_none hline sizes
    | some line =>
      obtain ⟨sizes', hsucc⟩ := readHeaders_succ P n headers sizes
      rw [hsucc line hline]
      split_ifs with hblank hfull
      · rfl
      · rfl
      · exact ih _ (fun hrest => h (beginsWith_succ.mpr ⟨line, hline, hblank, hrest⟩)) sizes'

variable (P headers) in
/-- As long as there is room for the lines, the last of them is refused exactly when the map is
full before it. -/
lemma readHeaders_of_beginsWith (h : BeginsWith (n + 1) s)
    (hroom : len headers + n ≤ maxHeaderCount) (sizes : Stream' ℕ) :
    (readHeaders P (n + 1) headers (.ofSizes s sizes)).map (·.1) =
      if maxHeaderCount ≤ len (addLines P headers (headerLines n s)) then
        some (.error "too many headers") else none := by
  induction n generalizing s headers sizes with
  | zero =>
    obtain ⟨line, hline, hblank, -⟩ := beginsWith_succ.mp h
    obtain ⟨sizes', hsucc⟩ := readHeaders_succ P 0 headers sizes
    rw [hsucc line hline, if_neg hblank]
    have hlines : addLines P headers (headerLines 0 s) = headers := rfl
    rw [hlines]
    split_ifs <;> rfl
  | succ n ih =>
    obtain ⟨line, hline, hblank, hrest⟩ := beginsWith_succ.mp h
    obtain ⟨sizes', hsucc⟩ := readHeaders_succ P (n + 1) headers sizes
    have hlen := len_addHeader_le P headers (trim (decodeLossy line))
    rw [hsucc line hline, if_neg hblank, if_neg (by omega), ih _ hrest (by omega) sizes',
      headerLines_succ hline]
    rfl

/-! ### When the loop stops in time -/

/-- The loop ends with the line after `MAX_HEADER_COUNT` header lines at the latest, and with the
error if that line is a header line too. -/
def StopsInTime (P : Platform) (r : Reader UInt8) : Prop :=
  ∃ result r', readRequest P (maxHeaderCount + 1) r = some (result, r') ∧
    (BeginsWith (maxHeaderCount + 1) r.rest → result = .error "too many headers")

lemma readRequest_of_error {r r' : Reader UInt8} {e : Str}
    (h : readHeaders P n ∅ r = some (.error e, r')) :
    readRequest P n r = some (.error e, r') := by
  simp only [readRequest, h]

lemma readRequest_eq_none {r : Reader UInt8} :
    readRequest P n r = none ↔ readHeaders P n ∅ r = none := by
  unfold readRequest
  split
  · next h => simp [h]
  · next h => simp [h]
  · next h =>
    split_ifs <;> simp [h]

/-- **When the header loop stops in time.** It does exactly when the first `MAX_HEADER_COUNT` lines
have distinct names, should the stream begin with one header line more. -/
theorem stopsInTime_iff (P : Platform) (s : Seq UInt8) (sizes : Stream' ℕ) :
    StopsInTime P (.ofSizes s sizes) ↔
      (BeginsWith (maxHeaderCount + 1) s → DistinctNames P (headerLines maxHeaderCount s)) := by
  by_cases hbegins : BeginsWith (maxHeaderCount + 1) s
  · have hheaders := readHeaders_of_beginsWith P ∅ hbegins le_rfl sizes
    have hfull := length_le_len_addLines (P := P) (headerLines maxHeaderCount s)
    rw [hbegins.of_succ.1] at hfull
    rw [StopsInTime, Reader.rest_ofSizes]
    constructor
    · rintro ⟨result, r', hresult, -⟩ -
      by_contra hnames
      rw [if_neg (fun h => hnames (hfull.mp h)), Option.map_eq_none_iff] at hheaders
      rw [readRequest_eq_none.mpr hheaders] at hresult
      cases hresult
    · intro hnames
      rw [if_pos (hfull.mpr (hnames hbegins))] at hheaders
      obtain ⟨⟨result, r'⟩, hresult, rfl⟩ := Option.map_eq_some_iff.mp hheaders
      exact ⟨_, r', readRequest_of_error hresult, fun _ => rfl⟩
  · have hsome := readHeaders_isSome P ∅ hbegins sizes
    have hrequest : readRequest P (maxHeaderCount + 1) (.ofSizes s sizes) ≠ none := fun h => by
      rw [readRequest_eq_none.mp h] at hsome
      cases hsome
    obtain ⟨⟨result, r'⟩, hresult⟩ := Option.ne_none_iff_exists'.mp hrequest
    exact ⟨fun _ h => absurd h hbegins, fun _ => ⟨result, r', hresult, fun h => absurd h hbegins⟩⟩

/-! ### A stream that is never refused -/

/-- The line `a`, again and again. -/
def endless : Seq UInt8 := Seq.ofStream fun n => if n % 2 = 0 then 97 else newline

lemma get?_endless (n : ℕ) : endless.get? n = some (if n % 2 = 0 then 97 else newline) := rfl

lemma drop_endless : endless.drop ([97, newline] : List UInt8).length = endless := by
  ext1 n
  rw [List.length_cons, List.length_singleton, Seq.drop_get?, get?_endless, get?_endless,
    Nat.add_mod_left]

lemma firstLine_endless : firstLine newline maxHeaderLineBytes endless = some [97, newline] := by
  have hbefore : ∀ i < 1, endless.get? i ≠ some newline := by
    intro i hi
    obtain rfl : i = 0 := by omega
    decide
  exact firstLine_of_delimiter (j := 1) (get?_endless 1) hbefore

lemma headerField_endless :
    headerField silentPlatform (trim (decodeLossy [97, newline])) = none := by
  decide

lemma beginsWith_endless (n : ℕ) : BeginsWith n endless := by
  induction n with
  | zero => exact ⟨rfl, by simp [headerLines, lines]⟩
  | succ n ih =>
    exact beginsWith_succ.mpr ⟨_, firstLine_endless, by decide, by rwa [drop_endless]⟩

lemma readHeaders_endless (n : ℕ) (sizes : Stream' ℕ) :
    readHeaders silentPlatform n ∅ (.ofSizes endless sizes) = none := by
  induction n generalizing sizes with
  | zero => rfl
  | succ n ih =>
    obtain ⟨sizes', hsucc⟩ := readHeaders_succ silentPlatform n ∅ sizes
    rw [hsucc _ firstLine_endless, if_neg (by decide), if_neg (by decide), addHeader,
      headerField_endless, drop_endless]
    exact ih sizes'

/-- Lines without a colon keep the loop running. -/
theorem readRequest_endless :
    BeginsWith (maxHeaderCount + 1) endless ∧
    (∀ n, readRequest silentPlatform n (.ofSizes endless (Stream'.const 0)) = none) ∧
    ¬ StopsInTime silentPlatform (.ofSizes endless (Stream'.const 0)) := by
  have hnone : ∀ n, readRequest silentPlatform n (.ofSizes endless (Stream'.const 0)) = none :=
    fun n => readRequest_eq_none.mpr (readHeaders_endless n _)
  refine ⟨beginsWith_endless _, hnone, ?_⟩
  rintro ⟨result, r', hresult, -⟩
  rw [hnone] at hresult
  cases hresult

end GovSec.Server
