import GovSec.JsonEquality
import GovSec.Lib.JsonSound
import GovSec.ServerHandlers
import GovSec.ServerMessages

/-!
Replies as they go out: a status line, the length of the body and the body.

A reply that is a tree is a map when it is written: `serde_json` keeps the members of an object in
the order of their keys, the last of equal keys. What is written is read back to its last byte,
however it arrives, and as a tree it has the members that were given.
-/

namespace GovSec

open GovSec.Lib.Text GovSec.Lib.Maps GovSec.Lib.JsonText GovSec.Lib.KeyedLists GovSec.Lib.Streams
open Stream' (Seq)

namespace SerdeJson

/-! ### Trees as maps -/

mutual

/-- A tree as `serde_json` keeps it: every object in the order of its keys, with the last of equal
keys. -/
def normal : JsonTree → JsonTree
  | .null => .null
  | .bool b => .bool b
  | .number raw => .number raw
  | .string s => .string s
  | .array items => .array (normalItems items)
  | .object members => .object (Value.sortEntries ((normalMembers members).foldl put []))

def normalItems : List JsonTree → List JsonTree
  | [] => []
  | j :: js => normal j :: normalItems js

def normalMembers : List (Str × JsonTree) → List (Str × JsonTree)
  | [] => []
  | (key, j) :: ms => (key, normal j) :: normalMembers ms

end

lemma normalItems_eq (items : List JsonTree) : normalItems items = items.map normal := by
  induction items with
  | nil => rfl
  | cons j js ih => rw [normalItems, ih, List.map_cons]

lemma normalMembers_eq (members : List (Str × JsonTree)) :
    normalMembers members = members.map fun m => (m.1, normal m.2) := by
  induction members with
  | nil => rfl
  | cons m ms ih => rw [normalMembers, ih, List.map_cons]

lemma keys_entries_nodup (members : List (Str × JsonTree)) :
    (keys ((normalMembers members).foldl put [])).Nodup := by
  have hnil : (keys ([] : List (Str × JsonTree))).Nodup := List.nodup_nil
  exact keys_foldl_put_nodup hnil _

/-- The entries of a map are those that a tree finds for their keys. -/
lemma get_entries (members : List (Str × JsonTree)) (key : Str) :
    get (Value.sortEntries ((normalMembers members).foldl put [])) key =
      (JsonTree.get members key).map normal := by
  rw [Value.sortEntries_eq, get_sortByKey (keys_entries_nodup members), get_foldl_put,
    normalMembers_eq, ← List.map_reverse, get_map]
  exact Option.or_none

/-- **A map has the members of its tree.** -/
theorem member_normal (j : JsonTree) (key : Str) :
    member (normal j) key = (member j key).map normal := by
  cases j with
  | object members =>
    have hn : (keys (Value.sortEntries ((normalMembers members).foldl put []))).Nodup := by
      rw [Value.sortEntries_eq]
      exact keys_sortByKey_nodup.mpr (keys_entries_nodup members)
    exact (get_reverse hn key).trans (get_entries members key)
  | _ => rfl

lemma wellFormed_normal {j : JsonTree} (h : WellFormed j) : WellFormed (normal j) := by
  induction h with
  | null => exact .null
  | bool b => exact .bool b
  | number h => exact .number h
  | string s => exact .string s
  | array h ih =>
    rw [normal, normalItems_eq]
    exact .array (List.forall_mem_map.mpr ih)
  | @object members h ih =>
    rw [normal, Value.sortEntries_eq]
    refine .object fun m hm => ?_
    have hput : m ∈ (normalMembers members).foldl put [] := (sortByKey_perm _).mem_iff.mp hm
    have hget := (get_eq_some_iff (keys_entries_nodup members)).mpr hput
    rw [get_foldl_put, show get ([] : List (Str × JsonTree)) m.1 = none from rfl,
      Option.or_none] at hget
    have hmem := List.mem_reverse.mp (mem_of_get hget)
    rw [normalMembers_eq] at hmem
    obtain ⟨m', hm', heq⟩ := List.mem_map.mp hmem
    rw [← congrArg Prod.snd heq]
    exact ih m' hm'

/-! ### What a text can be parsed as -/

mutual

lemma wellFormed_of_genuine : ∀ {j : JsonTree}, (∀ t ∈ j.tokens, t.Genuine) → WellFormed j
  | .null, _ => .null
  | .bool b, _ => .bool b
  | .number raw, h => .number (h (.number raw) (by simp [JsonTree.tokens]))
  | .string s, _ => .string s
  | .array items, h =>
    .array (wellFormed_of_genuine_items true fun t ht => h t (by simp [JsonTree.tokens, ht]))
  | .object members, h =>
    .object (wellFormed_of_genuine_members true fun t ht => h t (by simp [JsonTree.tokens, ht]))

lemma wellFormed_of_genuine_items : ∀ (isFirst : Bool) {items : List JsonTree},
    (∀ t ∈ JsonTree.itemTokens isFirst items, t.Genuine) → ∀ j ∈ items, WellFormed j
  | _, [], _ => by simp
  | _, j :: js, h => by
    have hhead : WellFormed j :=
      wellFormed_of_genuine fun t ht => h t (by simp [JsonTree.itemTokens, ht])
    have htail : ∀ k ∈ js, WellFormed k :=
      wellFormed_of_genuine_items false fun t ht => h t (by simp [JsonTree.itemTokens, ht])
    exact List.forall_mem_cons.mpr ⟨hhead, htail⟩

lemma wellFormed_of_genuine_members : ∀ (isFirst : Bool) {members : List (Str × JsonTree)},
    (∀ t ∈ JsonTree.memberTokens isFirst members, t.Genuine) → ∀ m ∈ members, WellFormed m.2
  | _, [], _ => by simp
  | _, (key, j) :: ms, h => by
    have hhead : WellFormed j :=
      wellFormed_of_genuine fun t ht => h t (by simp [JsonTree.memberTokens, ht])
    have htail : ∀ m ∈ ms, WellFormed m.2 :=
      wellFormed_of_genuine_members false fun t ht => h t (by simp [JsonTree.memberTokens, ht])
    exact List.forall_mem_cons.mpr ⟨hhead, htail⟩

end

/-- What is parsed is well formed. -/
lemma wellFormed_of_parse {t : Str} {j : JsonTree} (h : parse t = some j) : WellFormed j :=
  wellFormed_of_genuine (genuine_tokenize (parse_eq_some_iff.mp h))

/-- A text that begins with a brace is parsed as an object. -/
lemma object_of_parse {t : Str} {j : JsonTree} (h : parse ('\x7b' :: t) = some j) :
    ∃ members, j = .object members := by
  have hreads : tokenize ('\x7b' :: t) = some j.tokens := parse_eq_some_iff.mp h
  have hfirst : j.tokens.head? = some .openObject := by
    unfold tokenize Mode.scan at hreads
    split at hreads
    · cases hreads
    · next hrun =>
      obtain ⟨ts, -, heq⟩ := Option.map_eq_some_iff.mp hreads
      obtain ⟨us, m, vs, hstep, -, rfl⟩ := run_cons_eq_some.mp hrun
      have hbrace : Mode.outside.step '\x7b' = some ([.openObject], .outside) := rfl
      rw [hbrace] at hstep
      cases hstep
      rw [← heq]
      rfl
  cases j with
  | object members => exact ⟨members, rfl⟩
  | _ => cases hfirst

end SerdeJson

namespace Server

/-! ### Replies -/

/-- A reply by the function that formats it. -/
inductive Reply
  | okJson (body : Str)
  | errJson (status : ℕ) (msg : Str)
  | jsonResponse (r : Response)

namespace Reply

def status : Reply → ℕ
  | okJson _ => 200
  | errJson status _ => status
  | jsonResponse r => r.status

/-- A member of a reply that is a tree. -/
def member : Reply → Str → Option JsonTree
  | jsonResponse r, key => SerdeJson.member r.body key
  | _, _ => none

/-- A text in a reply that is a tree. -/
def text (r : Reply) (key : Str) : Option Str := (r.member key).bind SerdeJson.readString

def body : Reply → Str
  | okJson body => body
  | errJson _ msg => "\x7b\"ok\":false,\"error\":\"" ++ singleQuoted msg ++ "\"\x7d"
  | jsonResponse r => SerdeJson.text (SerdeJson.normal r.body)

def start : Reply → Str
  | okJson _ => "HTTP/1.1 200 OK"
  | errJson status _ => "HTTP/1.1 " ++ natText status ++ " Error"
  | jsonResponse r => "HTTP/1.1 " ++ natText r.status ++ " Response"

def fields (r : Reply) : List (Str × Str) :=
  ("Content-Type", "application/json") :: ("Content-Length", natText (utf8Len r.body)) ::
    match r with
    | errJson _ _ => []
    | _ => [("Access-Control-Allow-Origin", "http://localhost:7070"),
        ("X-Content-Type-Options", "nosniff")]

def message (r : Reply) : Message := ⟨r.start, r.fields, r.body⟩

/-! ### Replies are read back -/

variable {r : Reply}

lemma notMem_natText {c : Char} (hc : c.isDigit = false) (n : ℕ) : c ∉ natText n := fun hmem => by
  rw [isDigit_of_mem_natText hmem] at hc
  cases hc

lemma utf8Len_natText_le {n e : ℕ} (he : 0 < e) (hn : n < 10 ^ e) : utf8Len (natText n) ≤ e := by
  have hsize : ∀ k ∈ (natText n).map Char.utf8Size, k = 1 := by
    intro k hk
    obtain ⟨c, hc, rfl⟩ := List.mem_map.mp hk
    have hdigit := isDigit_of_mem_natText hc
    simp only [Char.isDigit, Bool.and_eq_true, decide_eq_true_eq, ge_iff_le,
      UInt32.le_iff_toNat_le] at hdigit
    rw [Char.utf8Size_eq_one_iff, UInt32.le_iff_toNat_le]
    change 48 ≤ c.val.toNat ∧ c.val.toNat ≤ 57 at hdigit
    change c.val.toNat ≤ 127
    omega
  have hlength : (natText n).length ≤ e := by
    rw [natText_eq_toDigits]
    exact Nat.toDigits_length 10 n e he hn
  rw [utf8Len, List.sum_eq_card_nsmul _ 1 hsize, List.length_map, smul_eq_mul, mul_one]
  exact hlength

/-- The status line of a reply: a status between two texts. -/
lemma start_cases (r : Reply) : r.start = "HTTP/1.1 200 OK" ∨
    r.start = "HTTP/1.1 " ++ natText r.status ++ " Error" ∨
    r.start = "HTTP/1.1 " ++ natText r.status ++ " Response" := by
  cases r with
  | okJson body => exact .inl rfl
  | errJson status msg => exact .inr (.inl rfl)
  | jsonResponse r => exact .inr (.inr rfl)

lemma newline_notMem_start (r : Reply) : '\n' ∉ r.start := by
  have hline {s t : Str} (hs : '\n' ∉ s) (ht : '\n' ∉ t) : '\n' ∉ s ++ natText r.status ++ t := by
    have hdigits : '\n' ∉ natText r.status := notMem_natText (by decide) _
    simp [hs, ht, hdigits]
  rcases start_cases r with h | h | h <;> rw [h]
  · decide
  · exact hline (by decide) (by decide)
  · exact hline (by decide) (by decide)

lemma utf8Len_start_le (hstatus : r.status < 2 ^ 16) : utf8Len r.start ≤ 23 := by
  have hdigits : utf8Len (natText r.status) ≤ 5 := utf8Len_natText_le (by omega) (by omega)
  have hhead : utf8Len "HTTP/1.1 " = 9 := by decide
  have herror : utf8Len " Error" = 6 := by decide
  have hresponse : utf8Len " Response" = 9 := by decide
  rcases start_cases r with h | h | h <;> rw [h]
  · decide
  all_goals
    rw [utf8Len_append, utf8Len_append]
    omega

/-- The lines of a reply are within the bounds that the server sets itself. -/
lemma bounded (hstatus : r.status < 2 ^ 16) (hlen : utf8Len r.body < 2 ^ 64) :
    r.message.Bounded := by
  have hbytes : maxHeaderLineBytes = 8192 := rfl
  have hcontent : Fits ("Content-Type", "application/json") :=
    ⟨by decide, by decide, by decide, by decide⟩
  have horigin : Fits ("Access-Control-Allow-Origin", "http://localhost:7070") :=
    ⟨by decide, by decide, by decide, by decide⟩
  have hoptions : Fits ("X-Content-Type-Options", "nosniff") :=
    ⟨by decide, by decide, by decide, by decide⟩
  have hcounted : Fits ("Content-Length", natText (utf8Len r.body)) := by
    have hname : utf8Len "Content-Length" = 14 := by decide
    have hvalue : utf8Len (natText (utf8Len r.body)) ≤ 20 :=
      utf8Len_natText_le (by omega) (by omega)
    have hcolon : ':' ∉ ("Content-Length" : Str) := by decide
    have hnewline : '\n' ∉ ("Content-Length" : Str) := by decide
    refine ⟨hcolon, hnewline, notMem_natText (by decide) _, ?_⟩
    dsimp only
    omega
  refine ⟨newline_notMem_start r, ?_, ?_, ?_⟩
  · have hstart := utf8Len_start_le hstatus
    change utf8Len r.start + 2 ≤ _
    omega
  · change ∀ f ∈ r.fields, Fits f
    cases r <;> simp only [fields, List.mem_cons, List.not_mem_nil, or_false, forall_eq_or_imp,
      forall_eq]
    · exact ⟨hcontent, hcounted, horigin, hoptions⟩
    · exact ⟨hcontent, hcounted⟩
    · exact ⟨hcontent, hcounted, horigin, hoptions⟩
  · change r.fields.length ≤ 100
    cases r <;> simp [fields]

lemma fieldName_of_ascii (P : Platform) {name lower : Str} (v : Str)
    (hname : ((trim name).all fun c => c.toNat < 128) = true)
    (hlower : (trim name).map Char.toLower = lower) : fieldName P (name, v) = lower := by
  refine (P.toLowercase_ascii fun c hc => ?_).trans hlower
  simpa using List.all_eq_true.mp hname c hc

lemma counted (P : Platform) (r : Reply) : r.message.Counted P := by
  have htype (v : Str) : fieldName P ("Content-Type", v) = "content-type" :=
    fieldName_of_ascii P v (by decide) (by decide)
  have hlength (v : Str) : fieldName P ("Content-Length", v) = "content-length" :=
    fieldName_of_ascii P v (by decide) (by decide)
  have horigin (v : Str) : fieldName P ("Access-Control-Allow-Origin", v) =
      "access-control-allow-origin" := fieldName_of_ascii P v (by decide) (by decide)
  have hoptions (v : Str) : fieldName P ("X-Content-Type-Options", v) =
      "x-content-type-options" := fieldName_of_ascii P v (by decide) (by decide)
  refine ⟨?_, ⟨("Content-Length", natText (utf8Len r.body)), ?_, hlength _, rfl⟩⟩
  · change (r.fields.map (fieldName P)).Nodup
    cases r <;> simp only [fields, List.map_cons, List.map_nil, htype, hlength, horigin, hoptions] <;>
      decide
  · change _ ∈ r.fields
    simp [fields]

/-- **A reply is read back** to its last byte, however it arrives: its status line and its body, and
nothing of what follows it. -/
theorem read_back (P : Platform) (hstatus : r.status < 2 ^ 16) (hlen : utf8Len r.body < 2 ^ 64)
    (s : Seq UInt8) (sizes : Stream' ℕ) : ∃ headers r₁ r₂ sizes',
      readLineBounded maxHeaderLineBytes (.ofSizes (front (utf8 r.message.text) s) sizes) =
        (some (r.start ++ "\r\n"), r₁) ∧
      readHeaders P 5 ∅ r₁ = some (.ok headers, r₂) ∧
      readBody (declaredLen headers) r₂ = (r.body, .ofSizes s sizes') := by
  have hfields : r.message.fields.length < 5 := by
    change r.fields.length < 5
    cases r <;> simp [fields]
  obtain ⟨r₁, r₂, sizes', hline, hheaders, hbody⟩ :=
    Message.read_back (bounded hstatus hlen) (counted P r) hlen hfields s sizes
  exact ⟨_, r₁, r₂, sizes', hline, hheaders, hbody⟩

/-- A reply that is a tree is parsed as its map. -/
lemma parse_body {response : Response} (h : SerdeJson.WellFormed response.body) :
    parse (jsonResponse response).body = some (SerdeJson.normal response.body) :=
  SerdeJson.parse_text (SerdeJson.wellFormed_normal h)

end Reply

end Server

end GovSec
