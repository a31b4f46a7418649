import GovSec.CanonicalJson
import GovSec.Lib.JsonParse
import GovSec.Lib.JsonStrings

/-!
`serde_json` on trees: the text it writes, and how a derived structure is read.

A structure is written as the object of its fields, in their order. It is read from an object, in
which no field occurs twice and unknown members are skipped, or from the array of its fields.
-/

namespace GovSec.SerdeJson

open GovSec.Lib.Text GovSec.Lib.JsonText

/-! ### Writing -/

mutual

/-- `serde_json::to_string`. -/
def text : JsonTree → Str
  | .null => "null"
  | .bool b => if b then "true" else "false"
  | .number raw => raw
  | .string s => Value.quoted s
  | .array items => '[' :: joinWith ',' (itemTexts items) ++ [']']
  | .object members => '\x7b' :: joinWith ',' (memberTexts members) ++ ['\x7d']

def itemTexts : List JsonTree → List Str
  | [] => []
  | j :: js => text j :: itemTexts js

def memberTexts : List (Str × JsonTree) → List Str
  | [] => []
  | (k, j) :: ms => (Value.quoted k ++ ':' :: text j) :: memberTexts ms

end

/-- Every number of the tree is one. -/
inductive WellFormed : JsonTree → Prop
  | null : WellFormed .null
  | bool (b : Bool) : WellFormed (.bool b)
  | number {raw : Str} (h : isNumber raw = true) : WellFormed (.number raw)
  | string (s : Str) : WellFormed (.string s)
  | array {items : List JsonTree} (h : ∀ j ∈ items, WellFormed j) : WellFormed (.array items)
  | object {members : List (Str × JsonTree)} (h : ∀ m ∈ members, WellFormed m.2) :
      WellFormed (.object members)

/-- **What is written reads as the tree.** -/
theorem reads_text {j : JsonTree} (h : WellFormed j) : Reads (text j) j := by
  induction h with
  | null => exact rfl
  | bool b => cases b <;> exact rfl
  | number h => exact reads_number h
  | string s => exact Value.reads_quoted s
  | @array items h ih =>
    have hitems : List.Forall₂ Reads (itemTexts items) items := by
      clear h
      induction items with
      | nil => exact .nil
      | cons j js ihs => exact .cons (ih j (by simp)) (ihs fun k hk => ih k (by simp [hk]))
    exact reads_array hitems
  | @object members h ih =>
    have hmembers : List.Forall₂ (fun t m => Settles t (JsonTree.memberTokenList m))
        (memberTexts members) members := by
      clear h
      induction members with
      | nil => exact .nil
      | cons m ms ihs =>
        have hm : Reads (text m.2) m.2 := ih m (by simp)
        exact .cons (settles_member (Value.run_quoted m.1) hm) (ihs fun k hk => ih k (by simp [hk]))
    exact reads_object hmembers

/-- **What is written is parsed back.** -/
theorem parse_text {j : JsonTree} (h : WellFormed j) : parse (text j) = some j :=
  (reads_text h).parse_eq

/-! ### Values -/

section Values

variable {α : Type} (read : JsonTree → Option α) (write : α → JsonTree)

def readBool : JsonTree → Option Bool
  | .bool b => some b
  | _ => none

def readString : JsonTree → Option Str
  | .string s => some s
  | _ => none

def readVec : JsonTree → Option (List α)
  | .array items => items.mapM read
  | _ => none

def readOption : JsonTree → Option (Option α)
  | .null => some none
  | j => (read j).map some

def writeVec (l : List α) : JsonTree := .array (l.map write)

def writeOption : Option α → JsonTree
  | none => .null
  | some a => write a

@[simp] lemma readBool_bool (b : Bool) : readBool (.bool b) = some b := rfl

@[simp] lemma readString_string (s : Str) : readString (.string s) = some s := rfl

variable {read write}

lemma readVec_writeVec {l : List α} (h : ∀ a ∈ l, read (write a) = some a) :
    readVec read (writeVec write l) = some l := by
  have hmap : (l.map write).mapM read = some l := by
    induction l with
    | nil => rfl
    | cons a l ih =>
      have htail := ih fun b hb => h b (by simp [hb])
      simp [h a (by simp), htail]
  exact hmap

lemma readOption_writeOption {o : Option α} (hnull : ∀ a, write a ≠ .null)
    (h : ∀ a ∈ o, read (write a) = some a) : readOption read (writeOption write o) = some o := by
  cases o with
  | none => rfl
  | some a =>
    have hread : readOption read (write a) = (read (write a)).map some := by
      have ha := hnull a
      generalize write a = j at ha
      cases j <;> first | rfl | exact absurd rfl ha
    simp [writeOption, hread, h a rfl]

lemma wellFormed_writeVec {l : List α} (h : ∀ a ∈ l, WellFormed (write a)) :
    WellFormed (writeVec write l) := by
  refine .array fun j hj => ?_
  obtain ⟨a, ha, rfl⟩ := List.mem_map.mp hj
  exact h a ha

lemma wellFormed_writeOption {o : Option α} (h : ∀ a ∈ o, WellFormed (write a)) :
    WellFormed (writeOption write o) := by
  cases o with
  | none => exact .null
  | some a => exact h a rfl

end Values

/-! ### Members -/

/-- `value.get(key)`. -/
def member (value : JsonTree) (key : Str) : Option JsonTree :=
  match value with
  | .object members => JsonTree.get members key
  | _ => none

/-- `value[key] = j` for an object. -/
def setMember (value : JsonTree) (key : Str) (j : JsonTree) : JsonTree :=
  match value with
  | .object members => .object (members.filter (·.1 ≠ key) ++ [(key, j)])
  | _ => value

variable {value j : JsonTree} {key key' : Str}

lemma member_setMember_self :
    member (setMember value key j) key = some j ∨ member (setMember value key j) key = none := by
  cases value with
  | object members =>
    left
    simp [member, setMember, JsonTree.get]
  | _ => exact .inr rfl

lemma member_setMember_of_ne (h : key ≠ key') :
    member (setMember value key j) key' = member value key' := by
  cases value with
  | object members =>
    have hother : (members.filter (·.1 ≠ key)).reverse.find? (·.1 = key') =
        members.reverse.find? (·.1 = key') := by
      rw [← List.filter_reverse, List.find?_filter]
      congr 1
      funext m
      by_cases hm : m.1 = key'
      · simp [hm, Ne.symm h]
      · simp [hm]
    simp only [member, setMember, JsonTree.get, List.reverse_append, List.reverse_singleton,
      List.singleton_append, List.find?_cons, h, decide_false]
    rw [hother]
  | _ => rfl

/-! ### Structures -/

/-- A structure with its fields. -/
def structTree (names : List Str) (fields : List JsonTree) : JsonTree := .object (names.zip fields)

/-- The fields of a structure, `none` for a missing one. -/
def structFields (names : List Str) : JsonTree → Option (List (Option JsonTree))
  | .object members =>
    if names.all fun name => (members.map Prod.fst).count name ≤ 1 then
      some (names.map (JsonTree.get members))
    else none
  | .array items => if items.length = names.length then some (items.map some) else none
  | _ => none

/-- A field that must be there. -/
def required {α : Type} (read : JsonTree → Option α) (field : Option JsonTree) : Option α :=
  field.bind read

/-- An `Option` field, which may be missing. -/
def optional {α : Type} (read : JsonTree → Option α) : Option JsonTree → Option (Option α)
  | none => some none
  | some j => readOption read j

@[simp] lemma required_some {α : Type} (read : JsonTree → Option α) (j : JsonTree) :
    required read (some j) = read j := rfl

@[simp] lemma optional_some {α : Type} (read : JsonTree → Option α) (j : JsonTree) :
    optional read (some j) = readOption read j := rfl

/-- With distinct keys every key finds its own value. -/
lemma map_get_zip {names : List Str} {fields : List JsonTree} (hn : names.Nodup)
    (hlen : names.length = fields.length) :
    names.map (JsonTree.get (names.zip fields)) = fields.map some := by
  induction names generalizing fields with
  | nil =>
    obtain rfl := List.length_eq_zero_iff.mp hlen.symm
    rfl
  | cons name names ih =>
    cases fields with
    | nil => simp at hlen
    | cons j fields =>
      obtain ⟨hnotin, htail⟩ := List.nodup_cons.mp hn
      have hself : JsonTree.get ((name, j) :: names.zip fields) name = some j := by
        refine JsonTree.get_cons_self fun m hm hname => hnotin ?_
        rw [← hname]
        exact (List.of_mem_zip hm).1
      have hrest : names.map (JsonTree.get ((name, j) :: names.zip fields)) =
          names.map (JsonTree.get (names.zip fields)) := by
        refine List.map_congr_left fun other hother => JsonTree.get_cons_of_ne ?_
        rintro rfl
        exact hnotin hother
      rw [List.zip_cons_cons, List.map_cons, List.map_cons, hself, hrest]
      exact congrArg _ (ih htail (Nat.succ.inj hlen))

lemma structFields_structTree {names : List Str} {fields : List JsonTree} (hn : names.Nodup)
    (hlen : names.length = fields.length) :
    structFields names (structTree names fields) = some (fields.map some) := by
  have hkeys : (names.zip fields).map Prod.fst = names := List.map_fst_zip hlen.le
  have hall : (names.all fun name => decide (((names.zip fields).map Prod.fst).count name ≤ 1)) =
      true := by
    simpa [hkeys] using fun name _ => List.nodup_iff_count_le_one.mp hn name
  rw [structTree, structFields, if_pos hall, map_get_zip hn hlen]

lemma wellFormed_structTree {names : List Str} {fields : List JsonTree}
    (h : ∀ j ∈ fields, WellFormed j) : WellFormed (structTree names fields) :=
  .object fun m hm => h m.2 (List.of_mem_zip hm).2

end GovSec.SerdeJson
