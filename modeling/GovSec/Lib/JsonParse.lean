import GovSec.Lib.JsonText

/-!
A parser of JSON texts: one pass over the tokens, with the arrays and objects that are still open
on a stack.

The tokens of a tree take the parser from any stack to that stack with the tree delivered to it,
so a text that reads as a tree is parsed as that tree.
-/

namespace GovSec.Lib.JsonText

open GovSec.Lib.Text

/-! ### The parser -/

/-- An open array, or an open object with the key whose value comes next. What it holds already
is in reverse. -/
inductive Frame
  | array (rev : List JsonTree)
  | member (rev : List (Str × JsonTree)) (key : Str)

/-- What the parser has read, and with it what may come next. -/
inductive Parser
  | value (stack : List Frame)
  | firstItem (stack : List Frame)
  | items (rev : List JsonTree) (stack : List Frame)
  | firstKey (stack : List Frame)
  | key (rev : List (Str × JsonTree)) (stack : List Frame)
  | colon (rev : List (Str × JsonTree)) (key : Str) (stack : List Frame)
  | members (rev : List (Str × JsonTree)) (stack : List Frame)
  | done (j : JsonTree)

namespace Parser

/-- A complete value goes to the innermost open array or object. -/
def deliver : List Frame → JsonTree → Parser
  | [], j => done j
  | .array rev :: stack, j => items (j :: rev) stack
  | .member rev k :: stack, j => members ((k, j) :: rev) stack

/-- The first token of a value. -/
def start (stack : List Frame) : Token → Option Parser
  | .null => some (deliver stack .null)
  | .bool b => some (deliver stack (.bool b))
  | .number raw => some (deliver stack (.number raw))
  | .string s => some (deliver stack (.string s))
  | .openArray => some (firstItem stack)
  | .openObject => some (firstKey stack)
  | _ => none

def step : Parser → Token → Option Parser
  | value stack, t => start stack t
  | firstItem stack, .closeArray => some (deliver stack (.array []))
  | firstItem stack, t => start (.array [] :: stack) t
  | items rev stack, .comma => some (value (.array rev :: stack))
  | items rev stack, .closeArray => some (deliver stack (.array rev.reverse))
  | firstKey stack, .closeObject => some (deliver stack (.object []))
  | firstKey stack, .string k => some (colon [] k stack)
  | key rev stack, .string k => some (colon rev k stack)
  | colon rev k stack, .colon => some (value (.member rev k :: stack))
  | members rev stack, .comma => some (key rev stack)
  | members rev stack, .closeObject => some (deliver stack (.object rev.reverse))
  | _, _ => none

/-- The parser after some tokens. -/
def after (p : Parser) (ts : List Token) : Option Parser := ts.foldlM step p

@[simp] lemma after_nil (p : Parser) : p.after [] = some p := rfl

@[simp] lemma after_cons (p : Parser) (t : Token) (ts : List Token) :
    p.after (t :: ts) = (p.step t).bind fun q => q.after ts := List.foldlM_cons

lemma after_append (p : Parser) (ts us : List Token) :
    p.after (ts ++ us) = (p.after ts).bind fun q => q.after us := List.foldlM_append

def tree : Parser → Option JsonTree
  | done j => some j
  | _ => none

end Parser

/-- The tree of a text; `none` when the text is not JSON. -/
def parse (t : Str) : Option JsonTree := do
  let ts ← tokenize t
  let p ← (Parser.value []).after ts
  p.tree

/-! ### Every tree is parsed -/

namespace Parser

/-- The first item of an array is read like any value. -/
lemma after_firstItem (stack : List Frame) (j : JsonTree) :
    (firstItem stack).after j.tokens = (value (.array [] :: stack)).after j.tokens := by
  obtain ⟨t, ts, ht, hb⟩ := j.tokens_begins
  have hstep : (firstItem stack).step t = (value (.array [] :: stack)).step t := by
    cases t <;> first | rfl | exact absurd rfl hb.1
  rw [ht, after_cons, after_cons, hstep]

mutual

/-- **The tokens of a tree deliver it.** -/
lemma after_tokens : ∀ (j : JsonTree) (stack : List Frame),
    (value stack).after j.tokens = some (deliver stack j)
  | .null, _ => rfl
  | .bool _, _ => rfl
  | .number _, _ => rfl
  | .string _, _ => rfl
  | .array [], _ => rfl
  | .array (j :: js), stack => by
    have hfirst : (firstItem stack).after j.tokens = some (items [j] stack) := by
      rw [after_firstItem, after_tokens j]
      rfl
    have hrest := after_itemTokens js [j] stack
    simpa [JsonTree.tokens, JsonTree.itemTokens, step, start, after_append, hfirst] using hrest
  | .object [], _ => rfl
  | .object ((k, j) :: ms), stack => by
    have hvalue : (value (.member [] k :: stack)).after j.tokens =
        some (members [(k, j)] stack) := after_tokens j _
    have hrest := after_memberTokens ms [(k, j)] stack
    simpa [JsonTree.tokens, JsonTree.memberTokens, step, start, after_append, hvalue] using hrest

lemma after_itemTokens : ∀ (js rev : List JsonTree) (stack : List Frame),
    (items rev stack).after (JsonTree.itemTokens false js ++ [.closeArray]) =
      some (deliver stack (.array (rev.reverse ++ js)))
  | [], rev, stack => by simp [JsonTree.itemTokens, step]
  | j :: js, rev, stack => by
    have hvalue : (value (.array rev :: stack)).after j.tokens = some (items (j :: rev) stack) :=
      after_tokens j _
    have hrest := after_itemTokens js (j :: rev) stack
    simpa [JsonTree.itemTokens, step, after_append, hvalue] using hrest

lemma after_memberTokens : ∀ (ms rev : List (Str × JsonTree)) (stack : List Frame),
    (members rev stack).after (JsonTree.memberTokens false ms ++ [.closeObject]) =
      some (deliver stack (.object (rev.reverse ++ ms)))
  | [], rev, stack => by simp [JsonTree.memberTokens, step]
  | (k, j) :: ms, rev, stack => by
    have hvalue : (value (.member rev k :: stack)).after j.tokens =
        some (members ((k, j) :: rev) stack) := after_tokens j _
    have hrest := after_memberTokens ms ((k, j) :: rev) stack
    simpa [JsonTree.memberTokens, step, after_append, hvalue] using hrest

end

end Parser

/-- **A text that reads as a tree is parsed as that tree.** -/
theorem Reads.parse_eq {t : Str} {j : JsonTree} (h : Reads t j) : parse t = some j := by
  have hts : tokenize t = some j.tokens := h
  simp [parse, hts, Parser.after_tokens, Parser.deliver, Parser.tree]

end GovSec.Lib.JsonText
