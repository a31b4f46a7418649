import GovSec.Lib.JsonParse

/-!
The parser of JSON texts returns only what it was given.

Every state of the parser spells the tokens that it has consumed, so a text is parsed as a tree
exactly when it reads as the tree. The numbers of the tree are numbers.
-/

namespace GovSec.Lib.JsonText

open GovSec.Lib.Text

/-! ### The numbers of a text -/

/-- If the token is a number, it is one by the grammar. -/
def Token.Genuine : Token → Prop
  | .number raw => isNumber raw = true
  | _ => True

/-- The token of a literal that is being read is genuine. -/
def Mode.Genuine : Mode → Prop
  | literal _ token => token.Genuine
  | _ => True

lemma genuine_outsideStep {c : Char} {ts : List Token} {m : Mode}
    (h : outsideStep c = some (ts, m)) : m.Genuine ∧ ∀ t ∈ ts, t.Genuine := by
  simp only [outsideStep, ite_eq_iff, Option.some.injEq, Prod.mk.injEq] at h
  iterate 12
    rcases h with ⟨-, rfl, rfl⟩ | ⟨-, h⟩
    · simp [Mode.Genuine, Token.Genuine]
  cases h

lemma genuine_hexEnd {rev : Str} {value : ℕ} {high : Option ℕ} {m : Mode}
    (h : hexEnd rev value high = some m) : m.Genuine := by
  cases high <;> unfold hexEnd at h <;> split_ifs at h <;> cases h <;> trivial

lemma genuine_step {m m' : Mode} {c : Char} {ts : List Token} (hm : m.Genuine)
    (h : m.step c = some (ts, m')) : m'.Genuine ∧ ∀ t ∈ ts, t.Genuine := by
  cases m with
  | outside => exact genuine_outsideStep h
  | string rev =>
    simp only [Mode.step] at h
    split_ifs at h <;> cases h <;> simp [Mode.Genuine, Token.Genuine]
  | escape rev =>
    simp only [Mode.step] at h
    split_ifs at h
    · cases h
      simp [Mode.Genuine]
    · obtain ⟨_, -, hd⟩ := Option.map_eq_some_iff.mp h
      cases hd
      simp [Mode.Genuine]
  | hex rev high count value =>
    simp only [Mode.step] at h
    split at h
    · cases h
    · split_ifs at h
      · cases h
        simp [Mode.Genuine]
      · obtain ⟨m₁, hend, hd⟩ := Option.map_eq_some_iff.mp h
        cases hd
        exact ⟨genuine_hexEnd hend, by simp⟩
  | afterHigh rev high | afterHighEscape rev high =>
    simp only [Mode.step] at h
    split_ifs at h
    cases h
    simp [Mode.Genuine]
  | number rev =>
    simp only [Mode.step] at h
    split_ifs at h with _ hnumber
    · cases h
      simp [Mode.Genuine]
    · obtain ⟨⟨us, m₁⟩, hout, hd⟩ := Option.map_eq_some_iff.mp h
      cases hd
      obtain ⟨hm₁, hus⟩ := genuine_outsideStep hout
      exact ⟨hm₁, List.forall_mem_cons.mpr ⟨hnumber, hus⟩⟩
  | literal rest token =>
    cases rest with
    | nil => cases h
    | cons x rest =>
      simp only [Mode.step] at h
      split_ifs at h <;> cases h
      · exact ⟨trivial, List.forall_mem_singleton.mpr hm⟩
      · exact ⟨hm, by simp⟩

lemma genuine_run {m m' : Mode} {t : Str} {ts : List Token} (hm : m.Genuine)
    (h : run m t = some (ts, m')) : ∀ t ∈ ts, t.Genuine := by
  induction t generalizing m ts with
  | nil =>
    obtain ⟨rfl, rfl⟩ : ts = [] ∧ m = m' := by simpa [run, eq_comm] using h
    simp
  | cons c t ih =>
    obtain ⟨us, m₁, vs, hstep, hrest, rfl⟩ := run_cons_eq_some.mp h
    obtain ⟨hm₁, hus⟩ := genuine_step hm hstep
    exact List.forall_mem_append.mpr ⟨hus, ih hm₁ hrest⟩

/-- **The numbers of a text are numbers.** -/
theorem genuine_tokenize {t : Str} {ts : List Token} (h : tokenize t = some ts) :
    ∀ t ∈ ts, t.Genuine := by
  unfold tokenize Mode.scan at h
  split at h
  · cases h
  · next us m hrun =>
    obtain ⟨vs, hfinish, rfl⟩ := Option.map_eq_some_iff.mp h
    refine List.forall_mem_append.mpr ⟨genuine_run (m := .outside) trivial hrun, ?_⟩
    unfold Mode.finish at hfinish
    split at hfinish
    · cases hfinish
      simp
    · split_ifs at hfinish with hnumber
      cases hfinish
      simpa [Token.Genuine] using hnumber
    · cases hfinish

/-! ### What a state has consumed -/

namespace Parser

/-- A comma after items that are there. -/
def separator {α : Type} : List α → List Token
  | [] => []
  | _ => [.comma]

/-- The tokens that opened the frames of a stack. -/
def opened : List Frame → List Token
  | [] => []
  | .array rev :: stack =>
    opened stack ++ .openArray :: JsonTree.itemTokens true rev.reverse ++ separator rev
  | .member rev k :: stack =>
    opened stack ++ .openObject :: JsonTree.memberTokens true rev.reverse ++ separator rev ++
      [.string k, .colon]

/-- The tokens that lead to a state. -/
def consumed : Parser → List Token
  | value stack => opened stack
  | firstItem stack => opened stack ++ [.openArray]
  | items rev stack => opened stack ++ .openArray :: JsonTree.itemTokens true rev.reverse
  | firstKey stack => opened stack ++ [.openObject]
  | key rev stack =>
    opened stack ++ .openObject :: JsonTree.memberTokens true rev.reverse ++ [.comma]
  | colon rev k stack =>
    opened stack ++ .openObject :: JsonTree.memberTokens true rev.reverse ++ separator rev ++
      [.string k]
  | members rev stack => opened stack ++ .openObject :: JsonTree.memberTokens true rev.reverse
  | done j => j.tokens

/-- After a comma, and where one may come, there are items. -/
def Filled : Parser → Prop
  | items rev _ => rev ≠ []
  | key rev _ => rev ≠ []
  | members rev _ => rev ≠ []
  | _ => True

lemma itemTokens_append_single (isFirst : Bool) (js : List JsonTree) (j : JsonTree) :
    JsonTree.itemTokens isFirst (js ++ [j]) = JsonTree.itemTokens isFirst js ++
      (if isFirst = true ∧ js = [] then [] else [.comma]) ++ j.tokens := by
  induction js generalizing isFirst with
  | nil => cases isFirst <;> simp [JsonTree.itemTokens]
  | cons k js ih => simp [JsonTree.itemTokens, ih]

lemma memberTokens_append_single (isFirst : Bool) (ms : List (Str × JsonTree)) (k : Str)
    (j : JsonTree) :
    JsonTree.memberTokens isFirst (ms ++ [(k, j)]) = JsonTree.memberTokens isFirst ms ++
      (if isFirst = true ∧ ms = [] then [] else [.comma]) ++ .string k :: .colon :: j.tokens := by
  induction ms generalizing isFirst with
  | nil => cases isFirst <;> simp [JsonTree.memberTokens]
  | cons m ms ih => simp [JsonTree.memberTokens, ih]

lemma separator_eq {α : Type} (rev : List α) :
    separator rev = if rev = [] then [] else [.comma] := by
  cases rev <;> rfl

/-- A delivered value adds its tokens. -/
lemma consumed_deliver (stack : List Frame) (j : JsonTree) :
    (deliver stack j).consumed = opened stack ++ j.tokens ∧ (deliver stack j).Filled := by
  cases stack with
  | nil => exact ⟨rfl, trivial⟩
  | cons frame stack =>
    cases frame with
    | array rev =>
      refine ⟨?_, List.cons_ne_nil _ _⟩
      simp [deliver, consumed, opened, itemTokens_append_single, separator_eq]
    | member rev k =>
      refine ⟨?_, List.cons_ne_nil _ _⟩
      simp [deliver, consumed, opened, memberTokens_append_single, separator_eq]

lemma consumed_start {stack : List Frame} {t : Token} {q : Parser} (h : start stack t = some q) :
    q.consumed = opened stack ++ [t] ∧ q.Filled := by
  cases t <;> simp only [start, Option.some.injEq, reduceCtorEq] at h <;> subst h
  · exact ⟨rfl, trivial⟩
  · exact ⟨rfl, trivial⟩
  all_goals exact consumed_deliver stack _

/-- **The step lemma**: a token that is accepted is consumed. -/
theorem consumed_step {p q : Parser} {t : Token} (hp : p.Filled) (h : p.step t = some q) :
    q.consumed = p.consumed ++ [t] ∧ q.Filled := by
  unfold step at h
  split at h
  · exact consumed_start h
  · cases h
    obtain ⟨hd, hf⟩ := consumed_deliver _ (.array [])
    refine ⟨hd.trans ?_, hf⟩
    simp [consumed, JsonTree.tokens, JsonTree.itemTokens]
  · obtain ⟨hs, hf⟩ := consumed_start h
    refine ⟨hs.trans ?_, hf⟩
    simp [consumed, opened, JsonTree.itemTokens, separator]
  · cases h
    refine ⟨?_, trivial⟩
    simp [consumed, opened, separator_eq, if_neg (show _ ≠ [] from hp)]
  · cases h
    obtain ⟨hd, hf⟩ := consumed_deliver _ (.array _)
    refine ⟨hd.trans ?_, hf⟩
    simp [consumed, JsonTree.tokens]
  · cases h
    obtain ⟨hd, hf⟩ := consumed_deliver _ (.object [])
    refine ⟨hd.trans ?_, hf⟩
    simp [consumed, JsonTree.tokens, JsonTree.memberTokens]
  · cases h
    refine ⟨?_, trivial⟩
    simp [consumed, JsonTree.memberTokens, separator]
  · cases h
    refine ⟨?_, trivial⟩
    simp [consumed, separator_eq, if_neg (show _ ≠ [] from hp)]
  · cases h
    refine ⟨?_, trivial⟩
    simp [consumed, opened]
  · cases h
    exact ⟨by simp [consumed], hp⟩
  · cases h
    obtain ⟨hd, hf⟩ := consumed_deliver _ (.object _)
    refine ⟨hd.trans ?_, hf⟩
    simp [consumed, JsonTree.tokens]
  · cases h

lemma consumed_after {p q : Parser} {ts : List Token} (hp : p.Filled) (h : p.after ts = some q) :
    q.consumed = p.consumed ++ ts := by
  induction ts generalizing p with
  | nil =>
    obtain rfl := Option.some.inj h
    simp
  | cons t ts ih =>
    rw [after_cons] at h
    obtain ⟨r, hstep, hrest⟩ := Option.bind_eq_some_iff.mp h
    obtain ⟨hr, hfilled⟩ := consumed_step hp hstep
    rw [ih hfilled hrest, hr, List.append_assoc, List.singleton_append]

end Parser

/-- **The parser is exact**: a text is parsed as a tree exactly when it reads as the tree. -/
theorem parse_eq_some_iff {t : Str} {j : JsonTree} : parse t = some j ↔ Reads t j := by
  refine ⟨fun h => ?_, Reads.parse_eq⟩
  obtain ⟨ts, hts, h⟩ := Option.bind_eq_some_iff.mp h
  obtain ⟨p, hp, h⟩ := Option.bind_eq_some_iff.mp h
  have hconsumed := Parser.consumed_after (p := .value []) trivial hp
  cases p with
  | done k =>
    obtain rfl := Option.some.inj h
    rw [Reads, hts]
    exact congrArg some hconsumed.symm
  | _ => cases h

end GovSec.Lib.JsonText
