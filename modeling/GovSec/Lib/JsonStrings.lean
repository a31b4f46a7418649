import GovSec.Lib.JsonText

/-!
What a text does that is put between two quotes unescaped.

A string that the scan finds in such a text is shorter than the text, unless the text is plain:
without quotes, backslashes and control characters. So a text stands for itself between quotes
exactly when it is plain.
-/

namespace GovSec.Lib.JsonText

open GovSec.Lib.Text

/-- A character that stands for itself in a string. -/
def IsPlainChar (c : Char) : Prop := c ≠ '"' ∧ c ≠ '\\' ∧ 32 ≤ c.toNat

instance (c : Char) : Decidable (IsPlainChar c) := inferInstanceAs (Decidable (_ ∧ _ ∧ _))

/-- A text that stands for itself between quotes. -/
def IsPlain (t : Str) : Prop := ∀ c ∈ t, IsPlainChar c

instance (t : Str) : Decidable (IsPlain t) :=
  decidable_of_iff (t.all fun c => decide (IsPlainChar c)) (by simp [IsPlain])

/-- Between quotes, `t` is the string `s`. -/
def IsBody (t s : Str) : Prop := run (.string []) t = some ([], .string s.reverse)

lemma step_string_of_isPlainChar {c : Char} (h : IsPlainChar c) (rev : Str) :
    (Mode.string rev).step c = some ([], .string (c :: rev)) := by
  obtain ⟨hquote, hback, hctl⟩ := h
  have hctl' : ¬c.toNat < 32 := by omega
  simp [Mode.step, hquote, hback, hctl']

/-- A plain text is collected as it is. -/
lemma isBody_of_isPlain {t : Str} (h : IsPlain t) : IsBody t t := by
  have hrun : ∀ (t rev : Str), IsPlain t →
      run (.string rev) t = some ([], .string (t.reverse ++ rev)) := by
    intro t
    induction t with
    | nil => intro rev _; rfl
    | cons c t ih =>
      intro rev ht
      have hc : IsPlainChar c := ht c (by simp)
      have hrest : IsPlain t := fun d hd => ht d (by simp [hd])
      rw [run_cons_of_step (step_string_of_isPlainChar hc rev), ih (c :: rev) hrest]
      simp
  have h' := hrun t [] h
  rwa [List.append_nil] at h'

/-! ### Modes of a scan -/

/-- A mode that the scan of a text can reach: a literal has no quote, and is no string. -/
def Mode.Proper : Mode → Prop
  | literal rest token => '"' ∉ rest ∧ ∀ s, token ≠ .string s
  | _ => True

/-- Between two quotes. -/
def Mode.Inside : Mode → Prop
  | string _ => True
  | escape _ => True
  | hex _ _ _ _ => True
  | afterHigh _ _ => True
  | afterHighEscape _ _ => True
  | _ => False

/-- The characters collected of the string being read. -/
def Mode.width : Mode → ℕ
  | string rev => rev.length
  | escape rev => rev.length
  | hex rev _ _ _ => rev.length
  | afterHigh rev _ => rev.length
  | afterHighEscape rev _ => rev.length
  | _ => 0

lemma outsideStep_cases {c : Char} {ts : List Token} {m : Mode}
    (h : outsideStep c = some (ts, m)) : m.Proper ∧ m.width = 0 ∧ ∀ s, Token.string s ∉ ts := by
  simp only [outsideStep, ite_eq_iff, Option.some.injEq, Prod.mk.injEq] at h
  iterate 12
    rcases h with ⟨-, rfl, rfl⟩ | ⟨-, h⟩
    · simp [Mode.Proper, Mode.width]
  cases h

lemma hexEnd_cases {rev : Str} {value : ℕ} {high : Option ℕ} {m : Mode}
    (h : hexEnd rev value high = some m) : m.Inside ∧ m.Proper ∧ m.width ≤ rev.length + 1 := by
  cases high <;> unfold hexEnd at h <;> split_ifs at h <;> cases h <;>
    simp [Mode.Inside, Mode.Proper, Mode.width]

/-- **What one character can do**: it collects at most one character, and a string it ends is one
that was collected. -/
lemma step_cases {m m' : Mode} {c : Char} {ts : List Token} (hm : m.Proper)
    (h : m.step c = some (ts, m')) :
    m'.Proper ∧ m'.width ≤ m.width + 1 ∧ (∀ s, .string s ∈ ts → s.length ≤ m.width) ∧
      (m.Inside → c ≠ '"' → ts = [] ∧ m'.Inside) := by
  cases m with
  | outside =>
    obtain ⟨hp, hw, hs⟩ := outsideStep_cases h
    exact ⟨hp, by omega, fun s hmem => absurd hmem (hs s), fun hin => hin.elim⟩
  | string rev =>
    simp only [Mode.step] at h
    split_ifs at h <;> cases h <;> simp_all [Mode.Proper, Mode.width, Mode.Inside]
  | escape rev =>
    simp only [Mode.step] at h
    split_ifs at h
    · cases h
      simp [Mode.Proper, Mode.width, Mode.Inside]
    · obtain ⟨d, -, hd⟩ := Option.map_eq_some_iff.mp h
      cases hd
      simp [Mode.Proper, Mode.width, Mode.Inside]
  | hex rev high count value =>
    simp only [Mode.step] at h
    split at h
    · cases h
    · split_ifs at h
      · cases h
        simp [Mode.Proper, Mode.width, Mode.Inside]
      · obtain ⟨m₁, hend, hd⟩ := Option.map_eq_some_iff.mp h
        cases hd
        obtain ⟨hin, hp, hw⟩ := hexEnd_cases hend
        exact ⟨hp, hw, by simp, fun _ _ => ⟨rfl, hin⟩⟩
  | afterHigh rev high =>
    simp only [Mode.step] at h
    split_ifs at h
    cases h
    simp [Mode.Proper, Mode.width, Mode.Inside]
  | afterHighEscape rev high =>
    simp only [Mode.step] at h
    split_ifs at h
    cases h
    simp [Mode.Proper, Mode.width, Mode.Inside]
  | number rev =>
    simp only [Mode.step] at h
    split_ifs at h
    · cases h
      simp [Mode.Proper, Mode.width, Mode.Inside]
    · obtain ⟨⟨us, m₁⟩, hout, hd⟩ := Option.map_eq_some_iff.mp h
      cases hd
      obtain ⟨hp, hw, hs⟩ := outsideStep_cases hout
      refine ⟨hp, ?_, by simpa using fun s hmem => absurd hmem (hs s), fun hin => hin.elim⟩
      change m₁.width ≤ _
      omega
  | literal rest token =>
    cases rest with
    | nil => cases h
    | cons x rest =>
      simp only [Mode.step] at h
      obtain ⟨hquote, hstring⟩ := hm
      split_ifs at h <;> cases h
      · exact ⟨trivial, by simp [Mode.width], by simpa using fun s hs => absurd hs.symm (hstring s),
          fun hin => hin.elim⟩
      · refine ⟨⟨?_, hstring⟩, by simp [Mode.width], by simp, fun hin => hin.elim⟩
        exact fun hmem => hquote (List.mem_cons_of_mem x hmem)

/-- **What a text can do**, by induction over its characters. -/
lemma run_cases {m m' : Mode} {t : Str} {ts : List Token} (hm : m.Proper)
    (h : run m t = some (ts, m')) :
    m'.Proper ∧ m'.width ≤ m.width + t.length ∧
      (∀ s, .string s ∈ ts → s.length < m.width + t.length) ∧
      (m.Inside → '"' ∉ t → ts = [] ∧ m'.Inside) := by
  induction t generalizing m ts with
  | nil =>
    obtain ⟨rfl, rfl⟩ : ts = [] ∧ m = m' := by simpa [run, eq_comm] using h
    exact ⟨hm, by simp, by simp, fun hin _ => ⟨rfl, hin⟩⟩
  | cons c t ih =>
    obtain ⟨us, m₁, vs, hstep, hrest, rfl⟩ := run_cons_eq_some.mp h
    obtain ⟨hp, hw, hs, hin⟩ := step_cases hm hstep
    obtain ⟨hp', hw', hs', hin'⟩ := ih hp hrest
    rw [List.length_cons]
    refine ⟨hp', by omega, fun s hmem => ?_, fun hm' hquote => ?_⟩
    · rcases List.mem_append.mp hmem with hmem | hmem
      · have := hs s hmem
        omega
      · have := hs' s hmem
        omega
    · rw [List.mem_cons, not_or] at hquote
      obtain ⟨rfl, hm₁⟩ := hin hm' (Ne.symm hquote.1)
      obtain ⟨rfl, hm₂⟩ := hin' hm₁ hquote.2
      exact ⟨rfl, hm₂⟩

/-- A text that is collected in full is plain. -/
lemma isPlain_of_width {rev rev' t : Str} {ts : List Token}
    (h : run (.string rev) t = some (ts, .string rev'))
    (hlen : rev'.length = rev.length + t.length) : IsPlain t := by
  induction t generalizing rev ts with
  | nil => exact fun c hc => absurd hc (by simp)
  | cons c t ih =>
    rw [List.length_cons] at hlen
    obtain ⟨us, m₁, vs, hstep, hrest, -⟩ := run_cons_eq_some.mp h
    obtain ⟨hp, -⟩ := step_cases (m := .string rev) trivial hstep
    have hw : rev'.length ≤ m₁.width + t.length := (run_cases hp hrest).2.1
    have hc : IsPlainChar c := by
      by_contra hc
      -- a character that is not plain is not collected
      have hm₁ : m₁.width ≤ rev.length := by
        simp only [Mode.step] at hstep
        split_ifs at hstep with h₁ h₂ h₃ <;> cases hstep
        · simp [Mode.width]
        · simp [Mode.width]
        · exact absurd ⟨h₁, h₂, not_lt.mp h₃⟩ hc
      omega
    rw [step_string_of_isPlainChar hc] at hstep
    obtain ⟨-, rfl⟩ := Prod.mk.inj (Option.some.inj hstep)
    intro d hd
    rcases List.mem_cons.mp hd with rfl | hd
    · exact hc
    · exact ih hrest (by rw [hlen, List.length_cons]; omega) d hd

/-! ### The closing quote -/

/-- After these texts the quote before them was a closing one. -/
def Closes (u : Str) : Prop := ∀ rev, (Mode.string rev).scan u = none

/-- A quote that closes ends a string. -/
lemma string_of_scan {m : Mode} {u : Str} {ts : List Token} (hu : Closes u) (hm : m.Proper)
    (h : m.scan ('"' :: u) = some ts) : ∃ rev, m = .string rev := by
  have hopen : outsideStep '"' = some ([], .string []) := rfl
  have hdead : ∀ rev, (Mode.string rev).scan u = none := hu
  rw [scan_cons] at h
  cases m with
  | outside => simp [Mode.step, hopen, hdead] at h
  | string rev => exact ⟨rev, rfl⟩
  | escape rev =>
    have hescape : simpleEscape '"' = some '"' := rfl
    simp [Mode.step, hescape, hdead] at h
  | hex rev high count value =>
    have hcode : hexCode '"' = none := rfl
    simp [Mode.step, hcode] at h
  | afterHigh rev high => simp [Mode.step] at h
  | afterHighEscape rev high => simp [Mode.step] at h
  | number rev =>
    have hchar : isNumberChar '"' = false := rfl
    by_cases hnum : isNumber rev.reverse = true
    · simp [Mode.step, hchar, hnum, hopen, hdead] at h
    · simp [Mode.step, hchar, hnum] at h
  | literal rest token =>
    cases rest with
    | nil => simp [Mode.step] at h
    | cons x rest =>
      have hx : '"' ≠ x := fun hx => hm.1 (List.mem_cons.mpr (.inl hx))
      simp [Mode.step, hx] at h

/-- **A text between quotes ends in a string**, whose tokens come before those of the rest. -/
lemma scan_between {t u : Str} {ts : List Token} (hu : Closes u)
    (h : (Mode.string []).scan (t ++ '"' :: u) = some ts) :
    ∃ us rev vs, run (.string []) t = some (us, .string rev) ∧ Mode.outside.scan u = some vs ∧
      ts = us ++ .string rev.reverse :: vs := by
  obtain ⟨us, m, vs, hrun, hscan, rfl⟩ := scan_append_eq_some h
  obtain ⟨rev, rfl⟩ := string_of_scan hu (run_cases (m := .string []) trivial hrun).1 hscan
  have hclose : (Mode.string rev).step '"' = some ([.string rev.reverse], .outside) := rfl
  rw [scan_cons, hclose, Option.bind_some] at hscan
  obtain ⟨ws, hws, rfl⟩ := Option.map_eq_some_iff.mp hscan
  exact ⟨us, rev, ws, hrun, hws, by simp⟩

/-- A body is followed by its string. -/
lemma IsBody.scan {t s : Str} (h : IsBody t s) (u : Str) :
    (Mode.string []).scan (t ++ '"' :: u) = (Mode.outside.scan u).map (.string s :: ·) := by
  have hclose : (Mode.string s.reverse).step '"' = some ([.string s], .outside) := by
    simp [Mode.step]
  rw [scan_append h, scan_cons, hclose]
  cases hscan : Mode.outside.scan u <;> simp [hscan]

/-- A text without a quote is a body when a closing quote follows it. -/
lemma exists_isBody_of_scan {t u : Str} {ts : List Token} (hquote : '"' ∉ t) (hu : Closes u)
    (h : (Mode.string []).scan (t ++ '"' :: u) = some ts) : ∃ s, IsBody t s := by
  obtain ⟨us, rev, vs, hrun, -⟩ := scan_between hu h
  obtain ⟨rfl, -⟩ := (run_cases (m := .string []) trivial hrun).2.2.2 trivial hquote
  refine ⟨rev.reverse, ?_⟩
  rw [IsBody, List.reverse_reverse]
  exact hrun

/-! ### What follows a key -/

/-- What the scan of a token list has seen last: a key of interest, that key and a colon, or
neither. -/
inductive Seen
  | other
  | key
  | colon

def Seen.next (key : Str) : Seen → Token → Seen
  | _, .string s => if s = key then .key else .other
  | .key, .colon => .colon
  | _, _ => .other

def Seen.after (key : Str) (seen : Seen) (ts : List Token) : Seen := ts.foldl (Seen.next key) seen

/-- The tokens that come directly after a key and a colon. -/
def followers (key : Str) : Seen → List Token → List Token
  | _, [] => []
  | .colon, t :: ts => t :: followers key (Seen.next key .colon t) ts
  | .key, t :: ts => followers key (Seen.next key .key t) ts
  | .other, t :: ts => followers key (Seen.next key .other t) ts

lemma followers_append (key : Str) (seen : Seen) (ts us : List Token) :
    followers key seen (ts ++ us) =
      followers key seen ts ++ followers key (seen.after key ts) us := by
  induction ts generalizing seen with
  | nil => cases seen <;> simp [followers, Seen.after]
  | cons t ts ih => cases seen <;> simp [followers, ih, Seen.after]

lemma mem_of_mem_followers {key : Str} {seen : Seen} {ts : List Token} {t : Token}
    (h : t ∈ followers key seen ts) : t ∈ ts := by
  induction ts generalizing seen with
  | nil => simp [followers] at h
  | cons u ts ih =>
    cases seen with
    | colon =>
      rcases List.mem_cons.mp h with rfl | h
      · simp
      · exact List.mem_cons_of_mem u (ih h)
    | key => exact List.mem_cons_of_mem u (ih h)
    | other => exact List.mem_cons_of_mem u (ih h)

/-- The token after a key and a colon is a follower. -/
lemma mem_followers (key : Str) (seen : Seen) (pre post : List Token) (t : Token) :
    t ∈ followers key seen (pre ++ .string key :: .colon :: t :: post) := by
  rw [followers_append]
  refine List.mem_append.mpr (.inr ?_)
  cases seen.after key pre <;> simp [followers, Seen.next]

/-- After a string the scan has not seen a key and a colon. -/
lemma Seen.after_string_ne_colon (key s : Str) (seen : Seen) (ts : List Token) :
    seen.after key (ts ++ [.string s]) ≠ .colon := by
  rw [Seen.after, List.foldl_append]
  simp only [List.foldl_cons, List.foldl_nil, Seen.next]
  split <;> simp

namespace JsonTree

lemma get_cons_self {key : Str} {j : JsonTree} {ms : List (Str × JsonTree)}
    (h : ∀ m ∈ ms, m.1 ≠ key) : get ((key, j) :: ms) key = some j := by
  have hnone : ms.reverse.find? (·.1 = key) = none := by simpa using h
  rw [get, List.reverse_cons, List.find?_append, hnone]
  simp

lemma get_cons_of_ne {key : Str} {m : Str × JsonTree} {ms : List (Str × JsonTree)}
    (h : m.1 ≠ key) : get (m :: ms) key = get ms key := by
  rw [get, List.reverse_cons, List.find?_append]
  simp [get, h]

/-- Members of other keys with scalar values have nothing that follows the key. -/
lemma followers_memberTokens {key : Str} {ms : List (Str × JsonTree)}
    (h : ∀ m ∈ ms, m.1 ≠ key ∧ ∃ t, m.2.tokens = [t]) {seen : Seen} (hseen : seen ≠ .colon) :
    followers key seen (memberTokens false ms ++ [.closeObject]) = [] := by
  induction ms generalizing seen with
  | nil => cases seen <;> simp_all [memberTokens, followers]
  | cons m ms ih =>
    obtain ⟨k, j⟩ := m
    obtain ⟨hkey, t, ht⟩ := h (k, j) (by simp)
    have hnext : Seen.next key .other t ≠ .colon := by
      cases t <;> simp [Seen.next]
      split <;> simp
    have hrest := ih (fun m hm => h m (List.mem_cons_of_mem _ hm)) hnext
    cases seen <;> simp_all [memberTokens, followers, Seen.next]

lemma exists_of_mem_memberTokens {key : Str} {j : JsonTree} {ms : List (Str × JsonTree)}
    (h : (key, j) ∈ ms) (isFirst : Bool) : ∃ pre post,
      memberTokens isFirst ms = pre ++ .string key :: .colon :: (j.tokens ++ post) := by
  induction ms generalizing isFirst with
  | nil => simp at h
  | cons m ms ih =>
    obtain ⟨k, v⟩ := m
    rw [memberTokens]
    rcases List.mem_cons.mp h with h | h
    · obtain ⟨rfl, rfl⟩ := Prod.mk.inj h
      exact ⟨if isFirst then [] else [.comma], memberTokens false ms, by simp⟩
    · obtain ⟨pre, post, hrest⟩ := ih h false
      exact ⟨(if isFirst then [] else [.comma]) ++ .string k :: .colon :: v.tokens ++ pre, post, by
        simp [hrest]⟩

/-- **The value of a key follows it** in the tokens of the object. -/
lemma mem_followers_of_get {members : List (Str × JsonTree)} {key s : Str}
    (h : get members key = some (.string s)) (seen : Seen) :
    .string s ∈ followers key seen (object members).tokens := by
  obtain ⟨m, hm, hvalue⟩ := Option.map_eq_some_iff.mp h
  have hkey : m.1 = key := by simpa using List.find?_some hm
  have hmem : (key, JsonTree.string s) ∈ members := by
    rw [← hkey, ← hvalue]
    exact List.mem_reverse.mp (List.mem_of_find?_eq_some hm)
  obtain ⟨pre, post, hmembers⟩ := exists_of_mem_memberTokens hmem true
  have htokens : (object members).tokens =
      (.openObject :: pre) ++ .string key :: .colon :: .string s :: (post ++ [.closeObject]) := by
    simp [tokens, hmembers]
  rw [htokens]
  exact mem_followers key seen _ _ _

end JsonTree

end GovSec.Lib.JsonText
