import GovSec.CanonicalJson
import GovSec.ContextEnvelope
import GovSec.ActionPolicy

/-!
A verified envelope is bound to its hash: the canonical text of the hash material fixes every
field of the envelope, so two verified envelopes with one hash are one envelope.
-/

namespace GovSec

open GovSec.Lib.Text

/-! ### Objects with equal sorted forms -/

namespace Value

lemma sortedElements_eq (vs : List Value) : sortedElements vs = vs.map sorted := by
  induction vs with
  | nil => rfl
  | cons v vs ih => rw [sortedElements, List.map_cons, ih]

lemma sortedEntries_eq (es : List (Str × Value)) :
    sortedEntries es = es.map fun e => (e.1, e.2.sorted) := by
  induction es with
  | nil => rfl
  | cons e es ih => rw [sortedEntries, List.map_cons, ih]

lemma perm_sortEntries {α : Type} (es : List (Str × α)) : (sortEntries es).Perm es :=
  List.perm_insertionSort _ es

lemma mem_sortedEntries_iff {es fs : List (Str × Value)}
    (h : (object es).sorted = (object fs).sorted) (e : Str × Value) :
    e ∈ sortedEntries es ↔ e ∈ sortedEntries fs := by
  rw [sorted, sorted, object.injEq] at h
  rw [← (perm_sortEntries (sortedEntries es)).mem_iff, h, (perm_sortEntries _).mem_iff]

/-- Two lists with the same distinct keys, one among the entries of the other, are equal. -/
lemma eq_of_keys_eq {α : Type} {es fs : List (Str × α)} (hkeys : es.map (·.1) = fs.map (·.1))
    (hnodup : (es.map (·.1)).Nodup) (hsub : ∀ e ∈ es, e ∈ fs) : es = fs := by
  induction es generalizing fs with
  | nil => exact (List.map_eq_nil_iff.mp hkeys.symm).symm
  | cons e es ih =>
    cases fs with
    | nil => simp at hkeys
    | cons f fs =>
      obtain ⟨hkey, hrest⟩ := List.cons.inj hkeys
      obtain ⟨hnew, hnodup⟩ := List.nodup_cons.mp hnodup
      have hhead : e = f := by
        rcases List.mem_cons.mp (hsub e (by simp)) with h | h
        · exact h
        · exact absurd (hrest ▸ List.mem_map_of_mem h) hnew
      have htail : ∀ e' ∈ es, e' ∈ fs := by
        intro e' he'
        rcases List.mem_cons.mp (hsub e' (by simp [he'])) with rfl | h
        · exact absurd (hkey ▸ List.mem_map_of_mem he') hnew
        · exact h
      rw [hhead, ih hrest hnodup htail]

/-- Objects built with the same keys have equal values key by key. -/
lemma sortedEntries_eq_of_keys {es fs : List (Str × Value)}
    (h : (object es).sorted = (object fs).sorted) (hkeys : es.map (·.1) = fs.map (·.1))
    (hnodup : (es.map (·.1)).Nodup) : sortedEntries es = sortedEntries fs := by
  have hfst : ∀ l : List (Str × Value), (sortedEntries l).map (·.1) = l.map (·.1) := by
    intro l
    rw [sortedEntries_eq, List.map_map]
    rfl
  refine eq_of_keys_eq ?_ ?_ fun e he => (mem_sortedEntries_iff h e).mp he
  · rw [hfst, hfst, hkeys]
  · rw [hfst]
    exact hnodup

/-- The canonical texts of some values. -/
def canonicalTexts (P : Platform) (vs : List Value) : Set Str :=
  { t | ∃ v ∈ vs, canonicalJson P v = .ok t }

/-- Without a collision between their canonical texts, values of one hash are equal. -/
lemma sorted_eq_of_hashCanonical {P : Platform} (hP : P.WritesFloats) {v w : Value} {h : Str}
    (hinj : Set.InjOn (computeHash P) (canonicalTexts P [v, w]))
    (hv : hashCanonical P v = .ok h) (hw : hashCanonical P w = .ok h) : v.sorted = w.sorted := by
  obtain ⟨t, ht, hth⟩ := bind_eq_ok.mp hv
  obtain ⟨u, hu, huh⟩ := bind_eq_ok.mp hw
  have hsame : computeHash P t = computeHash P u :=
    (pure_eq_ok.mp hth).trans (pure_eq_ok.mp huh).symm
  obtain rfl : t = u := hinj ⟨v, by simp, ht⟩ ⟨w, by simp, hu⟩ hsame
  exact sorted_eq_of_canonicalJson hP ht hu

end Value

/-! ### The material of a context envelope -/

lemma ContextRole.name_injective : Function.Injective ContextRole.name := by
  intro a b h
  revert h
  cases a <;> cases b <;> decide

lemma ContextSource.name_injective : Function.Injective ContextSource.name := by
  intro a b h
  revert h
  cases a <;> cases b <;> decide

lemma ContextSegment.mem_material {s : ContextSegment} {es : List (Str × Value)}
    (hes : s.material = .object es) (k : Str) (v : Value) : (k, v) ∈ Value.sortedEntries es ↔
      (k = "ordinal" ∧ v = .number (.int s.ordinal)) ∨ (k = "role" ∧ v = .string s.role.name) ∨
      (k = "source" ∧ v = .string s.source.name) ∨ (k = "content" ∧ v = .string s.content) ∨
      (k = "tool_name" ∧ ∃ t, s.toolName = some t ∧ v = .string t) ∨
      (k = "attachment_id" ∧ ∃ t, s.attachmentId = some t ∧ v = .string t) := by
  obtain rfl := Value.object.inj hes
  rw [Value.sortedEntries_eq]
  cases htool : s.toolName <;> cases hatt : s.attachmentId <;>
    simp [optionalString, Value.sorted]

/-- The material of a segment fixes the segment. -/
lemma ContextSegment.eq_of_material {s s' : ContextSegment}
    (h : s.material.sorted = s'.material.sorted) : s = s' := by
  have hmem := fun k v => (mem_material (s := s) rfl k v).symm.trans
    ((Value.mem_sortedEntries_iff h (k, v)).trans (mem_material (s := s') rfl k v))
  have hordinal := (hmem "ordinal" (.number (.int s.ordinal))).mp (by simp)
  have hrole := (hmem "role" (.string s.role.name)).mp (by simp)
  have hsource := (hmem "source" (.string s.source.name)).mp (by simp)
  have hcontent := (hmem "content" (.string s.content)).mp (by simp)
  have htool : ∀ t, s.toolName = some t ↔ s'.toolName = some t := by
    intro t
    simpa using hmem "tool_name" (.string t)
  have hatt : ∀ t, s.attachmentId = some t ↔ s'.attachmentId = some t := by
    intro t
    simpa using hmem "attachment_id" (.string t)
  simp at hordinal hrole hsource hcontent
  obtain ⟨ordinal, role, source, content, toolName, attachmentId⟩ := s
  obtain ⟨ordinal', role', source', content', toolName', attachmentId'⟩ := s'
  obtain rfl : ordinal = ordinal' := hordinal
  obtain rfl : role = role' := ContextRole.name_injective hrole
  obtain rfl : source = source' := ContextSource.name_injective hsource
  obtain rfl : content = content' := hcontent
  obtain rfl : toolName = toolName' := Option.ext htool
  obtain rfl : attachmentId = attachmentId' := Option.ext hatt
  rfl

lemma ContextAttachment.eq_of_material {a a' : ContextAttachment}
    (h : a.material.sorted = a'.material.sorted) : a = a' := by
  have hentries := Value.sortedEntries_eq_of_keys h rfl (by simp)
  simp only [Value.sortedEntries, Value.sorted, List.cons.injEq, Prod.mk.injEq, true_and,
    Value.string.injEq, Value.number.injEq, Number.int.injEq, Int.ofNat_inj, and_true] at hentries
  obtain ⟨hid, hmedia, hlength, hdigest⟩ := hentries
  cases a
  cases a'
  simp_all

namespace ModelContextEnvelope

/-- **The hash material fixes every field but the hash.** -/
lemma eq_of_hashMaterial {e e' : ModelContextEnvelope}
    (h : e.hashMaterial.sorted = e'.hashMaterial.sorted) (hhash : e.contextHash = e'.contextHash) :
    e = e' := by
  have hseg : Function.Injective fun s : ContextSegment => s.material.sorted :=
    fun _ _ => ContextSegment.eq_of_material
  have hatt : Function.Injective fun a : ContextAttachment => a.material.sorted :=
    fun _ _ => ContextAttachment.eq_of_material
  have hentries := Value.sortedEntries_eq_of_keys h rfl (by simp)
  simp only [Value.sortedEntries, Value.sorted, Value.sortedElements_eq, List.map_map,
    List.cons.injEq, Prod.mk.injEq, true_and, Value.string.injEq, Value.array.injEq,
    and_true] at hentries
  obtain ⟨hschema, hsession, hrun, hprincipal, hprovider, hmodel, hversion, hpolicy, hcontext,
    hprompt, htools, hworkspace, hsegments, hattachments⟩ := hentries
  have hsegments : e.segments = e'.segments := List.map_injective_iff.mpr hseg hsegments
  have hattachments : e.attachments = e'.attachments :=
    List.map_injective_iff.mpr hatt hattachments
  cases e
  cases e'
  simp_all

variable {P : Platform} {e e' : ModelContextEnvelope}

lemma computeHash_of_verify (h : verify P e = .ok ()) : computeHash P e = .ok e.contextHash :=
  (of_compared h).2

/-- Verifying an envelope is finding that sealing would not change it. -/
theorem verify_iff_seal : verify P e = .ok () ↔ «seal» P e = .ok e := by
  refine ⟨fun h => ?_, verify_of_seal⟩
  obtain ⟨hv, hhash⟩ := of_compared h
  exact bind_eq_ok.mpr ⟨(), hv, bind_eq_ok.mpr ⟨_, hhash, rfl⟩⟩

/-- **Verified context envelopes of one hash are equal.** -/
theorem eq_of_contextHash (hP : P.WritesFloats)
    (hinj : Set.InjOn (GovSec.computeHash P)
      (Value.canonicalTexts P [e.hashMaterial, e'.hashMaterial]))
    (hv : verify P e = .ok ()) (hv' : verify P e' = .ok ()) (h : e.contextHash = e'.contextHash) :
    e = e' := by
  have hhash : Value.hashCanonical P e.hashMaterial = .ok e'.contextHash :=
    h ▸ computeHash_of_verify hv
  exact eq_of_hashMaterial
    (Value.sorted_eq_of_hashCanonical hP hinj hhash (computeHash_of_verify hv')) h

end ModelContextEnvelope

/-! ### The material of an action envelope -/

lemma ActionResource.eq_of_object {r r' : ActionResource}
    (h : (Value.object [("kind", .string r.kind), ("locator", .string r.locator)]).sorted =
      (Value.object [("kind", .string r'.kind), ("locator", .string r'.locator)]).sorted) :
    r = r' := by
  have hentries := Value.sortedEntries_eq_of_keys h rfl (by simp)
  simp only [Value.sortedEntries, Value.sorted, List.cons.injEq, Prod.mk.injEq, true_and,
    Value.string.injEq, and_true] at hentries
  obtain ⟨hkind, hlocator⟩ := hentries
  cases r
  cases r'
  simp_all

namespace ActionEnvelope

/-- `e` and `e'` are equal field by field, their arguments as JSON values. -/
def Same (e e' : ActionEnvelope) : Prop :=
  { e with arguments := e'.arguments } = e' ∧ e.arguments.sorted = e'.arguments.sorted

/-- **The hash material fixes every field but the hash.** -/
lemma same_of_hashMaterial {e e' : ActionEnvelope}
    (h : e.hashMaterial.sorted = e'.hashMaterial.sorted) (hhash : e.actionHash = e'.actionHash) :
    Same e e' := by
  have hentries := Value.sortedEntries_eq_of_keys h rfl (by simp)
  simp only [Value.sortedEntries, Value.sorted, List.cons.injEq, Prod.mk.injEq, true_and,
    Value.string.injEq, and_true] at hentries
  obtain ⟨hschema, htool, harguments, hresource, hprincipal, hsession, hrun, hcall, hversion,
    hpolicy, hcontext⟩ := hentries
  have hresource : e.resource = e'.resource := ActionResource.eq_of_object hresource
  refine ⟨?_, harguments⟩
  cases e
  cases e'
  simp_all

variable {P : Platform} {e e' : ActionEnvelope}

lemma computeHash_of_verify (h : verify P e = .ok ()) : computeHash P e = .ok e.actionHash :=
  (of_compared h).2

/-- Verifying an envelope is finding that sealing would not change it. -/
theorem verify_iff_seal : verify P e = .ok () ↔ «seal» P e = .ok e := by
  refine ⟨fun h => ?_, verify_of_seal⟩
  obtain ⟨hv, hhash⟩ := of_compared h
  exact bind_eq_ok.mpr ⟨(), hv, bind_eq_ok.mpr ⟨_, hhash, rfl⟩⟩

/-- **Verified action envelopes of one hash are equal.** -/
theorem same_of_actionHash (hP : P.WritesFloats)
    (hinj : Set.InjOn (GovSec.computeHash P)
      (Value.canonicalTexts P [e.hashMaterial, e'.hashMaterial]))
    (hv : verify P e = .ok ()) (hv' : verify P e' = .ok ()) (h : e.actionHash = e'.actionHash) :
    Same e e' := by
  have hhash : Value.hashCanonical P e.hashMaterial = .ok e'.actionHash :=
    h ▸ computeHash_of_verify hv
  exact same_of_hashMaterial
    (Value.sorted_eq_of_hashCanonical hP hinj hhash (computeHash_of_verify hv')) h

end ActionEnvelope

/-! ### Both envelopes -/

/-- **A verified envelope is bound to its hash**, and verifies exactly when sealing keeps it. -/
theorem verified_envelopes_bound {P : Platform} (hP : P.WritesFloats) :
    (∀ e e' : ModelContextEnvelope, e.verify P = .ok () → e'.verify P = .ok () →
      Set.InjOn (computeHash P) (Value.canonicalTexts P [e.hashMaterial, e'.hashMaterial]) →
      e.contextHash = e'.contextHash → e = e') ∧
    (∀ e e' : ActionEnvelope, e.verify P = .ok () → e'.verify P = .ok () →
      Set.InjOn (computeHash P) (Value.canonicalTexts P [e.hashMaterial, e'.hashMaterial]) →
      e.actionHash = e'.actionHash → e.Same e') ∧
    (∀ e : ModelContextEnvelope, e.verify P = .ok () ↔ e.seal P = .ok e) ∧
    ∀ e : ActionEnvelope, e.verify P = .ok () ↔ e.seal P = .ok e :=
  ⟨fun _ _ hv hv' hinj h => ModelContextEnvelope.eq_of_contextHash hP hinj hv hv' h,
    fun _ _ hv hv' hinj h => ActionEnvelope.same_of_actionHash hP hinj hv hv' h,
    fun _ => ModelContextEnvelope.verify_iff_seal, fun _ => ActionEnvelope.verify_iff_seal⟩

/-- A platform on which a float is written as its bits and a point. -/
def pointPlatform : Platform :=
  { silentPlatform with floatText := fun bits => natText bits.toNat ++ ['.', '0'] }

lemma pointPlatform_writesFloats : pointPlatform.WritesFloats where
  isNumber f := isNumber_natText_append f.1.toNat (by simp) (by decide)
  notInteger f := ⟨'.', by simp [pointPlatform], .inl rfl⟩
  injective f g h :=
    Subtype.ext (BitVec.eq_of_toNat_eq (natText_injective (List.append_cancel_right h)))

/-- A write whose arguments are given in some order. -/
def writeEnvelope (arguments : List (Str × Value)) : ActionEnvelope :=
  { ActionEnvelope.bareEnvelope "write" "notes.txt" (.object arguments) with
    actionHash := (Hex.repeated 64 0).text }

theorem verified_envelopes_bound_writeEnvelope :
    (writeEnvelope [("path", .string "notes.txt"), ("lines", .number (.int 2))]).Same
      (writeEnvelope [("lines", .number (.int 2)), ("path", .string "notes.txt")]) := by
  refine (verified_envelopes_bound pointPlatform_writesFloats).2.1 _ _ rfl rfl ?_ rfl
  refine Set.Subsingleton.injOn ?_ _
  rintro t ⟨v, hv, ht⟩ u ⟨w, hw, hu⟩
  simp only [List.mem_cons, List.not_mem_nil, or_false] at hv hw
  rcases hv with rfl | rfl <;> rcases hw with rfl | rfl <;> exact Except.ok.inj (ht.symm.trans hu)

end GovSec
