import FreeHsm.Pkcs11.Attributes
import FreeHsm.Pkcs11.Find
import FreeHsm.Token.ObjectStep

/-!
# What a search finds

`C_FindObjectsInit` copies a class, a label and an identifier out of the template and
compares only these: the class modulo 2^32, the label up to its first zero byte and at
most 63 bytes of it, the identifier if it has at most 32 bytes, and of each the last one
given. Every other attribute is passed over. So the search finds every object that has
the attributes of the template, and objects that lack what was passed over.
-/

namespace FreeHsm

open ByteLayout List FindFilter Token

/-! ## What a search is for -/

/-- The object has an attribute of a template, as `C_GetAttributeValue` reports it. -/
def Obj.hasAttr (V : KeyView) (o : Obj) (a : Attr) : Bool :=
  match o.report V a.type with
  | .bytes b => a.value.data == b
  | .entries es =>
    a.nested.map (fun e => (e.type, e.value.data)) == es.map fun e => (e.type.toUInt64, e.bytes)
  | .sensitive | .invalid => false

/-- The handle of an object that the session sees and that has every attribute of a template. -/
def Token.Wanted (V : KeyView) (t : Token) (tmpl : Template) (handle : UInt32) : Prop :=
  ∃ o, t.visibleObject handle.toUInt64 = .ok o ∧ ∀ a ∈ tmpl, o.hasAttr V a = true

/-- Calls of `C_FindObjects` one after the other, each with some room. -/
def FindSlot.collect : List Nat → FindSlot → Except Err (List UInt32) × FindSlot
  | [], f => (.ok [], f)
  | max :: sizes, f =>
    match f.next max with
    | (.error e, f') => (.error e, f')
    | (.ok handles, f') =>
      match f'.collect sizes with
      | (.ok handles', f'') => (.ok (handles ++ handles'), f'')
      | (.error e, f'') => (.error e, f'')

/-- However the calls are sized, they hand out wanted handles, none twice, and all of them by the
time a call finds nothing more. -/
def Token.SearchExact (V : KeyView) (t : Token) (tmpl : Template) (f : FindSlot) : Prop :=
  ∀ sizes, ∃ handles f', f.collect sizes = (.ok handles, f') ∧ handles.Nodup ∧
    (∀ h ∈ handles, t.Wanted V tmpl h) ∧
    ((f'.next 1).1 = .ok [] → ∀ h, t.Wanted V tmpl h → h ∈ handles)

/-! ## The batches -/

/-- The calls cut the handles that were found, in order. -/
theorem FindSlot.collect_eq {f : FindSlot} (hactive : f.active = true) (sizes : List Nat) :
    f.collect sizes =
      (.ok (f.rest.take sizes.sum), { f with rest := f.rest.drop sizes.sum }) := by
  induction sizes generalizing f with
  | nil => rfl
  | cons max sizes ih =>
    have hnext : f.next max = (.ok (f.rest.take max), { f with rest := f.rest.drop max }) := by
      rw [next, if_pos hactive]
    have hrest := ih (f := { f with rest := f.rest.drop max }) hactive
    rw [collect, hnext]
    dsimp only
    rw [hrest]
    dsimp only
    rw [← take_add, drop_drop, sum_cons]

/-! ## What is compared -/

namespace Attr

variable (a : Attr)

def isClass : Bool := a.type == ckaClass && a.value.len == ckUlongSize

def isLabel : Bool := a.type == ckaLabel

def isId : Bool := a.type == ckaId && decide (a.value.len ≤ 32)

/-- A class of 32 bits, a label of at most 63 bytes with no zero among them, an identifier. -/
def inFull : Bool :=
  a.isClass && a.value.data == le64 (u64At a.value.data 0).toUInt32.toUInt64 ||
    a.isLabel && decide (a.value.data.length ≤ filterLabelMax) && !a.value.data.contains 0 || a.isId

end Attr

/-- The last attribute of a kind. -/
def Template.last (tmpl : Template) (kind : Attr → Bool) : Option Attr := (tmpl.filter kind).getLast?

/-- The object has the class of the template modulo 2^32, the start of its label and its identifier,
of each the last one. -/
def Obj.agrees (o : Obj) (tmpl : Template) : Bool :=
  (tmpl.last Attr.isClass).all (fun a => (u64At a.value.data 0).toUInt32 == o.cls) &&
    (tmpl.last Attr.isLabel).all (fun a => cstr o.label.toList == cstr (a.value.data.take filterLabelMax)) &&
    (tmpl.last Attr.isId).all fun a => o.id.toList.take o.idLen.toNat == a.value.data

/-- The attribute is compared, and all of it. -/
def Template.Compared (tmpl : Template) (a : Attr) : Prop :=
  a.inFull = true ∧
    (tmpl.last Attr.isClass = some a ∨ tmpl.last Attr.isLabel = some a ∨ tmpl.last Attr.isId = some a)

section

variable {tmpl : Template} {a : Attr} {kind : Attr → Bool}

theorem Template.mem_of_last (h : tmpl.last kind = some a) : a ∈ tmpl ∧ kind a = true :=
  mem_filter.1 (mem_of_getLast? h)

theorem Template.last_append (tmpl : Template) (a : Attr) (kind : Attr → Bool) :
    Template.last (tmpl ++ [a]) kind = if kind a then some a else tmpl.last kind := by
  unfold last
  cases hkind : kind a with
  | true => simp [filter_append, hkind]
  | false => simp [filter_append, hkind]

/-- A filter holds the last attribute of each kind. -/
theorem FindFilter.ofTemplate_eq (tmpl : Template) :
    ofTemplate tmpl =
      { cls := (tmpl.last Attr.isClass).map fun a => (u64At a.value.data 0).toUInt32
        label := (tmpl.last Attr.isLabel).map fun a => a.value.data.take filterLabelMax
        id := (tmpl.last Attr.isId).map (·.value.data) } := by
  induction tmpl using reverseRecOn with
  | nil => rfl
  | append_singleton tmpl a ih =>
    have hsnoc : ofTemplate (tmpl ++ [a]) = (ofTemplate tmpl).read a := by
      rw [ofTemplate, foldl_append]
      rfl
    have hclass : a.isClass = true ↔ a.type = ckaClass ∧ a.value.len = ckUlongSize := by
      simp [Attr.isClass]
    have hid : a.isId = true ↔ a.type = ckaId ∧ a.value.len ≤ 32 := by simp [Attr.isId]
    have hlabel : a.isLabel = true ↔ a.type = ckaLabel := by simp [Attr.isLabel]
    simp only [hsnoc, ih, read, Template.last_append, hclass, hid, hlabel]
    -- the three types are different
    split
    · rename_i h
      simp [h.1, show ckaClass ≠ ckaLabel by decide, show ckaClass ≠ ckaId by decide]
    split
    · rename_i h
      simp [h, show ckaLabel ≠ ckaId by decide]
    · split <;> rfl

theorem Template.last_of_nodup (hnodup : (tmpl.map (·.type)).Nodup) (ha : a ∈ tmpl)
    (hkind : kind a = true) (hsame : ∀ b, kind b = true → b.type = a.type) :
    tmpl.last kind = some a := by
  obtain ⟨b, hb⟩ : ∃ b, tmpl.last kind = some b :=
    Option.isSome_iff_exists.1 (getLast?_isSome.2 (ne_nil_of_mem (mem_filter.2 ⟨ha, hkind⟩)))
  obtain ⟨hmem, hkind'⟩ := mem_of_last hb
  rw [hb, inj_on_of_nodup_map hnodup hmem ha (hsame b hkind')]

theorem Template.compared_of_nodup (hnodup : (tmpl.map (·.type)).Nodup) (ha : a ∈ tmpl)
    (hfull : a.inFull = true) : tmpl.Compared a := by
  refine ⟨hfull, ?_⟩
  simp only [Attr.inFull, Bool.or_eq_true, Bool.and_eq_true] at hfull
  rcases hfull with (⟨hclass, -⟩ | ⟨⟨hlabel, -⟩, -⟩) | hid
  · refine .inl (last_of_nodup hnodup ha hclass fun b hb => ?_)
    simp_all [Attr.isClass]
  · refine .inr (.inl (last_of_nodup hnodup ha hlabel fun b hb => ?_))
    simp_all [Attr.isLabel]
  · refine .inr (.inr (last_of_nodup hnodup ha hid fun b hb => ?_))
    simp_all [Attr.isId]

end

/-! ## Three attributes of an object -/

section

variable {V : KeyView} {o : Obj} {a : Attr}

theorem toUInt32_u64At_le64 (c : UInt32) : (u64At (le64 c.toUInt64) 0).toUInt32 = c := by
  have hlow : u32At (le64 c.toUInt64) 0 = c := by
    rw [le64, u32At_le32_append, UInt32.toUInt32_toUInt64]
  rw [u64At, hlow]
  apply UInt32.toBitVec_inj.1
  ext i hi
  simp

theorem Obj.hasAttr_class (htype : a.type = ckaClass) :
    o.hasAttr V a = true ↔ a.value.data = le64 o.cls.toUInt64 := by
  have hreport : o.report V a.type = .bytes (le64 o.cls.toUInt64) := by
    rw [htype]
    rfl
  rw [hasAttr, hreport, beq_iff_eq]

theorem Obj.hasAttr_label (htype : a.type = ckaLabel) :
    o.hasAttr V a = true ↔ a.value.data = cstr o.label.toList := by
  have hreport : o.report V a.type = .bytes (cstr o.label.toList) := by
    rw [htype]
    rfl
  rw [hasAttr, hreport, beq_iff_eq]

theorem Obj.hasAttr_id (htype : a.type = ckaId) :
    o.hasAttr V a = true ↔ a.value.data = o.id.toList.take o.idLen.toNat := by
  have hreport : o.report V a.type = .bytes (o.id.toList.take o.idLen.toNat) := by
    rw [htype]
    rfl
  rw [hasAttr, hreport, beq_iff_eq]

variable {tmpl : Template}

/-- An object that passes the comparison has what was compared in full. -/
theorem Obj.hasAttr_of_compared (h : o.agrees tmpl = true) (ha : tmpl.Compared a) :
    o.hasAttr V a = true := by
  obtain ⟨hfull, hlast⟩ := ha
  simp only [agrees, Bool.and_eq_true, Option.all_eq_true, beq_iff_eq] at h
  obtain ⟨⟨hclass, hlabel⟩, hid⟩ := h
  rcases hlast with hlast | hlast | hlast
  · have hkind := (Template.mem_of_last hlast).2
    have htype : a.type = ckaClass := by simp_all [Attr.isClass]
    have hdata : a.value.data = le64 (u64At a.value.data 0).toUInt32.toUInt64 := by
      simpa [Attr.inFull, Attr.isLabel, Attr.isId, hkind, htype, show ckaClass ≠ ckaLabel by decide,
        show ckaClass ≠ ckaId by decide] using hfull
    rw [hasAttr_class htype, ← hclass a hlast]
    exact hdata
  · have hkind := (Template.mem_of_last hlast).2
    have htype : a.type = ckaLabel := by simpa [Attr.isLabel] using hkind
    have hdata : a.value.data.length ≤ filterLabelMax ∧ 0 ∉ a.value.data := by
      simpa [Attr.inFull, Attr.isClass, Attr.isId, hkind, htype, show ckaLabel ≠ ckaClass by decide,
        show ckaLabel ≠ ckaId by decide] using hfull
    have hends : ∀ b ∈ a.value.data, (b != 0) = true := by
      intro b hb
      rw [bne_iff_ne]
      rintro rfl
      exact hdata.2 hb
    rw [hasAttr_label htype, hlabel a hlast, take_of_length_le hdata.1]
    exact (cstr_eq_self hends).symm
  · have hkind := (Template.mem_of_last hlast).2
    have htype : a.type = ckaId := by simp_all [Attr.isId]
    rw [hasAttr_id htype]
    exact (hid a hlast).symm

/-- An object with all the attributes passes the comparison, unless its label has no end. -/
theorem Obj.agrees_of_hasAttr (h : ∀ a ∈ tmpl, o.hasAttr V a = true)
    (hlabel : (∃ a ∈ tmpl, a.type = ckaLabel) → (cstr o.label.toList).length ≤ filterLabelMax) :
    o.agrees tmpl = true := by
  simp only [agrees, Bool.and_eq_true, Option.all_eq_true, beq_iff_eq]
  refine ⟨⟨fun a hlast => ?_, fun a hlast => ?_⟩, fun a hlast => ?_⟩
  · obtain ⟨ha, hkind⟩ := Template.mem_of_last hlast
    have htype : a.type = ckaClass := by simp_all [Attr.isClass]
    rw [(hasAttr_class htype).1 (h a ha), toUInt32_u64At_le64]
  · obtain ⟨ha, hkind⟩ := Template.mem_of_last hlast
    have htype : a.type = ckaLabel := by simpa [Attr.isLabel] using hkind
    rw [(hasAttr_label htype).1 (h a ha), take_of_length_le (hlabel ⟨a, ha, htype⟩)]
    exact (cstr_eq_self fun b hb => ne_zero_of_mem_cstr hb).symm
  · obtain ⟨ha, hkind⟩ := Template.mem_of_last hlast
    have htype : a.type = ckaId := by simp_all [Attr.isId]
    exact ((hasAttr_id htype).1 (h a ha)).symm

/-- At most 63 bytes of a label are compared. -/
theorem Obj.length_label_of_agrees (hasked : ∃ a ∈ tmpl, a.type = ckaLabel) (h : o.agrees tmpl = true) :
    (cstr o.label.toList).length ≤ filterLabelMax := by
  obtain ⟨a, ha, htype⟩ := hasked
  have hkind : a.isLabel = true := by simp [Attr.isLabel, htype]
  obtain ⟨b, hb⟩ : ∃ b, tmpl.last Attr.isLabel = some b :=
    Option.isSome_iff_exists.1 (getLast?_isSome.2 (ne_nil_of_mem (mem_filter.2 ⟨ha, hkind⟩)))
  simp only [agrees, hb, Bool.and_eq_true, Option.all_some, beq_iff_eq] at h
  rw [h.1.2]
  calc (cstr (b.value.data.take filterLabelMax)).length
      ≤ (b.value.data.take filterLabelMax).length := (takeWhile_sublist _).length_le
    _ ≤ filterLabelMax := by
      rw [length_take]
      exact Nat.min_le_left _ _

end

/-! ## The search on a store -/

section

variable {V : KeyView} {t : Token} {tmpl : Template} {o : Obj} {handle : UInt32}

theorem eq_of_handle_eq (hdistinct : t.objects.handles.Nodup) {o' : Obj} (ho : o ∈ t.objects.objs)
    (ho' : o' ∈ t.objects.objs) (heq : o.handle = o'.handle) : o = o' := by
  have hfind := find?_of_nodup hdistinct ho
  rw [heq, find?_of_nodup hdistinct ho'] at hfind
  exact (Option.some.inj hfind).symm

theorem objectGet_ok_iff :
    t.objectGet handle = .ok o ↔ t.storeVisible = true ∧ t.objects.find? handle = some o := by
  unfold objectGet storeVisible
  cases t.objectsLoaded <;> cases t.objectsPublic <;> cases t.objects.find? handle <;> simp

/-- With distinct handles, the tests on a handle are tests on its object. -/
theorem findKeeps_eq (hdistinct : t.objects.handles.Nodup) (hvisible : t.storeVisible = true)
    (f : FindFilter) (ho : o ∈ t.objects.objs) :
    t.findKeeps f o.handle =
      (!t.objectAccessDenied o.cls && f.id.all (o.id.toList.take o.idLen.toNat == ·)) := by
  have hfind : t.objects.find? o.handle = some o := find?_of_nodup hdistinct ho
  have hget : t.objectGet o.handle = .ok o := objectGet_ok_iff.2 ⟨hvisible, hfind⟩
  rw [findKeeps, hget, hfind, objectAccessDenied]
  cases f.id with
  | none => cases t.loggedIn <;> simp [bne]
  | some id => cases t.loggedIn <;> simp [bne]

theorem init_ok {arg : TemplateArg} {f f' : FindSlot} (htmpl : checkTemplate arg = .ok tmpl)
    (hinit : f.init t arg = (.ok (), f')) :
    t.storeVisible = true ∧ f'.active = true ∧
      f'.rest = ((t.objects.objs.filter (ofTemplate tmpl).admits).map (·.handle)).filter
        (t.findKeeps (.ofTemplate tmpl)) := by
  unfold FindSlot.init at hinit
  split at hinit
  · cases hinit
  rw [htmpl] at hinit
  dsimp only at hinit
  cases hvisible : t.storeVisible with
  | false =>
    rw [objectFind, hvisible] at hinit
    cases hinit
  | true =>
    rw [objectFind, hvisible] at hinit
    cases hinit
    exact ⟨rfl, rfl, rfl⟩

theorem mem_found_iff (hdistinct : t.objects.handles.Nodup) (hvisible : t.storeVisible = true) :
    handle ∈ ((t.objects.objs.filter (ofTemplate tmpl).admits).map (·.handle)).filter
        (t.findKeeps (.ofTemplate tmpl)) ↔
      ∃ o ∈ t.objects.objs, t.objectAccessDenied o.cls = false ∧ o.agrees tmpl = true ∧
        o.handle = handle := by
  have hagrees (o : Obj) : o.agrees tmpl = ((ofTemplate tmpl).admits o &&
      (ofTemplate tmpl).id.all (o.id.toList.take o.idLen.toNat == ·)) := by
    rw [ofTemplate_eq]
    simp [Obj.agrees, admits, Option.all_map]
  constructor
  · intro hmem
    obtain ⟨hmem, hkeeps⟩ := mem_filter.1 hmem
    obtain ⟨o, ho, rfl⟩ := mem_map.1 hmem
    obtain ⟨ho, hadmits⟩ := mem_filter.1 ho
    rw [findKeeps_eq hdistinct hvisible _ ho, Bool.and_eq_true, Bool.not_eq_true'] at hkeeps
    refine ⟨o, ho, hkeeps.1, ?_, rfl⟩
    rw [hagrees, hadmits, hkeeps.2, Bool.and_self]
  · rintro ⟨o, ho, hallowed, hpasses, rfl⟩
    rw [hagrees, Bool.and_eq_true] at hpasses
    refine mem_filter.2 ⟨mem_map_of_mem (mem_filter.2 ⟨ho, hpasses.1⟩), ?_⟩
    rw [findKeeps_eq hdistinct hvisible _ ho, hallowed, hpasses.2]
    rfl

theorem wanted_iff (hdistinct : t.objects.handles.Nodup) (hvisible : t.storeVisible = true) :
    t.Wanted V tmpl handle ↔
      ∃ o ∈ t.objects.objs, t.objectAccessDenied o.cls = false ∧
        (∀ a ∈ tmpl, o.hasAttr V a = true) ∧ o.handle = handle := by
  unfold Token.Wanted visibleObject
  rw [UInt32.toUInt32_toUInt64]
  constructor
  · rintro ⟨o, hsees, hattrs⟩
    cases hget : t.objectGet handle with
    | error e =>
      rw [hget] at hsees
      cases hsees
    | ok o' =>
      rw [hget] at hsees
      dsimp only at hsees
      cases hdenied : t.objectAccessDenied o'.cls with
      | true =>
        rw [hdenied, if_pos rfl] at hsees
        cases hsees
      | false =>
        rw [hdenied, if_neg Bool.false_ne_true] at hsees
        cases hsees
        have hfind : t.objects.objs.find? (·.handle == handle) = some o := (objectGet_ok_iff.1 hget).2
        have hhandle := find?_some hfind
        exact ⟨o, mem_of_find?_eq_some hfind, hdenied, hattrs, beq_iff_eq.1 hhandle⟩
  · rintro ⟨o, ho, hallowed, hattrs, rfl⟩
    have hget := objectGet_ok_iff.2 ⟨hvisible, find?_of_nodup hdistinct ho⟩
    refine ⟨o, ?_, hattrs⟩
    rw [hget]
    dsimp only
    rw [hallowed, if_neg Bool.false_ne_true]

/-- What the comparison leaves open holds for the objects that the session sees. -/
structure Token.Searchable (V : KeyView) (t : Token) (tmpl : Template) : Prop where
  /-- An object that passes the comparison has the attributes that were passed over. -/
  told : ∀ o ∈ t.objects.objs, t.objectAccessDenied o.cls = false → o.agrees tmpl = true →
    ∀ a ∈ tmpl, ¬ tmpl.Compared a → o.hasAttr V a = true
  /-- A label that is asked for ends within its buffer. -/
  ended : ∀ o ∈ t.objects.objs, t.objectAccessDenied o.cls = false →
    (∀ a ∈ tmpl, o.hasAttr V a = true) → (∃ a ∈ tmpl, a.type = ckaLabel) →
    (cstr o.label.toList).length ≤ filterLabelMax

theorem searchExact_iff {arg : TemplateArg} {f f' : FindSlot} (hdistinct : t.objects.handles.Nodup)
    (htmpl : checkTemplate arg = .ok tmpl) (hinit : f.init t arg = (.ok (), f')) :
    t.SearchExact V tmpl f' ↔ t.Searchable V tmpl := by
  obtain ⟨hvisible, hactive, hrest⟩ := init_ok htmpl hinit
  constructor
  · intro hexact
    -- one call with room for everything
    obtain ⟨handles, f'', hcollect, -, hsound, hcomplete⟩ := hexact [f'.rest.length]
    rw [FindSlot.collect_eq hactive] at hcollect
    cases hcollect
    rw [sum_singleton, take_length, drop_length] at *
    have hcomplete := hcomplete (by rw [FindSlot.next, if_pos hactive]; rfl)
    refine ⟨fun o ho hallowed hpasses a ha _ => ?_, fun o ho hallowed hattrs hasked => ?_⟩
    · have hmem : o.handle ∈ f'.rest := by
        rw [hrest]
        exact (mem_found_iff hdistinct hvisible).2 ⟨o, ho, hallowed, hpasses, rfl⟩
      obtain ⟨o', ho', -, hattrs, heq⟩ := (wanted_iff hdistinct hvisible).1 (hsound _ hmem)
      cases eq_of_handle_eq hdistinct ho' ho heq
      exact hattrs a ha
    · have hmem := hcomplete o.handle
        ((wanted_iff hdistinct hvisible).2 ⟨o, ho, hallowed, hattrs, rfl⟩)
      rw [hrest] at hmem
      obtain ⟨o', ho', -, hpasses, heq⟩ := (mem_found_iff hdistinct hvisible).1 hmem
      cases eq_of_handle_eq hdistinct ho' ho heq
      exact Obj.length_label_of_agrees hasked hpasses
  · intro hsearch sizes
    refine ⟨_, _, FindSlot.collect_eq hactive sizes, ?_, ?_, ?_⟩
    · have hsub := (filter_sublist (p := t.findKeeps (.ofTemplate tmpl))).trans
        ((filter_sublist (p := (ofTemplate tmpl).admits)
          (l := t.objects.objs)).map (·.handle))
      rw [hrest]
      exact ((take_sublist _ _).trans hsub).nodup hdistinct
    · intro handle hmem
      have hmem := mem_of_mem_take hmem
      rw [hrest] at hmem
      obtain ⟨o, ho, hallowed, hpasses, rfl⟩ := (mem_found_iff hdistinct hvisible).1 hmem
      refine (wanted_iff hdistinct hvisible).2 ⟨o, ho, hallowed, fun a ha => ?_, rfl⟩
      by_cases hcompared : tmpl.Compared a
      · exact Obj.hasAttr_of_compared hpasses hcompared
      · exact hsearch.told o ho hallowed hpasses a ha hcompared
    · intro hdone handle hwanted
      -- nothing is left, so the calls have handed out everything
      have hnil : f'.rest.drop sizes.sum = [] := by
        rw [FindSlot.next, if_pos hactive] at hdone
        cases hdrop : f'.rest.drop sizes.sum with
        | nil => rfl
        | cons h hs =>
          rw [hdrop] at hdone
          cases hdone
      rw [take_of_length_le (drop_eq_nil_iff.1 hnil), hrest]
      obtain ⟨o, ho, hallowed, hattrs, rfl⟩ := (wanted_iff hdistinct hvisible).1 hwanted
      exact (mem_found_iff hdistinct hvisible).2 ⟨o, ho, hallowed,
        Obj.agrees_of_hasAttr hattrs (hsearch.ended o ho hallowed hattrs), rfl⟩

/-- A search is exact just when the objects that it finds have what was passed over; so one for a
class, a label and an identifier is, while the labels end within their buffers. -/
theorem findObjects_exact_iff (V : KeyView) (t : Token) (arg : TemplateArg) (tmpl : Template)
    (f f' : FindSlot) (hdistinct : t.objects.handles.Nodup) (htmpl : checkTemplate arg = .ok tmpl)
    (hinit : f.init t arg = (.ok (), f')) :
    (t.SearchExact V tmpl f' ↔ t.Searchable V tmpl) ∧
      ((tmpl.map (·.type)).Nodup → (∀ a ∈ tmpl, a.inFull = true) →
        (∀ o ∈ t.objects.objs, (cstr o.label.toList).length ≤ filterLabelMax) →
        t.SearchExact V tmpl f') := by
  refine ⟨searchExact_iff hdistinct htmpl hinit, fun hnodup hfull hended => ?_⟩
  refine (searchExact_iff hdistinct htmpl hinit).2 ⟨?_, fun o ho _ _ _ => hended o ho⟩
  intro o _ _ _ a ha hopen
  exact absurd (Template.compared_of_nodup hnodup ha (hfull a ha)) hopen

end

/-! ## Two searches -/

/-- An OpenSSL that reads nothing. -/
def KeyView.blank : KeyView where
  publicAttr _ _ _ _ _ := none
  certAttr _ _ := none
  rawPublic _ := none
  parameterSet _ _ _ := none

/-- A token with an RSA public key and a certificate. -/
def twoObjects : Token :=
  { Token.zeroed with
    objectsLoaded := true
    objects := ⟨[{ Obj.zero with handle := 1, cls := ckoPublicKey },
      { Obj.zero with handle := 2, cls := ckoCertificate }], by decide⟩ }

/-- A search for public keys without a label. -/
theorem findObjects_exact_iff_publicKeys :
    twoObjects.SearchExact .blank [⟨ckaClass, .bytes (le64 2), []⟩, ⟨ckaLabel, .bytes [], []⟩]
      ⟨true, [1]⟩ := by
  refine (findObjects_exact_iff .blank twoObjects
    (.list [⟨ckaClass, .bytes (le64 2), []⟩, ⟨ckaLabel, .bytes [], []⟩]) _ {} _
    (by decide) rfl (by decide)).2 (by decide) (by decide) (by decide)

/-- A search for AES keys finds an RSA key. -/
theorem key_type_passed_over :
    FindSlot.init twoObjects (.list [⟨ckaKeyType, .bytes (le64 0x1F), []⟩]) {} =
        (.ok (), ⟨true, [1, 2]⟩) ∧
      ¬twoObjects.SearchExact .blank [⟨ckaKeyType, .bytes (le64 0x1F), []⟩] ⟨true, [1, 2]⟩ := by
  refine ⟨by decide, fun hexact => ?_⟩
  obtain ⟨handles, f', hcollect, -, hsound, -⟩ := hexact [2]
  cases hcollect
  obtain ⟨o, hsees, hattrs⟩ := hsound 1 (by decide)
  have hkey : twoObjects.visibleObject 1 = .ok { Obj.zero with handle := 1, cls := ckoPublicKey } := rfl
  cases hkey.symm.trans hsees
  exact absurd (hattrs _ (mem_singleton_self _)) (by decide)

end FreeHsm
