import FreeHsm.Pkcs11.FindExact
import FreeHsm.Pkcs11.MultipartAgrees
import FreeHsm.Pkcs11.Transport

/-!
# What the attributes of an object guard

`C_GetAttributeValue` keeps back the values of sensitive and unextractable keys: no call tells
two of them apart (`getAttributeValue_hides`).
-/

namespace FreeHsm

/-- A token with two AES keys. -/
def twoKeys : Token := twoKeyEnv.tok.getD .zeroed

/-- `o'` is `o` with at most another value, where `o` is a key whose value is kept back and nothing
that is public about the values differs. -/
def Obj.Hides (V : KeyView) (o o' : Obj) : Prop :=
  o' = o ∨ (o.isSecret ∧ (o.sensitive ∨ o.extractable = false) ∧
    ∃ v hv, o' = { o with value := v, value_le := hv } ∧ v.length = o.value.length ∧
      V.publicAttr o.cls o.keyType v = V.publicAttr o.cls o.keyType o.value ∧
      V.parameterSet o.cls o.keyType v = V.parameterSet o.cls o.keyType o.value)

theorem Obj.Hides.report {V : KeyView} {o o' : Obj} (h : o.Hides V o') (type : UInt64) :
    o'.report V type = o.report V type := by
  obtain rfl | ⟨hsecret, hkept, v, hv, rfl, hlen, hpub, hset⟩ := h
  · rfl
  have hcert : o.cls ≠ ckoCertificate := by
    intro heq
    rw [isSecret, heq] at hsecret
    cases hsecret
  have hback : (o.sensitive || (o.isSecret && !o.extractable)) = true := by
    rcases hkept with hkept | hkept <;> simp [hkept, hsecret]
  have hvalue : Obj.valueReport { o with value := v, value_le := hv } V = o.valueReport V :=
    (if_pos hback).trans (if_pos hback).symm
  simp only [Obj.report, hvalue, hlen, hpub, hset, if_neg hcert]
  rfl

/-- The token with other objects in place of its own. -/
def Token.mapObjects (t : Token) (f : Obj → Obj) : Token :=
  { t with objects := ⟨t.objects.objs.map f, by rw [List.length_map]; exact t.objects.length_le⟩ }

/-- Whatever is asked, about whichever object: tokens that differ in kept back values only answer
alike. -/
theorem getAttributeValue_hides (V : KeyView) (f : Obj → Obj) (hf : ∀ o : Obj, o.Hides V (f o))
    (t : Token) (hObject : UInt64) (isNull : Bool) (qs : List AttrQuery) :
    getAttributeValue V (t.mapObjects f) hObject isNull qs =
      getAttributeValue V t hObject isNull qs := by
  have hsame (o : Obj) : (f o).handle = o.handle ∧ (f o).cls = o.cls := by
    obtain h | ⟨-, -, v, hv, h, -⟩ := hf o <;> rw [h] <;> exact ⟨rfl, rfl⟩
  have hanswer (o : Obj) : (f o).answer V = o.answer V := by
    funext q
    rw [Obj.answer, Obj.answer, (hf o).report]
  have hfind : (t.mapObjects f).objects.find? hObject.toUInt32 =
      (t.objects.find? hObject.toUInt32).map f := by
    simp only [ObjStore.find?, Token.mapObjects, List.find?_map, Function.comp_def, hsame]
  have hget : (t.mapObjects f).objectGet hObject.toUInt32 =
      (t.objectGet hObject.toUInt32).map f := by
    unfold Token.objectGet
    rw [hfind, apply_ite (Except.map f)]
    cases t.objects.find? hObject.toUInt32 <;> rfl
  rw [getAttributeValue, getAttributeValue, Token.visibleObject, Token.visibleObject, hget]
  cases t.objectGet hObject.toUInt32 with
  | error e => rfl
  | ok o =>
    simp only [Except.map, Token.objectAccessDenied, Token.mapObjects, (hsame o).2]
    split_ifs <;> simp_all only [↓reduceIte, Bool.false_eq_true]

theorem getAttributeValue_hides_aesKey :
    getAttributeValue .blank (twoKeys.mapObjects fun o => if o = aesKey 1 10 then aesKey 1 20 else o)
        1 false [⟨ckaValue, none, []⟩] =
      getAttributeValue .blank twoKeys 1 false [⟨ckaValue, none, []⟩] := by
  refine getAttributeValue_hides .blank _ (fun o => ?_) ..
  split
  · subst o
    exact .inr ⟨rfl, .inr rfl, .replicate 16 20, by decide, rfl, rfl, rfl, rfl⟩
  · exact .inl rfl

end FreeHsm
