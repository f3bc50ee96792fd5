import FreeHsm.Pkcs11.Policy

/-!
# Searches

`C_FindObjectsInit`, `C_FindObjects` and `C_FindObjectsFinal`. The search runs in
`C_FindObjectsInit`, which reads three attributes of the template into a filter; the
other two calls hand out the handles it found.
-/

namespace FreeHsm

/-- What a search looks at. -/
structure FindFilter where
  cls : Option UInt32 := none
  label : Option Bytes := none
  id : Option Bytes := none
  deriving DecidableEq

/-- `sizeof(filter_label) - 1`. -/
def filterLabelMax : Nat := 63

namespace FindFilter

/-- One round of the loop over the template: an attribute that is not one of the three, a class
that is not a `CK_ULONG` and an identifier of more than 32 bytes are passed over. -/
def read (f : FindFilter) (a : Attr) : FindFilter :=
  if a.type = ckaClass ∧ a.value.len = ckUlongSize then
    { f with cls := some (u64At a.value.data 0).toUInt32 }
  else if a.type = ckaLabel then { f with label := some (a.value.data.take filterLabelMax) }
  else if a.type = ckaId ∧ a.value.len ≤ 32 then { f with id := some a.value.data }
  else f

def ofTemplate (t : Template) : FindFilter := t.foldl read {}

/-- The test of `fhsm_token_object_find`; `strncmp` stops at a zero byte. -/
def admits (f : FindFilter) (o : Obj) : Bool :=
  f.cls.all (· == o.cls) && f.label.all fun l => cstr o.label.toList == cstr l

end FindFilter

/-- `fhsm_token_object_find`. -/
def Token.objectFind (t : Token) (f : FindFilter) : Except Err (List UInt32) :=
  if t.storeVisible then .ok ((t.objects.objs.filter f.admits).map (·.handle))
  else .error .userNotLoggedIn

/-- The tests of `C_FindObjectsInit` on a handle: keys are for the user, and the identifier. -/
def Token.findKeeps (t : Token) (f : FindFilter) (handle : UInt32) : Bool :=
  (t.loggedIn == .user || match t.objectGet handle with
    | .ok o => !(o.cls == ckoSecretKey || o.cls == ckoPrivateKey)
    | .error _ => true) &&
  match f.id with
  | none => true
  | some id => (t.objects.find? handle).any fun o => o.id.toList.take o.idLen.toNat == id

/-- `fhsm_find_state_t`; the handles that are still to be handed out stand for `handles`, `count`
and `next`. -/
structure FindSlot where
  active : Bool := false
  rest : List UInt32 := []
  deriving DecidableEq

namespace FindSlot

/-- `C_FindObjectsInit`. The slot becomes active even when the store cannot be searched. -/
def init (t : Token) (arg : TemplateArg) (f : FindSlot) : Except Err Unit × FindSlot :=
  if f.active then (.error .operationActive, f)
  else match checkTemplate arg with
    | .error e => (.error e, f)
    | .ok tmpl =>
      match t.objectFind (.ofTemplate tmpl) with
      | .error e => (.error e, { active := true, rest := [] })
      | .ok handles =>
        (.ok (), { active := true, rest := handles.filter (t.findKeeps (.ofTemplate tmpl)) })

/-- `C_FindObjects` with room for `max` handles. -/
def next (max : Nat) (f : FindSlot) : Except Err (List UInt32) × FindSlot :=
  if f.active then (.ok (f.rest.take max), { f with rest := f.rest.drop max })
  else (.error .operationNotInitialized, f)

/-- `C_FindObjectsFinal`. -/
def final (f : FindSlot) : Except Err Unit × FindSlot :=
  if f.active then (.ok (), {}) else (.error .operationNotInitialized, f)

end FindSlot

end FreeHsm
