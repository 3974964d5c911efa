import V8go.Source.Core

/-!
# Source — objects and symbols

The `Object` and `Symbol` sections of `v8go.cc`.  Each property operation comes in three forms,
by a C string key, by a wrapper key and by an index: one definition takes the key as a program
and each entry point passes its own.  `ObjectGet` alone turns a key it cannot make into an error
record; `ObjectSet`, `ObjectHas` and `ObjectDelete` make theirs with `ToLocalChecked()`, and
`Set`, `Has` and `Delete` end with `Check()` or `ToChecked()`.
-/

namespace V8go

/-! ### Keys -/

/-- `String::NewFromUtf8(iso, key, NewStringType::kNormal).ToLocalChecked()`. -/
def keyChecked (key : CStr) : Prog PropertyKey := do
  let key_val ← .toChecked (← .v8 (.newFromUtf8 key))
  pure (.value key_val)

/-- `key->ptr.Get(iso)`. -/
def keyOfValue (key : ValuePtr) : Prog PropertyKey := do
  let local_key ← valueHandle key
  pure (.value local_key)

/-! ### Set -/

/-- `ObjectSet`, `ObjectSetAnyKey`, `ObjectSetIdx`: `obj->Set(local_ctx, key, value).Check()`. -/
def objectSetKey (ptr : ValuePtr) (key : Prog PropertyKey) (prop_val : ValuePtr) : Prog Unit := do
  let lv ← localValue ptr
  let k ← key
  let v ← valueHandle prop_val
  let _ ← .toChecked (← .v8 (.objectSet lv.localCtx lv.value k v))

/-- `ObjectSet(ptr, key, prop_val)`. -/
def objectSet (ptr : ValuePtr) (key : CStr) (prop_val : ValuePtr) : Prog Unit :=
  objectSetKey ptr (keyChecked key) prop_val

/-- `ObjectSetAnyKey(ptr, key, prop_val)`. -/
def objectSetAnyKey (ptr key prop_val : ValuePtr) : Prog Unit :=
  objectSetKey ptr (keyOfValue key) prop_val

/-- `ObjectSetIdx(ptr, idx, prop_val)`. -/
def objectSetIdx (ptr : ValuePtr) (idx : Nat) (prop_val : ValuePtr) : Prog Unit :=
  objectSetKey ptr (pure (.index idx)) prop_val

/-! ### Get -/

/-- `obj->Get(local_ctx, key)` and the end of the `ObjectGet` entry points. -/
def objectGetKey (lv : LocalValue) (k : PropertyKey) : Prog RtnValue := do
  let result ← .v8 (.objectGet lv.localCtx lv.value k)
  rtnValue lv.iso lv.ctx lv.localCtx result

/-- `ObjectGet(ptr, key)`: a key it cannot make is an error record. -/
def objectGet (ptr : ValuePtr) (key : CStr) : Prog RtnValue := do
  let lv ← localValue ptr
  match ← .v8 (.newFromUtf8 key) with
  | .error try_catch => errorValue try_catch lv.iso lv.localCtx
  | .ok key_val => objectGetKey lv (.value key_val)

/-- `ObjectGetAnyKey(ptr, key)`. -/
def objectGetAnyKey (ptr key : ValuePtr) : Prog RtnValue := do
  let lv ← localValue ptr
  let local_key ← valueHandle key
  objectGetKey lv (.value local_key)

/-- `ObjectGetIdx(ptr, idx)`. -/
def objectGetIdx (ptr : ValuePtr) (idx : Nat) : Prog RtnValue := do
  let lv ← localValue ptr
  objectGetKey lv (.index idx)

/-! ### Has and Delete -/

/-- `ObjectHas*` and `ObjectDelete*`: `obj->Has(local_ctx, key).ToChecked()`, or `Delete`. -/
def objectQuery (query : V8Context → JSValue → PropertyKey → V8Call (Except Caught Bool))
    (ptr : ValuePtr) (key : Prog PropertyKey) : Prog Bool := do
  let lv ← localValue ptr
  let k ← key
  .toChecked (← .v8 (query lv.localCtx lv.value k))

/-- `ObjectHas(ptr, key)`. -/
def objectHas (ptr : ValuePtr) (key : CStr) : Prog Bool := objectQuery .objectHas ptr (keyChecked key)

/-- `ObjectHasAnyKey(ptr, key)`. -/
def objectHasAnyKey (ptr key : ValuePtr) : Prog Bool := objectQuery .objectHas ptr (keyOfValue key)

/-- `ObjectHasIdx(ptr, idx)`. -/
def objectHasIdx (ptr : ValuePtr) (idx : Nat) : Prog Bool :=
  objectQuery .objectHas ptr (pure (.index idx))

/-- `ObjectDelete(ptr, key)`. -/
def objectDelete (ptr : ValuePtr) (key : CStr) : Prog Bool :=
  objectQuery .objectDelete ptr (keyChecked key)

/-- `ObjectDeleteAnyKey(ptr, key)`. -/
def objectDeleteAnyKey (ptr key : ValuePtr) : Prog Bool :=
  objectQuery .objectDelete ptr (keyOfValue key)

/-- `ObjectDeleteIdx(ptr, idx)`. -/
def objectDeleteIdx (ptr : ValuePtr) (idx : Nat) : Prog Bool :=
  objectQuery .objectDelete ptr (pure (.index idx))

/-! ### Symbol -/

/-- `BuiltinSymbol(iso, idx)`: null for an index outside the switch. -/
def builtinSymbol (iso : IsolatePtr) (idx : SymbolIndex) : Prog (Option ValuePtr) := do
  isolateScope iso
  let ctx ← isolateInternalContext iso
  match idx with
  | .other _ => pure none
  | idx => do
    let sym ← .v8 (.builtinSymbol idx)
    let ctx ← .deref ctx
    let val ← trackedNewValue iso ctx sym
    pure (some val)

/-- `SymbolDescription(ptr)`. -/
def symbolDescription (ptr : ValuePtr) : Prog (Option CBuf) := do
  let lv ← localValue ptr
  let descr ← .v8 (.symbolDescription lv.value)
  let utf8 ← .v8 (.utf8Value (some descr))
  pure utf8.copyString

end V8go
