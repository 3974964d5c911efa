import V8go.Source.Core

/-!
# Source — values

The `Value` and `Exception` sections of `v8go.cc`: the `NewValue` constructors, which wrap
their value in the isolate's internal context, and the conversions and tests of a wrapper, each
run in the wrapper's context (`LOCAL_VALUE`).

`ValueToInt32`, `ValueToInteger`, `ValueToNumber` and `ValueToUint32` end with `ToChecked()` on
a conversion that can fail.
-/

namespace V8go

/-! ### Constructors -/

/-- The `NewValue` constructors that cannot fail: a new wrapper of `v` in the isolate's internal
context. -/
def newValue (iso : IsolatePtr) (v : JSValue) : Prog ValuePtr := do
  let ctx ← isolateScopeInternalContext iso
  trackedNewValue iso ctx v

/-- `NewValueInteger(iso, v)`: `Integer::New(iso, v)`. -/
def newValueInteger (iso : IsolatePtr) (v : Int) : Prog ValuePtr := newValue iso (.integer v)

/-- `NewValueIntegerFromUnsigned(iso, v)`: `Integer::NewFromUnsigned(iso, v)`. -/
def newValueIntegerFromUnsigned (iso : IsolatePtr) (v : Nat) : Prog ValuePtr :=
  newValue iso (.integer v)

/-- `NewValueNull(iso)`. -/
def newValueNull (iso : IsolatePtr) : Prog ValuePtr := newValue iso .null

/-- `NewValueUndefined(iso)`. -/
def newValueUndefined (iso : IsolatePtr) : Prog ValuePtr := newValue iso .undefined

/-- `NewValueBoolean(iso, v)`: `Boolean::New(iso, v)` of an `int`. -/
def newValueBoolean (iso : IsolatePtr) (v : Int) : Prog ValuePtr := newValue iso (.boolean (v != 0))

/-- `NewValueNumber(iso, v)`. -/
def newValueNumber (iso : IsolatePtr) (v : JSNumber) : Prog ValuePtr := newValue iso (.number v)

/-- `NewValueBigInt(iso, v)`. -/
def newValueBigInt (iso : IsolatePtr) (v : Int) : Prog ValuePtr := newValue iso (.bigint v)

/-- `NewValueBigIntFromUnsigned(iso, v)`. -/
def newValueBigIntFromUnsigned (iso : IsolatePtr) (v : Nat) : Prog ValuePtr :=
  newValue iso (.bigint v)

/-- `NewValueString(iso, v)`. -/
def newValueString (iso : IsolatePtr) (v : CStr) : Prog RtnValue := do
  let ctx ← isolateScopeInternalContext iso
  match ← .v8 (.newFromUtf8 v) with
  | .error try_catch => do
    let local_ctx ← contextHandle ctx
    errorValue try_catch iso local_ctx
  | .ok str => do
    let val ← trackedNewValue iso ctx str
    pure { value := some val }

/-- `NewValueBigIntFromWords(iso, sign_bit, word_count, words)`. -/
def newValueBigIntFromWords (iso : IsolatePtr) (sign_bit word_count : Int) (words : List UInt64) :
    Prog RtnValue := do
  let ctx ← isolateScopeInternalContext iso
  let local_ctx ← contextHandle ctx
  let bigint ← .v8 (.bigIntNewFromWords local_ctx sign_bit word_count words)
  rtnValue iso ctx local_ctx bigint

/-- `NewValueError(iso, idx, message)`: null for an index outside the switch. -/
def newValueError (iso : IsolatePtr) (idx : ErrorTypeIndex) (message : CStr) :
    Prog (Option ValuePtr) := do
  let ctx ← isolateScopeInternalContext iso
  let _ ← contextHandle ctx
  let local_msg ← .toChecked (← .v8 (.newFromUtf8 message))
  match idx with
  | .other _ => pure none
  | idx => do
    let v ← .v8 (.exception idx local_msg)
    let val ← trackedNewValue iso ctx v
    pure (some val)

/-! ### Conversions -/

/-- `ValueToArrayIndex(ptr)`: null when there is no index; the `new uint32_t` holding it is the
host's to free. -/
def valueToArrayIndex (ptr : ValuePtr) : Prog (Option Nat) := do
  let lv ← localValue ptr
  match ← .v8 (.toArrayIndex lv.localCtx lv.value) with
  | .ok array_index => pure (some array_index)
  | .error _ => pure none

/-- `ValueToBoolean(ptr)`. -/
def valueToBoolean (ptr : ValuePtr) : Prog Bool := do
  let lv ← localValue ptr
  .v8 (.booleanValue lv.value)

/-- `ValueToInt32`, `ValueToInteger`, `ValueToNumber`, `ValueToUint32`: the conversion, then
`ToChecked()`. -/
def valueToChecked {α : Type} (conv : V8Context → JSValue → V8Call (Except Caught α))
    (ptr : ValuePtr) : Prog α := do
  let lv ← localValue ptr
  .toChecked (← .v8 (conv lv.localCtx lv.value))

/-- `ValueToInt32(ptr)`: `value->Int32Value(local_ctx).ToChecked()`. -/
def valueToInt32 (ptr : ValuePtr) : Prog Int := valueToChecked .int32Value ptr

/-- `ValueToInteger(ptr)`: `value->IntegerValue(local_ctx).ToChecked()`. -/
def valueToInteger (ptr : ValuePtr) : Prog Int := valueToChecked .integerValue ptr

/-- `ValueToNumber(ptr)`: `value->NumberValue(local_ctx).ToChecked()`. -/
def valueToNumber (ptr : ValuePtr) : Prog JSNumber := valueToChecked .numberValue ptr

/-- `ValueToUint32(ptr)`: `value->Uint32Value(local_ctx).ToChecked()`. -/
def valueToUint32 (ptr : ValuePtr) : Prog Nat := valueToChecked .uint32Value ptr

/-- `ValueToDetailString(ptr)`. -/
def valueToDetailString (ptr : ValuePtr) : Prog RtnString := do
  let lv ← localValue ptr
  match ← .v8 (.toDetailString lv.localCtx lv.value) with
  | .error try_catch => do
    let error ← exceptionError try_catch lv.iso lv.localCtx
    pure { error }
  | .ok str => do
    let ds ← .v8 (.utf8Value (some str))
    pure { string := ds.copyString }

/-- `ValueToString(ptr)`. -/
def valueToString (ptr : ValuePtr) : Prog (Option CBuf) := do
  let lv ← localValue ptr
  let utf8 ← .v8 (.utf8Value (some lv.value))
  pure utf8.copyString

/-- `ValueToBigInt(ptr)`: `{nullptr, 0}` when the conversion fails. -/
def valueToBigInt (ptr : ValuePtr) : Prog ValueBigInt := do
  let lv ← localValue ptr
  match ← .v8 (.toBigInt lv.localCtx lv.value) with
  | .error _ => pure { words := none, wordCount := 0 }
  | .ok bint => do
    let (sign_bit, words) ← .v8 (.toWordsArray bint)
    pure { words := some words, wordCount := words.length, signBit := sign_bit }

/-- `ValueToObject(ptr)`. -/
def valueToObject (ptr : ValuePtr) : Prog RtnValue := do
  let lv ← localValue ptr
  let obj ← .v8 (.toObject lv.localCtx lv.value)
  rtnValue lv.iso lv.ctx lv.localCtx obj

/-- `ValueSameValue(val1, val2)`, in `val1`'s isolate and no context. -/
def valueSameValue (val1 val2 : ValuePtr) : Prog Bool := do
  let v1 ← .prim (.getValue val1)
  isolateScope v1.iso
  let value1 ← .deref v1.ptr
  let value2 ← valueHandle val2
  .v8 (.sameValue value1 value2)

/-! ### Tests -/

/-- The `ValueIsX(ptr)` family: `value->IsX()`. -/
def valueIs (t : ValueTest) (ptr : ValuePtr) : Prog Bool := do
  let lv ← localValue ptr
  .v8 (.test t lv.value)

/-- `ValueIsUndefined(ptr)`. -/
def valueIsUndefined (ptr : ValuePtr) : Prog Bool := valueIs .isUndefined ptr

/-- `ValueIsNull(ptr)`. -/
def valueIsNull (ptr : ValuePtr) : Prog Bool := valueIs .isNull ptr

/-- `ValueIsNullOrUndefined(ptr)`. -/
def valueIsNullOrUndefined (ptr : ValuePtr) : Prog Bool := valueIs .isNullOrUndefined ptr

/-- `ValueIsTrue(ptr)`. -/
def valueIsTrue (ptr : ValuePtr) : Prog Bool := valueIs .isTrue ptr

/-- `ValueIsFalse(ptr)`. -/
def valueIsFalse (ptr : ValuePtr) : Prog Bool := valueIs .isFalse ptr

/-- `ValueIsName(ptr)`. -/
def valueIsName (ptr : ValuePtr) : Prog Bool := valueIs .isName ptr

/-- `ValueIsString(ptr)`. -/
def valueIsString (ptr : ValuePtr) : Prog Bool := valueIs .isString ptr

/-- `ValueIsSymbol(ptr)`. -/
def valueIsSymbol (ptr : ValuePtr) : Prog Bool := valueIs .isSymbol ptr

/-- `ValueIsFunction(ptr)`. -/
def valueIsFunction (ptr : ValuePtr) : Prog Bool := valueIs .isFunction ptr

/-- `ValueIsObject(ptr)`. -/
def valueIsObject (ptr : ValuePtr) : Prog Bool := valueIs .isObject ptr

/-- `ValueIsBigInt(ptr)`. -/
def valueIsBigInt (ptr : ValuePtr) : Prog Bool := valueIs .isBigInt ptr

/-- `ValueIsBoolean(ptr)`. -/
def valueIsBoolean (ptr : ValuePtr) : Prog Bool := valueIs .isBoolean ptr

/-- `ValueIsNumber(ptr)`. -/
def valueIsNumber (ptr : ValuePtr) : Prog Bool := valueIs .isNumber ptr

/-- `ValueIsExternal(ptr)`. -/
def valueIsExternal (ptr : ValuePtr) : Prog Bool := valueIs .isExternal ptr

/-- `ValueIsInt32(ptr)`. -/
def valueIsInt32 (ptr : ValuePtr) : Prog Bool := valueIs .isInt32 ptr

/-- `ValueIsUint32(ptr)`. -/
def valueIsUint32 (ptr : ValuePtr) : Prog Bool := valueIs .isUint32 ptr

/-- `ValueIsDate(ptr)`. -/
def valueIsDate (ptr : ValuePtr) : Prog Bool := valueIs .isDate ptr

/-- `ValueIsArgumentsObject(ptr)`. -/
def valueIsArgumentsObject (ptr : ValuePtr) : Prog Bool := valueIs .isArgumentsObject ptr

/-- `ValueIsBigIntObject(ptr)`. -/
def valueIsBigIntObject (ptr : ValuePtr) : Prog Bool := valueIs .isBigIntObject ptr

/-- `ValueIsNumberObject(ptr)`. -/
def valueIsNumberObject (ptr : ValuePtr) : Prog Bool := valueIs .isNumberObject ptr

/-- `ValueIsStringObject(ptr)`. -/
def valueIsStringObject (ptr : ValuePtr) : Prog Bool := valueIs .isStringObject ptr

/-- `ValueIsSymbolObject(ptr)`. -/
def valueIsSymbolObject (ptr : ValuePtr) : Prog Bool := valueIs .isSymbolObject ptr

/-- `ValueIsNativeError(ptr)`. -/
def valueIsNativeError (ptr : ValuePtr) : Prog Bool := valueIs .isNativeError ptr

/-- `ValueIsRegExp(ptr)`. -/
def valueIsRegExp (ptr : ValuePtr) : Prog Bool := valueIs .isRegExp ptr

/-- `ValueIsAsyncFunction(ptr)`. -/
def valueIsAsyncFunction (ptr : ValuePtr) : Prog Bool := valueIs .isAsyncFunction ptr

/-- `ValueIsGeneratorFunction(ptr)`. -/
def valueIsGeneratorFunction (ptr : ValuePtr) : Prog Bool := valueIs .isGeneratorFunction ptr

/-- `ValueIsGeneratorObject(ptr)`. -/
def valueIsGeneratorObject (ptr : ValuePtr) : Prog Bool := valueIs .isGeneratorObject ptr

/-- `ValueIsPromise(ptr)`. -/
def valueIsPromise (ptr : ValuePtr) : Prog Bool := valueIs .isPromise ptr

/-- `ValueIsMap(ptr)`. -/
def valueIsMap (ptr : ValuePtr) : Prog Bool := valueIs .isMap ptr

/-- `ValueIsSet(ptr)`. -/
def valueIsSet (ptr : ValuePtr) : Prog Bool := valueIs .isSet ptr

/-- `ValueIsMapIterator(ptr)`. -/
def valueIsMapIterator (ptr : ValuePtr) : Prog Bool := valueIs .isMapIterator ptr

/-- `ValueIsSetIterator(ptr)`. -/
def valueIsSetIterator (ptr : ValuePtr) : Prog Bool := valueIs .isSetIterator ptr

/-- `ValueIsWeakMap(ptr)`. -/
def valueIsWeakMap (ptr : ValuePtr) : Prog Bool := valueIs .isWeakMap ptr

/-- `ValueIsWeakSet(ptr)`. -/
def valueIsWeakSet (ptr : ValuePtr) : Prog Bool := valueIs .isWeakSet ptr

/-- `ValueIsArray(ptr)`. -/
def valueIsArray (ptr : ValuePtr) : Prog Bool := valueIs .isArray ptr

/-- `ValueIsArrayBuffer(ptr)`. -/
def valueIsArrayBuffer (ptr : ValuePtr) : Prog Bool := valueIs .isArrayBuffer ptr

/-- `ValueIsArrayBufferView(ptr)`. -/
def valueIsArrayBufferView (ptr : ValuePtr) : Prog Bool := valueIs .isArrayBufferView ptr

/-- `ValueIsTypedArray(ptr)`. -/
def valueIsTypedArray (ptr : ValuePtr) : Prog Bool := valueIs .isTypedArray ptr

/-- `ValueIsUint8Array(ptr)`. -/
def valueIsUint8Array (ptr : ValuePtr) : Prog Bool := valueIs .isUint8Array ptr

/-- `ValueIsUint8ClampedArray(ptr)`. -/
def valueIsUint8ClampedArray (ptr : ValuePtr) : Prog Bool := valueIs .isUint8ClampedArray ptr

/-- `ValueIsInt8Array(ptr)`. -/
def valueIsInt8Array (ptr : ValuePtr) : Prog Bool := valueIs .isInt8Array ptr

/-- `ValueIsUint16Array(ptr)`. -/
def valueIsUint16Array (ptr : ValuePtr) : Prog Bool := valueIs .isUint16Array ptr

/-- `ValueIsInt16Array(ptr)`. -/
def valueIsInt16Array (ptr : ValuePtr) : Prog Bool := valueIs .isInt16Array ptr

/-- `ValueIsUint32Array(ptr)`. -/
def valueIsUint32Array (ptr : ValuePtr) : Prog Bool := valueIs .isUint32Array ptr

/-- `ValueIsInt32Array(ptr)`. -/
def valueIsInt32Array (ptr : ValuePtr) : Prog Bool := valueIs .isInt32Array ptr

/-- `ValueIsFloat32Array(ptr)`. -/
def valueIsFloat32Array (ptr : ValuePtr) : Prog Bool := valueIs .isFloat32Array ptr

/-- `ValueIsFloat64Array(ptr)`. -/
def valueIsFloat64Array (ptr : ValuePtr) : Prog Bool := valueIs .isFloat64Array ptr

/-- `ValueIsBigInt64Array(ptr)`. -/
def valueIsBigInt64Array (ptr : ValuePtr) : Prog Bool := valueIs .isBigInt64Array ptr

/-- `ValueIsBigUint64Array(ptr)`. -/
def valueIsBigUint64Array (ptr : ValuePtr) : Prog Bool := valueIs .isBigUint64Array ptr

/-- `ValueIsDataView(ptr)`. -/
def valueIsDataView (ptr : ValuePtr) : Prog Bool := valueIs .isDataView ptr

/-- `ValueIsSharedArrayBuffer(ptr)`. -/
def valueIsSharedArrayBuffer (ptr : ValuePtr) : Prog Bool := valueIs .isSharedArrayBuffer ptr

/-- `ValueIsProxy(ptr)`. -/
def valueIsProxy (ptr : ValuePtr) : Prog Bool := valueIs .isProxy ptr

/-- `ValueIsWasmModuleObject(ptr)`. -/
def valueIsWasmModuleObject (ptr : ValuePtr) : Prog Bool := valueIs .isWasmModuleObject ptr

/-- `ValueIsModuleNamespaceObject(ptr)`. -/
def valueIsModuleNamespaceObject (ptr : ValuePtr) : Prog Bool := valueIs .isModuleNamespaceObject ptr

/-! ### Exception -/

/-- `ExceptionGetMessageString(ptr)`. -/
def exceptionGetMessageString (ptr : ValuePtr) : Prog (Option CBuf) := do
  let lv ← localValue ptr
  let local_str ← .v8 (.createMessage lv.value)
  let utf8 ← .v8 (.utf8Value (some local_str))
  pure utf8.copyString

end V8go
