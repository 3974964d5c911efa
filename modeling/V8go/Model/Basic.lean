import Mathlib.Logic.Function.Basic

/-!
# Model — the data that crosses the boundary

The C side of `v8go.cc` and the values it holds of the engine, as plain data.

* Pointers (`IsolatePtr`, `ContextPtr`, `ValuePtr`, `TemplatePtr`) and the engine's own handles
  (`V8Context`, `V8Template`) are addresses: one allocator hands them all out, and an address is
  never handed out twice.  A nullable pointer argument or field is an `Option`.
* A C string argument is the list of its bytes before the terminating NUL (`CStr`); a buffer the
  bridge `malloc`s and returns is the list of its bytes, terminator included (`CBuf`).
* `copyString` and `Utf8Value.copyString` are the two `CopyString` overloads.  The second reaches
  the first through `std::string(const char*)`, which stops at the first NUL (`stringOfCStr`).
* A JavaScript value is kept as the engine would hand it over: primitives by their content,
  objects by their identity.  A Number is looked into only for the integers `Integer::New` makes.
* `Caught` is what a `TryCatch` holds after a V8 call failed: the termination flag, the exception
  (an empty handle when nothing was thrown) and its message.
-/

namespace V8go

/-- An `Isolate*`. -/
abbrev IsolatePtr := Nat
/-- An `m_ctx*`, a `ContextPtr` of the boundary. -/
abbrev ContextPtr := Nat
/-- An `m_value*`, a `ValuePtr` of the boundary. -/
abbrev ValuePtr := Nat
/-- An `m_template*`, a `TemplatePtr` of the boundary. -/
abbrev TemplatePtr := Nat
/-- A `v8::Context` in the engine's heap. -/
abbrev V8Context := Nat
/-- A `v8::Template` in the engine's heap. -/
abbrev V8Template := Nat

/-- A C string argument: its bytes before the terminating NUL. -/
abbrev CStr := List UInt8

/-- A buffer the bridge returns as `const char*`: its bytes, the terminating NUL included. -/
abbrev CBuf := List UInt8

/-! ### C strings -/

/-- `std::string(const char* p)`: the bytes of the buffer before its first NUL (`strlen`). -/
def stringOfCStr (p : List UInt8) : List UInt8 := p.takeWhile (· ≠ 0)

/-- `CopyString(std::string str)`: `malloc(len + 1)`, `memcpy` of the `len` bytes, then `0`. -/
def copyString (str : List UInt8) : CBuf := str ++ [0]

/-- A literal of the source, as the bytes of its characters. -/
def cstr (s : String) : List UInt8 := s.toList.map fun c => c.toNat.toUInt8

/-- A `String::Utf8Value`: `str` is null when the handle was empty or the conversion to a string
failed, and otherwise holds the UTF-8 bytes, followed in memory by a NUL. -/
structure Utf8Value where
  str : Option (List UInt8)
  deriving DecidableEq, Repr

/-- `value.length()`. -/
def Utf8Value.length (value : Utf8Value) : Nat :=
  match value.str with
  | some u => u.length
  | none => 0

/-- `*value`: the NUL-terminated buffer `str_` points at, or null. -/
def Utf8Value.chars (value : Utf8Value) : Option (List UInt8) := value.str.map (· ++ [0])

/-- `CopyString(String::Utf8Value& value)`: null for an empty value, otherwise
`CopyString(*value)`, where `*value` becomes a `std::string` through its `const char*`. -/
def Utf8Value.copyString (value : Utf8Value) : Option CBuf :=
  if value.length = 0 then none else value.chars.map fun p => V8go.copyString (stringOfCStr p)

/-- The decimal digits `operator<<` writes for an `int`. -/
def decimal (n : Int) : List UInt8 := cstr (toString n)

/-- A `std::ostringstream`: the bytes written so far, and whether `badbit` is set. -/
structure OStringStream where
  bad : Bool := false
  buf : List UInt8 := []
  deriving DecidableEq, Repr

/-- `sb << p` for a `const char*` `p`: a null pointer sets `badbit`; a stream in a failed state
writes nothing. -/
def OStringStream.putCStr (sb : OStringStream) (p : Option (List UInt8)) : OStringStream :=
  if sb.bad then sb else
    match p with
    | none => { sb with bad := true }
    | some p => { sb with buf := sb.buf ++ stringOfCStr p }

/-- `sb << ":" << n`. -/
def OStringStream.putField (sb : OStringStream) (n : Int) : OStringStream :=
  if sb.bad then sb else { sb with buf := sb.buf ++ cstr ":" ++ decimal n }

/-! ### JavaScript values -/

/-- A Number, as far as the bridge looks into it: an integer (what `Integer::New` makes and
`Integer::Value` reads back), or any other double, kept opaque. -/
inductive JSNumber where
  | int (k : Int)
  | other (bits : UInt64)
  deriving DecidableEq, Repr

/-- A JavaScript value behind a `Local<Value>`. -/
inductive JSValue where
  | undefined
  | null
  | boolean (b : Bool)
  | number (n : JSNumber)
  | string (units : List UInt16)
  | symbol (id : Nat)
  | bigint (i : Int)
  | object (id : Nat)
  deriving DecidableEq, Repr

/-- `Integer::New(iso, k)`. -/
def JSValue.integer (k : Int) : JSValue := .number (.int k)

/-- `v.As<Integer>()->Value()`; the cast is unchecked, so anything but an integer has no
meaning. -/
def JSValue.integerValue? : JSValue → Option Int
  | .number (.int k) => some k
  | _ => none

@[simp] theorem JSValue.integerValue?_integer (k : Int) : (JSValue.integer k).integerValue? = some k :=
  rfl

theorem JSValue.integerValue?_eq_some {v : JSValue} {k : Int} : v.integerValue? = some k ↔ v = .integer k := by
  constructor
  · intro h
    match v, h with
    | .number (.int _), rfl => rfl
  · rintro rfl; rfl

/-- A `v8::Message`, as `ExceptionError` reads it. -/
structure Message where
  resourceName : JSValue
  lineNumber : Option Int
  startColumn : Option Int
  deriving DecidableEq, Repr

/-- What a `TryCatch` holds after a call failed: `HasTerminated()`, `Exception()` (empty when the
call failed without throwing) and `Message()`. -/
structure Caught where
  terminated : Bool
  exception : Option JSValue
  message : Option Message
  deriving DecidableEq, Repr

/-! ### Records returned to the host -/

/-- `RtnError`. -/
structure RtnError where
  msg : Option CBuf := none
  location : Option CBuf := none
  stack : Option CBuf := none
  deriving DecidableEq, Repr

/-- `RtnValue`. -/
structure RtnValue where
  value : Option ValuePtr := none
  error : RtnError := {}
  deriving DecidableEq, Repr

/-- `RtnString`. -/
structure RtnString where
  string : Option CBuf := none
  error : RtnError := {}
  deriving DecidableEq, Repr

/-- `ValueBigInt`. -/
structure ValueBigInt where
  words : Option (List UInt64) := none
  wordCount : Int := 0
  signBit : Int := 0
  deriving DecidableEq, Repr

/-- `IsolateHStatistics`, the eleven counters of `v8::HeapStatistics`. -/
structure IsolateHStatistics where
  totalHeapSize : Nat := 0
  totalHeapSizeExecutable : Nat := 0
  totalPhysicalSize : Nat := 0
  totalAvailableSize : Nat := 0
  usedHeapSize : Nat := 0
  heapSizeLimit : Nat := 0
  mallocedMemory : Nat := 0
  externalMemory : Nat := 0
  peakMallocedMemory : Nat := 0
  numberOfNativeContexts : Nat := 0
  numberOfDetachedContexts : Nat := 0
  deriving DecidableEq, Repr

/-- `ErrorTypeIndex`: the cases `NewValueError` switches on, and any other value of the enum. -/
inductive ErrorTypeIndex where
  | rangeError | referenceError | syntaxError | typeError
  | wasmCompileError | wasmLinkError | wasmRuntimeError | genericError
  | other (n : Int)
  deriving DecidableEq, Repr

/-- `SymbolIndex`: the well-known symbols `BuiltinSymbol` switches on, and any other value. -/
inductive SymbolIndex where
  | asyncIterator | hasInstance | isConcatSpreadable | iterator | «match» | replace | search
  | split | toPrimitive | toStringTag | unscopables
  | other (n : Int)
  deriving DecidableEq, Repr

/-- The `Value::IsX()` predicates behind the `ValueIsX` family. -/
inductive ValueTest where
  | isUndefined | isNull | isNullOrUndefined | isTrue | isFalse | isName | isString | isSymbol
  | isFunction | isObject | isBigInt | isBoolean | isNumber | isExternal | isInt32 | isUint32
  | isDate | isArgumentsObject | isBigIntObject | isNumberObject | isStringObject
  | isSymbolObject | isNativeError | isRegExp | isAsyncFunction | isGeneratorFunction
  | isGeneratorObject | isPromise | isMap | isSet | isMapIterator | isSetIterator | isWeakMap
  | isWeakSet | isArray | isArrayBuffer | isArrayBufferView | isTypedArray | isUint8Array
  | isUint8ClampedArray | isInt8Array | isUint16Array | isInt16Array | isUint32Array
  | isInt32Array | isFloat32Array | isFloat64Array | isBigInt64Array | isBigUint64Array
  | isDataView | isSharedArrayBuffer | isProxy | isWasmModuleObject | isModuleNamespaceObject
  deriving DecidableEq, Repr

end V8go
