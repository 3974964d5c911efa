import V8go.Source.Isolate
import V8go.Source.Value
import V8go.Source.Object
import V8go.Source.Promise

/-!
# Source — the boundary

The `extern "C"` entry points of `v8go.cc` as the calls the host can make, `Op α` for an entry
point returning `α`, with `Op.denote` the program of each.  The `ValueIsX` family is one call
`valueIs t ptr`.

`Op.handed` is what a call hands to the host in its result: the wrapper an entry point returns
as a `ValuePtr`, or as the `value` of an `RtnValue`.
-/

namespace V8go

/-- A call of an `extern "C"` entry point, with its arguments. -/
inductive Op : Type → Type where
  | init : Op Unit
  | newIsolate : Op IsolatePtr
  | isolatePerformMicrotaskCheckpoint (iso : IsolatePtr) : Op Unit
  | isolateDispose (iso : Option IsolatePtr) : Op Unit
  | isolateTerminateExecution (iso : IsolatePtr) : Op Unit
  | isolateIsExecutionTerminating (iso : IsolatePtr) : Op Bool
  | isolationGetHeapStatistics (iso : Option IsolatePtr) : Op IsolateHStatistics
  | templateFreeWrapper (tmpl : TemplatePtr) : Op Unit
  | templateSetValue (ptr : TemplatePtr) (name : CStr) (val : ValuePtr) (attributes : Int) : Op Unit
  | templateSetAnyValue (ptr : TemplatePtr) (key val : ValuePtr) (attributes : Int) : Op Bool
  | templateSetTemplate (ptr : TemplatePtr) (name : CStr) (obj : TemplatePtr) (attributes : Int) :
      Op Unit
  | templateSetAnyTemplate (ptr : TemplatePtr) (key : ValuePtr) (obj : TemplatePtr)
      (attributes : Int) : Op Bool
  | newObjectTemplate (iso : IsolatePtr) : Op TemplatePtr
  | objectTemplateNewInstance (ptr : TemplatePtr) (ctx : ContextPtr) : Op RtnValue
  | newFunctionTemplate (iso : IsolatePtr) (callback_ref : Int) : Op TemplatePtr
  | functionTemplateGetFunction (ptr : TemplatePtr) (ctx : ContextPtr) : Op RtnValue
  | newContext (iso : IsolatePtr) (global_template_ptr : Option TemplatePtr) (ref : Int) :
      Op ContextPtr
  | contextFree (ctx : Option ContextPtr) : Op Unit
  | runScript (ctx : ContextPtr) (source origin : CStr) : Op RtnValue
  | jsonParse (ctx : ContextPtr) (str : CStr) : Op RtnValue
  | jsonStringify (ctx : Option ContextPtr) (val : ValuePtr) : Op (Option CBuf)
  | contextGlobal (ctx : ContextPtr) : Op ValuePtr
  | newValueInteger (iso : IsolatePtr) (v : Int) : Op ValuePtr
  | newValueIntegerFromUnsigned (iso : IsolatePtr) (v : Nat) : Op ValuePtr
  | newValueString (iso : IsolatePtr) (v : CStr) : Op RtnValue
  | newValueNull (iso : IsolatePtr) : Op ValuePtr
  | newValueUndefined (iso : IsolatePtr) : Op ValuePtr
  | newValueBoolean (iso : IsolatePtr) (v : Int) : Op ValuePtr
  | newValueNumber (iso : IsolatePtr) (v : JSNumber) : Op ValuePtr
  | newValueBigInt (iso : IsolatePtr) (v : Int) : Op ValuePtr
  | newValueBigIntFromUnsigned (iso : IsolatePtr) (v : Nat) : Op ValuePtr
  | newValueBigIntFromWords (iso : IsolatePtr) (sign_bit word_count : Int) (words : List UInt64) :
      Op RtnValue
  | newValueError (iso : IsolatePtr) (idx : ErrorTypeIndex) (message : CStr) : Op (Option ValuePtr)
  | valueToArrayIndex (ptr : ValuePtr) : Op (Option Nat)
  | valueToBoolean (ptr : ValuePtr) : Op Bool
  | valueToInt32 (ptr : ValuePtr) : Op Int
  | valueToInteger (ptr : ValuePtr) : Op Int
  | valueToNumber (ptr : ValuePtr) : Op JSNumber
  | valueToDetailString (ptr : ValuePtr) : Op RtnString
  | valueToString (ptr : ValuePtr) : Op (Option CBuf)
  | valueToUint32 (ptr : ValuePtr) : Op Nat
  | valueToBigInt (ptr : ValuePtr) : Op ValueBigInt
  | valueToObject (ptr : ValuePtr) : Op RtnValue
  | valueSameValue (val1 val2 : ValuePtr) : Op Bool
  | valueIs (t : ValueTest) (ptr : ValuePtr) : Op Bool
  | exceptionGetMessageString (ptr : ValuePtr) : Op (Option CBuf)
  | objectSet (ptr : ValuePtr) (key : CStr) (prop_val : ValuePtr) : Op Unit
  | objectSetAnyKey (ptr key prop_val : ValuePtr) : Op Unit
  | objectSetIdx (ptr : ValuePtr) (idx : Nat) (prop_val : ValuePtr) : Op Unit
  | objectGet (ptr : ValuePtr) (key : CStr) : Op RtnValue
  | objectGetAnyKey (ptr key : ValuePtr) : Op RtnValue
  | objectGetIdx (ptr : ValuePtr) (idx : Nat) : Op RtnValue
  | objectHas (ptr : ValuePtr) (key : CStr) : Op Bool
  | objectHasAnyKey (ptr key : ValuePtr) : Op Bool
  | objectHasIdx (ptr : ValuePtr) (idx : Nat) : Op Bool
  | objectDelete (ptr : ValuePtr) (key : CStr) : Op Bool
  | objectDeleteAnyKey (ptr key : ValuePtr) : Op Bool
  | objectDeleteIdx (ptr : ValuePtr) (idx : Nat) : Op Bool
  | builtinSymbol (iso : IsolatePtr) (idx : SymbolIndex) : Op (Option ValuePtr)
  | symbolDescription (ptr : ValuePtr) : Op (Option CBuf)
  | newPromiseResolver (ctx : ContextPtr) : Op RtnValue
  | promiseResolverGetPromise (ptr : ValuePtr) : Op ValuePtr
  | promiseResolverResolve (ptr resolve_val : ValuePtr) : Op Bool
  | promiseResolverReject (ptr reject_val : ValuePtr) : Op Bool
  | promiseState (ptr : ValuePtr) : Op Nat
  | promiseThen (ptr : ValuePtr) (callback_ref : Int) : Op RtnValue
  | promiseThen2 (ptr : ValuePtr) (on_fulfilled_ref on_rejected_ref : Int) : Op RtnValue
  | promiseCatch (ptr : ValuePtr) (callback_ref : Int) : Op RtnValue
  | promiseResult (ptr : ValuePtr) : Op ValuePtr
  | functionCall (ptr recv : ValuePtr) (argc : Nat) (args : Array ValuePtr) : Op RtnValue
  | functionNewInstance (ptr : ValuePtr) (argc : Nat) (args : Array ValuePtr) : Op RtnValue
  | functionSourceMapUrl (ptr : ValuePtr) : Op ValuePtr
  | version : Op CStr
  | setFlags (flags : CStr) : Op Unit

namespace Op

/-- The program of an entry point. -/
def denote : Op α → Prog α
  | .init => V8go.init
  | .newIsolate => V8go.newIsolate
  | .isolatePerformMicrotaskCheckpoint iso => V8go.isolatePerformMicrotaskCheckpoint iso
  | .isolateDispose iso => V8go.isolateDispose iso
  | .isolateTerminateExecution iso => V8go.isolateTerminateExecution iso
  | .isolateIsExecutionTerminating iso => V8go.isolateIsExecutionTerminating iso
  | .isolationGetHeapStatistics iso => V8go.isolationGetHeapStatistics iso
  | .templateFreeWrapper tmpl => V8go.templateFreeWrapper tmpl
  | .templateSetValue ptr name val a => V8go.templateSetValue ptr name val a
  | .templateSetAnyValue ptr key val a => V8go.templateSetAnyValue ptr key val a
  | .templateSetTemplate ptr name obj a => V8go.templateSetTemplate ptr name obj a
  | .templateSetAnyTemplate ptr key obj a => V8go.templateSetAnyTemplate ptr key obj a
  | .newObjectTemplate iso => V8go.newObjectTemplate iso
  | .objectTemplateNewInstance ptr ctx => V8go.objectTemplateNewInstance ptr ctx
  | .newFunctionTemplate iso ref => V8go.newFunctionTemplate iso ref
  | .functionTemplateGetFunction ptr ctx => V8go.functionTemplateGetFunction ptr ctx
  | .newContext iso t ref => V8go.newContext iso t ref
  | .contextFree ctx => V8go.contextFree ctx
  | .runScript ctx source origin => V8go.runScript ctx source origin
  | .jsonParse ctx str => V8go.jsonParse ctx str
  | .jsonStringify ctx val => V8go.jsonStringify ctx val
  | .contextGlobal ctx => V8go.contextGlobal ctx
  | .newValueInteger iso v => V8go.newValueInteger iso v
  | .newValueIntegerFromUnsigned iso v => V8go.newValueIntegerFromUnsigned iso v
  | .newValueString iso v => V8go.newValueString iso v
  | .newValueNull iso => V8go.newValueNull iso
  | .newValueUndefined iso => V8go.newValueUndefined iso
  | .newValueBoolean iso v => V8go.newValueBoolean iso v
  | .newValueNumber iso v => V8go.newValueNumber iso v
  | .newValueBigInt iso v => V8go.newValueBigInt iso v
  | .newValueBigIntFromUnsigned iso v => V8go.newValueBigIntFromUnsigned iso v
  | .newValueBigIntFromWords iso sign_bit word_count words =>
    V8go.newValueBigIntFromWords iso sign_bit word_count words
  | .newValueError iso idx message => V8go.newValueError iso idx message
  | .valueToArrayIndex ptr => V8go.valueToArrayIndex ptr
  | .valueToBoolean ptr => V8go.valueToBoolean ptr
  | .valueToInt32 ptr => V8go.valueToInt32 ptr
  | .valueToInteger ptr => V8go.valueToInteger ptr
  | .valueToNumber ptr => V8go.valueToNumber ptr
  | .valueToDetailString ptr => V8go.valueToDetailString ptr
  | .valueToString ptr => V8go.valueToString ptr
  | .valueToUint32 ptr => V8go.valueToUint32 ptr
  | .valueToBigInt ptr => V8go.valueToBigInt ptr
  | .valueToObject ptr => V8go.valueToObject ptr
  | .valueSameValue val1 val2 => V8go.valueSameValue val1 val2
  | .valueIs t ptr => V8go.valueIs t ptr
  | .exceptionGetMessageString ptr => V8go.exceptionGetMessageString ptr
  | .objectSet ptr key v => V8go.objectSet ptr key v
  | .objectSetAnyKey ptr key v => V8go.objectSetAnyKey ptr key v
  | .objectSetIdx ptr idx v => V8go.objectSetIdx ptr idx v
  | .objectGet ptr key => V8go.objectGet ptr key
  | .objectGetAnyKey ptr key => V8go.objectGetAnyKey ptr key
  | .objectGetIdx ptr idx => V8go.objectGetIdx ptr idx
  | .objectHas ptr key => V8go.objectHas ptr key
  | .objectHasAnyKey ptr key => V8go.objectHasAnyKey ptr key
  | .objectHasIdx ptr idx => V8go.objectHasIdx ptr idx
  | .objectDelete ptr key => V8go.objectDelete ptr key
  | .objectDeleteAnyKey ptr key => V8go.objectDeleteAnyKey ptr key
  | .objectDeleteIdx ptr idx => V8go.objectDeleteIdx ptr idx
  | .builtinSymbol iso idx => V8go.builtinSymbol iso idx
  | .symbolDescription ptr => V8go.symbolDescription ptr
  | .newPromiseResolver ctx => V8go.newPromiseResolver ctx
  | .promiseResolverGetPromise ptr => V8go.promiseResolverGetPromise ptr
  | .promiseResolverResolve ptr v => V8go.promiseResolverResolve ptr v
  | .promiseResolverReject ptr v => V8go.promiseResolverReject ptr v
  | .promiseState ptr => V8go.promiseState ptr
  | .promiseThen ptr ref => V8go.promiseThen ptr ref
  | .promiseThen2 ptr f r => V8go.promiseThen2 ptr f r
  | .promiseCatch ptr ref => V8go.promiseCatch ptr ref
  | .promiseResult ptr => V8go.promiseResult ptr
  | .functionCall ptr recv argc args => V8go.functionCall ptr recv argc args
  | .functionNewInstance ptr argc args => V8go.functionNewInstance ptr argc args
  | .functionSourceMapUrl ptr => V8go.functionSourceMapUrl ptr
  | .version => V8go.version
  | .setFlags flags => V8go.setFlags flags

/-- The wrappers a call's result hands to the host. -/
def handed : Op α → α → List ValuePtr
  | .contextGlobal _, w | .newValueInteger .., w | .newValueIntegerFromUnsigned .., w
  | .newValueNull _, w | .newValueUndefined _, w | .newValueBoolean .., w
  | .newValueNumber .., w | .newValueBigInt .., w | .newValueBigIntFromUnsigned .., w
  | .promiseResolverGetPromise _, w | .promiseResult _, w | .functionSourceMapUrl _, w => [w]
  | .newValueError .., w | .builtinSymbol .., w => w.toList
  | .objectTemplateNewInstance .., r | .functionTemplateGetFunction .., r | .runScript .., r
  | .jsonParse .., r | .newValueString .., r | .newValueBigIntFromWords .., r
  | .valueToObject _, r | .objectGet .., r | .objectGetAnyKey .., r | .objectGetIdx .., r
  | .newPromiseResolver _, r | .promiseThen .., r | .promiseThen2 .., r | .promiseCatch .., r
  | .functionCall .., r | .functionNewInstance .., r => r.value.toList
  | _, _ => []

end Op

end V8go
