import V8go.Source.Context

/-!
# Source — isolates, templates and the callback bridge

The `Isolate`, `Template`, `ObjectTemplate` and `FunctionTemplate` sections of `v8go.cc`.

`NewIsolate` creates, besides the isolate, its internal context, kept in the isolate's data slot
0; the internal context is never stamped.  `FunctionTemplateCallback` is the callback of every
function the bridge makes: it recovers the host's context from slot 1 of the current context,
wraps the receiver and the arguments into that context, and calls `goFunctionCallback`.
-/

namespace V8go

/-! ### Isolate -/

/-- `Init()`. -/
def init : Prog Unit := .v8 .initPlatform

/-- `NewIsolate()`: the isolate, and its internal context in data slot 0. -/
def newIsolate : Prog IsolatePtr := do
  let iso ← .v8 .isolateNew
  isolateScope iso
  let local_ctx ← .v8 (.contextNew iso none)
  let ctx ← .prim (.newContext { iso, vals := [], ptr := some local_ctx })
  .prim (.setData iso ctx)
  pure iso

/-- `IsolatePerformMicrotaskCheckpoint(iso)`. -/
def isolatePerformMicrotaskCheckpoint (iso : IsolatePtr) : Prog Unit := do
  isolateScope iso
  .v8 (.performMicrotaskCheckpoint iso)

/-- `IsolateDispose(iso)`: nothing for a null `iso`; otherwise `ContextFree` of the internal
context, then `iso->Dispose()`. -/
def isolateDispose (iso : Option IsolatePtr) : Prog Unit :=
  match iso with
  | some iso => do
    let ctx ← isolateInternalContext iso
    contextFree ctx
    .v8 (.isolateDispose iso)
  | none => pure ()

/-- `IsolateTerminateExecution(iso)`. -/
def isolateTerminateExecution (iso : IsolatePtr) : Prog Unit := .v8 (.terminateExecution iso)

/-- `IsolateIsExecutionTerminating(iso)`. -/
def isolateIsExecutionTerminating (iso : IsolatePtr) : Prog Bool :=
  .v8 (.isExecutionTerminating iso)

/-- `IsolationGetHeapStatistics(iso)`: all zero for a null `iso`. -/
def isolationGetHeapStatistics (iso : Option IsolatePtr) : Prog IsolateHStatistics :=
  match iso with
  | some iso => .v8 (.getHeapStatistics iso)
  | none => pure {}

/-! ### Template -/

/-- `tmpl->ptr.Get(iso)` of another template. -/
def templateHandle (tmpl : TemplatePtr) : Prog V8Template := do
  let t ← .prim (.getTemplate tmpl)
  pure t.ptr

/-- `TemplateFreeWrapper(tmpl)`: `tmpl->ptr.Empty(); delete tmpl;`. -/
def templateFreeWrapper (tmpl : TemplatePtr) : Prog Unit := .prim (.deleteTemplate tmpl)

/-- `TemplateSetValue` and `TemplateSetTemplate`: the property name made with `ToLocalChecked()`,
then `tmpl->Set(prop_name, value, attributes)`. -/
def templateSetNamed (ptr : TemplatePtr) (name : CStr) (value : Prog TemplateValue)
    (attributes : Int) : Prog Unit := do
  let lt ← localTemplate ptr
  let prop_name ← .toChecked (← .v8 (.newFromUtf8 name))
  let v ← value
  .v8 (.templateSet lt.tmpl prop_name v attributes)

/-- `TemplateSetAnyValue` and `TemplateSetAnyTemplate`: `false` for a key that is not a name,
otherwise `tmpl->Set(key, value, attributes)` and `true`. -/
def templateSetAny (ptr : TemplatePtr) (key : ValuePtr) (value : Prog TemplateValue)
    (attributes : Int) : Prog Bool := do
  let lt ← localTemplate ptr
  let local_key ← valueHandle key
  if !(← .v8 (.test .isName local_key)) then
    return false
  let v ← value
  .v8 (.templateSet lt.tmpl local_key v attributes)
  return true

/-- `TemplateSetValue(ptr, name, val, attributes)`. -/
def templateSetValue (ptr : TemplatePtr) (name : CStr) (val : ValuePtr) (attributes : Int) :
    Prog Unit :=
  templateSetNamed ptr name (do pure (.value (← valueHandle val))) attributes

/-- `TemplateSetAnyValue(ptr, key, val, attributes)`. -/
def templateSetAnyValue (ptr : TemplatePtr) (key val : ValuePtr) (attributes : Int) : Prog Bool :=
  templateSetAny ptr key (do pure (.value (← valueHandle val))) attributes

/-- `TemplateSetTemplate(ptr, name, obj, attributes)`. -/
def templateSetTemplate (ptr : TemplatePtr) (name : CStr) (obj : TemplatePtr) (attributes : Int) :
    Prog Unit :=
  templateSetNamed ptr name (do pure (.template (← templateHandle obj))) attributes

/-- `TemplateSetAnyTemplate(ptr, key, obj, attributes)`. -/
def templateSetAnyTemplate (ptr : TemplatePtr) (key : ValuePtr) (obj : TemplatePtr)
    (attributes : Int) : Prog Bool :=
  templateSetAny ptr key (do pure (.template (← templateHandle obj))) attributes

/-! ### ObjectTemplate -/

/-- `NewObjectTemplate(iso)`. -/
def newObjectTemplate (iso : IsolatePtr) : Prog TemplatePtr := do
  isolateScope iso
  let t ← .v8 (.objectTemplateNew iso)
  .prim (.newTemplate { iso, ptr := t })

/-- `ObjectTemplateNewInstance(ptr, ctx)`. -/
def objectTemplateNewInstance (ptr : TemplatePtr) (ctx : ContextPtr) : Prog RtnValue := do
  let lt ← localTemplate ptr
  let local_ctx ← contextHandle ctx
  let obj ← .v8 (.objectTemplateNewInstance lt.tmpl local_ctx)
  rtnValue lt.iso ctx local_ctx obj

/-! ### FunctionTemplate -/

/-- What `FunctionTemplateCallback` reads of its `FunctionCallbackInfo`: the isolate, the current
context (the one the called function was created in), `Data()`, `This()` and the arguments
`info[0 .. Length())`. -/
structure FunctionCallbackInfo where
  iso : IsolatePtr
  context : V8Context
  data : JSValue
  this : JSValue
  args : List JSValue
  deriving DecidableEq, Repr

/-- The loop of `FunctionTemplateCallback`, for the indices `is`: `args[i] = tracked_value(ctx, val)`
for a new wrapper `val` of `info[i]`, where `args = thisAndArgs + 1`. -/
def wrapArgs (iso : IsolatePtr) (ctx : ContextPtr) (info : FunctionCallbackInfo) :
    List Nat → Array (Option ValuePtr) → Prog (Array (Option ValuePtr))
  | [], thisAndArgs => pure thisAndArgs
  | i :: is, thisAndArgs => do
    let val ← trackedNewValue iso ctx (info.args.getD i .undefined)
    let thisAndArgs ← storeAt thisAndArgs (1 + i) (some val)
    wrapArgs iso ctx info is thisAndArgs

/-- `FunctionTemplateCallback(info)`; it returns what `info.GetReturnValue()` is set to.  The
array `thisAndArgs` starts indeterminate (`none`); `ReturnValue::Set` of an empty handle sets
`undefined`. -/
def functionTemplateCallback (info : FunctionCallbackInfo) : Prog JSValue := do
  let iso := info.iso
  isolateScope iso
  let local_ctx := info.context
  let slot ← .prim (.embedderData local_ctx)
  let ctx_ref ← .deref slot.integerValue?
  let ctx ← .prim (.goContext ctx_ref)
  let callback_ref ← .deref info.data.integerValue?
  let _this ← trackedNewValue iso ctx info.this
  let args_count := info.args.length
  let thisAndArgs ← storeAt (mkArray (args_count + 1) none) 0 (some _this)
  let thisAndArgs ← wrapArgs iso ctx info (List.range args_count) thisAndArgs
  .prim (.dispatch ctx_ref callback_ref thisAndArgs args_count)
  match ← .host with
  | some val => do
    let m ← .prim (.getValue val)
    pure (m.ptr.getD .undefined)
  | none => pure .undefined

/-- `NewFunctionTemplate(iso, callback_ref)`: the callback data is `Integer::New(iso, callback_ref)`. -/
def newFunctionTemplate (iso : IsolatePtr) (callback_ref : Int) : Prog TemplatePtr := do
  isolateScope iso
  let cbData := JSValue.integer callback_ref
  let t ← .v8 (.functionTemplateNew iso cbData)
  .prim (.newTemplate { iso, ptr := t })

/-- `FunctionTemplateGetFunction(ptr, ctx)`. -/
def functionTemplateGetFunction (ptr : TemplatePtr) (ctx : ContextPtr) : Prog RtnValue := do
  let lt ← localTemplate ptr
  let local_ctx ← contextHandle ctx
  let fn ← .v8 (.functionTemplateGetFunction lt.tmpl local_ctx)
  rtnValue lt.iso ctx local_ctx fn

end V8go
