import V8go.Source.Core

/-!
# Source — promises and functions

The `Promise`, `Function` and `v8::V8` sections of `v8go.cc`.  `PromiseThen`, `PromiseThen2` and
`PromiseCatch` make their handlers with `Function::New(local_ctx, FunctionTemplateCallback, data)`
in the context `LOCAL_VALUE` chose, which is the isolate's internal context for a wrapper made
there.  `FunctionCall` and `FunctionNewInstance` copy their arguments with `buildCallArguments`.
-/

namespace V8go

/-! ### Promise -/

/-- `NewPromiseResolver(ctx)`. -/
def newPromiseResolver (ctx : ContextPtr) : Prog RtnValue := do
  let lc ← localContext ctx
  let resolver ← .v8 (.resolverNew lc.localCtx)
  rtnValue lc.iso ctx lc.localCtx resolver

/-- `PromiseResolverGetPromise(ptr)`. -/
def promiseResolverGetPromise (ptr : ValuePtr) : Prog ValuePtr := do
  let lv ← localValue ptr
  let promise ← .v8 (.resolverGetPromise lv.value)
  trackedNewValue lv.iso lv.ctx promise

/-- `PromiseResolverResolve` and `PromiseResolverReject`: `resolver->Resolve(local_ctx, v)`, or
`Reject`, then `ToChecked()`. -/
def promiseResolverSettle (settle : V8Context → JSValue → JSValue → V8Call (Except Caught Bool))
    (ptr val : ValuePtr) : Prog Bool := do
  let lv ← localValue ptr
  let v ← valueHandle val
  .toChecked (← .v8 (settle lv.localCtx lv.value v))

/-- `PromiseResolverResolve(ptr, resolve_val)`. -/
def promiseResolverResolve (ptr resolve_val : ValuePtr) : Prog Bool :=
  promiseResolverSettle .resolverResolve ptr resolve_val

/-- `PromiseResolverReject(ptr, reject_val)`. -/
def promiseResolverReject (ptr reject_val : ValuePtr) : Prog Bool :=
  promiseResolverSettle .resolverReject ptr reject_val

/-- `PromiseState(ptr)`. -/
def promiseState (ptr : ValuePtr) : Prog Nat := do
  let lv ← localValue ptr
  .v8 (.promiseState lv.value)

/-- `PromiseThen(ptr, callback_ref)`. -/
def promiseThen (ptr : ValuePtr) (callback_ref : Int) : Prog RtnValue := do
  let lv ← localValue ptr
  let cbData := JSValue.integer callback_ref
  match ← .v8 (.functionNew lv.localCtx cbData) with
  | .error try_catch => errorValue try_catch lv.iso lv.localCtx
  | .ok func => do
    let result ← .v8 (.promiseThen lv.localCtx lv.value func)
    rtnValue lv.iso lv.ctx lv.localCtx result

/-- `PromiseThen2(ptr, on_fulfilled_ref, on_rejected_ref)`. -/
def promiseThen2 (ptr : ValuePtr) (on_fulfilled_ref on_rejected_ref : Int) : Prog RtnValue := do
  let lv ← localValue ptr
  let onFulfilledData := JSValue.integer on_fulfilled_ref
  match ← .v8 (.functionNew lv.localCtx onFulfilledData) with
  | .error try_catch => errorValue try_catch lv.iso lv.localCtx
  | .ok onFulfilledFunc => do
    let onRejectedData := JSValue.integer on_rejected_ref
    match ← .v8 (.functionNew lv.localCtx onRejectedData) with
    | .error try_catch => errorValue try_catch lv.iso lv.localCtx
    | .ok onRejectedFunc => do
      let result ← .v8 (.promiseThen2 lv.localCtx lv.value onFulfilledFunc onRejectedFunc)
      rtnValue lv.iso lv.ctx lv.localCtx result

/-- `PromiseCatch(ptr, callback_ref)`. -/
def promiseCatch (ptr : ValuePtr) (callback_ref : Int) : Prog RtnValue := do
  let lv ← localValue ptr
  let cbData := JSValue.integer callback_ref
  match ← .v8 (.functionNew lv.localCtx cbData) with
  | .error try_catch => errorValue try_catch lv.iso lv.localCtx
  | .ok func => do
    let result ← .v8 (.promiseCatch lv.localCtx lv.value func)
    rtnValue lv.iso lv.ctx lv.localCtx result

/-- `PromiseResult(ptr)`. -/
def promiseResult (ptr : ValuePtr) : Prog ValuePtr := do
  let lv ← localValue ptr
  let result ← .v8 (.promiseResult lv.value)
  trackedNewValue lv.iso lv.ctx result

/-! ### Function -/

/-- The loop of `buildCallArguments`, for the indices `is`: `argv[i] = args[i]->ptr.Get(iso)`. -/
def buildCallArgumentsLoop (args : Array ValuePtr) :
    List Nat → Array (Option JSValue) → Prog (Array (Option JSValue))
  | [], argv => pure argv
  | i :: is, argv => do
    let arg ← .deref args[i]?
    let v ← valueHandle arg
    let argv ← storeAt argv i (some v)
    buildCallArgumentsLoop args is argv

/-- `buildCallArguments(iso, argv, argc, args)`: `argv[i]` for every `i < argc`. -/
def buildCallArguments (argv : Array (Option JSValue)) (argc : Nat) (args : Array ValuePtr) :
    Prog (Array (Option JSValue)) :=
  buildCallArgumentsLoop args (List.range argc) argv

/-- `FunctionCall(ptr, recv, argc, args)`; `Local<Value> argv[argc]` starts with empty handles. -/
def functionCall (ptr recv : ValuePtr) (argc : Nat) (args : Array ValuePtr) : Prog RtnValue := do
  let lv ← localValue ptr
  let fn := lv.value
  let argv ← buildCallArguments (mkArray argc none) argc args
  let local_recv ← valueHandle recv
  let result ← .v8 (.functionCall lv.localCtx fn local_recv argv.toList)
  rtnValue lv.iso lv.ctx lv.localCtx result

/-- `FunctionNewInstance(ptr, argc, args)`. -/
def functionNewInstance (ptr : ValuePtr) (argc : Nat) (args : Array ValuePtr) : Prog RtnValue := do
  let lv ← localValue ptr
  let fn := lv.value
  let argv ← buildCallArguments (mkArray argc none) argc args
  let result ← .v8 (.functionNewInstance lv.localCtx fn argv.toList)
  rtnValue lv.iso lv.ctx lv.localCtx result

/-- `FunctionSourceMapUrl(ptr)`. -/
def functionSourceMapUrl (ptr : ValuePtr) : Prog ValuePtr := do
  let lv ← localValue ptr
  let result ← .v8 (.sourceMapUrl lv.value)
  trackedNewValue lv.iso lv.ctx result

/-! ### v8::V8 -/

/-- `Version()`. -/
def version : Prog CStr := .v8 .version

/-- `SetFlags(flags)`. -/
def setFlags (flags : CStr) : Prog Unit := .v8 (.setFlags flags)

end V8go
