import V8go.Model.Prog

/-!
# Source — scopes, `tracked_value` and `ExceptionError`

The pieces every entry point of `v8go.cc` is made of:

* the scope macros `ISOLATE_SCOPE`, `LOCAL_TEMPLATE`, `LOCAL_CONTEXT`, `LOCAL_VALUE`,
  `LOCAL_OBJECT` and `ISOLATE_SCOPE_INTERNAL_CONTEXT`, as programs returning the locals they
  declare;
* `trackedNewValue`, the five lines with which every entry point that returns a wrapper ends:
  `new m_value`, its three fields, `tracked_value(ctx, val)`;
* `ExceptionError`, which turns the `TryCatch` of a failed call into an `RtnError`.

A `Persistent` read with `Get(iso)` and then used is `Prog.deref`: reading a reset one gives an
empty handle, and using that is undefined behaviour.
-/

namespace V8go

/-! ### Scopes -/

/-- `ISOLATE_SCOPE(iso)`: `Locker`, `Isolate::Scope` and `HandleScope` of `iso`. -/
def isolateScope (iso : IsolatePtr) : Prog Unit := .prim (.isolateScope iso)

/-- `isolateInternalContext(iso)`: `static_cast<m_ctx*>(iso->GetData(0))`. -/
def isolateInternalContext (iso : IsolatePtr) : Prog (Option ContextPtr) := .prim (.getData iso)

/-- `ctx->ptr.Get(iso)`, used. -/
def contextHandle (ctx : ContextPtr) : Prog V8Context := do
  let m ← .prim (.getContext ctx)
  .deref m.ptr

/-- `val->ptr.Get(iso)`, used. -/
def valueHandle (val : ValuePtr) : Prog JSValue := do
  let m ← .prim (.getValue val)
  .deref m.ptr

/-- `ISOLATE_SCOPE_INTERNAL_CONTEXT(iso)`: the scope, then `m_ctx* ctx = isolateInternalContext(iso)`.
`NewIsolate` sets slot 0 before it returns the isolate; every caller but `BuiltinSymbol`'s
default branch dereferences `ctx`, so the model dereferences it here and `BuiltinSymbol` reads
the slot itself. -/
def isolateScopeInternalContext (iso : IsolatePtr) : Prog ContextPtr := do
  isolateScope iso
  let ctx ← isolateInternalContext iso
  .deref ctx

/-- The locals `LOCAL_TEMPLATE(tmpl_ptr)` declares. -/
structure LocalTemplate where
  iso : IsolatePtr
  tmpl : V8Template

/-- `LOCAL_TEMPLATE(tmpl_ptr)`. -/
def localTemplate (tmpl_ptr : TemplatePtr) : Prog LocalTemplate := do
  let t ← .prim (.getTemplate tmpl_ptr)
  isolateScope t.iso
  pure ⟨t.iso, t.ptr⟩

/-- The locals `LOCAL_CONTEXT(ctx)` declares. -/
structure LocalContext where
  iso : IsolatePtr
  localCtx : V8Context

/-- `LOCAL_CONTEXT(ctx)`. -/
def localContext (ctx : ContextPtr) : Prog LocalContext := do
  let m ← .prim (.getContext ctx)
  isolateScope m.iso
  let local_ctx ← .deref m.ptr
  pure ⟨m.iso, local_ctx⟩

/-- The locals `LOCAL_VALUE(val)` declares; `ctx` is the wrapper's context or, when it has none,
its isolate's internal context. -/
structure LocalValue where
  iso : IsolatePtr
  ctx : ContextPtr
  localCtx : V8Context
  value : JSValue

/-- `LOCAL_VALUE(val)`, and `LOCAL_OBJECT(val)`, whose `value.As<Object>()` is an unchecked cast. -/
def localValue (ptr : ValuePtr) : Prog LocalValue := do
  let val ← .prim (.getValue ptr)
  isolateScope val.iso
  let ctx ← match val.ctx with
    | some ctx => pure ctx
    | none => do .deref (← isolateInternalContext val.iso)
  let local_ctx ← contextHandle ctx
  let value ← .deref val.ptr
  pure ⟨val.iso, ctx, local_ctx, value⟩

/-! ### New wrappers -/

/-- `m_value* val = new m_value; val->iso = iso; val->ctx = ctx; val->ptr = ...(iso, v);` then
`tracked_value(ctx, val)`. -/
def trackedNewValue (iso : IsolatePtr) (ctx : ContextPtr) (v : JSValue) : Prog ValuePtr :=
  .prim (.trackedValue ctx { iso, ctx := some ctx, ptr := some v })

/-- `a[i] = v` on a stack array: past its end, undefined behaviour. -/
def storeAt {α : Type} (a : Array α) (i : Nat) (v : α) : Prog (Array α) :=
  if h : i < a.size then .pure (a.set ⟨i, h⟩ v) else .fail .undefined

/-! ### `ExceptionError` -/

/-- The message `ExceptionError` reports for a terminated execution. -/
def terminatedMessage : List UInt8 :=
  cstr "ExecutionTerminated: script execution has been terminated"

/-- The location `ExceptionError` writes to its `ostringstream`: the resource name, then
`:line` and `:column + 1` for those the message has. -/
def messageLocation (origin : Utf8Value) (msg : Message) : List UInt8 :=
  let sb := ({} : OStringStream).putCStr origin.chars
  let sb := match msg.lineNumber with
    | some line => sb.putField line
    | none => sb
  let sb := match msg.startColumn with
    | some start => sb.putField (start + 1)
    | none => sb
  sb.buf

/-- `ExceptionError(try_catch, iso, ctx)`. -/
def exceptionError (try_catch : Caught) (iso : IsolatePtr) (ctx : V8Context) : Prog RtnError := do
  isolateScope iso
  if try_catch.terminated then
    return { msg := some (copyString terminatedMessage) }
  let exception ← .v8 (.utf8Value try_catch.exception)
  let location ← match try_catch.message with
    | some msg => do
      let origin ← .v8 (.utf8Value (some msg.resourceName))
      pure (some (copyString (messageLocation origin msg)))
    | none => pure none
  let stack ← match ← .v8 (.stackTrace ctx try_catch.exception) with
    | some mstack => do
      let stack ← .v8 (.utf8Value (some mstack))
      pure stack.copyString
    | none => pure none
  return { msg := exception.copyString, location, stack }

/-! ### `RtnValue` results -/

/-- `rtn.error = ExceptionError(try_catch, iso, local_ctx); return rtn;`, `rtn` being
`{nullptr, nullptr}`. -/
def errorValue (try_catch : Caught) (iso : IsolatePtr) (local_ctx : V8Context) : Prog RtnValue := do
  let error ← exceptionError try_catch iso local_ctx
  pure { error }

/-- The end of the entry points returning an `RtnValue`: for an empty `MaybeLocal` the error its
`TryCatch` holds, and otherwise a new wrapper of the value in `ctx`,
`rtn.value = tracked_value(ctx, val); return rtn;`. -/
def rtnValue (iso : IsolatePtr) (ctx : ContextPtr) (local_ctx : V8Context) :
    Except Caught JSValue → Prog RtnValue
  | .error try_catch => errorValue try_catch iso local_ctx
  | .ok v => do
    let val ← trackedNewValue iso ctx v
    pure { value := some val }

end V8go
