import V8go.Model.State

/-!
# Model — programs of the bridge

The bridge's functions are written as programs `Prog α` over three kinds of effect:

* `Prim`: an operation on the bridge's own memory (`*val`, `new m_value` with `tracked_value`,
  the body of `ContextFree`, ...) or a read of the host's context registry; `Prim.step` runs it.
  A dangling pointer makes it undefined behaviour.
* `V8Call`: a call of the V8 API, with the arguments the source passes.  The engine answers it;
  `V8Call.apply` says which answers are possible and how they change the modelled heap, and
  `V8Call.runsScript` which calls may run script and so call back into the bridge.
* `Prog.host`: the host running, inside `goFunctionCallback`.

`Prog` is a deep embedding: `bind` is a constructor, and `do` notation builds the tree.
-/

namespace V8go

/-- How a run ends without returning to its caller. -/
inductive Failure where
  /-- `ToChecked()`, `Check()` or `ToLocalChecked()` on an empty `Maybe`: V8's fatal error. -/
  | emptyMaybe
  /-- A failed check of the V8 API (`Utils::ApiCheck`), also fatal. -/
  | apiCheck
  /-- The host cannot find the context of a callback (spec §4.3: a fatal error). -/
  | hostPanic
  /-- Undefined behaviour: a dangling pointer or an empty handle dereferenced. -/
  | undefined
  deriving DecidableEq, Repr

/-- The end of a run: a result, a failure that ends the process, or a point inside a callback
where the host, running, observes the state. -/
inductive Outcome (α : Type) where
  | ret (a : α)
  | stop (e : Failure)
  | paused
  deriving DecidableEq, Repr

/-- A property key: a name (a string or a symbol) or an index. -/
inductive PropertyKey where
  | value (key : JSValue)
  | index (idx : Nat)
  deriving DecidableEq, Repr

/-- What `Template::Set` stores: a value or a template. -/
inductive TemplateValue where
  | value (v : JSValue)
  | template (t : V8Template)
  deriving DecidableEq, Repr

/-- The calls of the V8 API the bridge makes, with the arguments it passes and the type of what
they return.  `Except Caught α` is a `MaybeLocal` or `Maybe`: the error is what the call's
`TryCatch` then holds. -/
inductive V8Call : Type → Type where
  /-- `V8::InitializePlatform(default_platform.get())` and `V8::Initialize()`. -/
  | initPlatform : V8Call Unit
  | isolateNew : V8Call IsolatePtr
  | isolateDispose (iso : IsolatePtr) : V8Call Unit
  | terminateExecution (iso : IsolatePtr) : V8Call Unit
  | isExecutionTerminating (iso : IsolatePtr) : V8Call Bool
  | performMicrotaskCheckpoint (iso : IsolatePtr) : V8Call Unit
  | getHeapStatistics (iso : IsolatePtr) : V8Call IsolateHStatistics
  /-- `Context::New(iso, nullptr, global_template)`. -/
  | contextNew (iso : IsolatePtr) (globalTemplate : Option V8Template) : V8Call V8Context
  /-- `SetEmbedderData(1, Integer::New(iso, ref))`. -/
  | setEmbedderData (ctx : V8Context) (ref : Int) : V8Call Unit
  | global (ctx : V8Context) : V8Call JSValue
  | objectTemplateNew (iso : IsolatePtr) : V8Call V8Template
  /-- `FunctionTemplate::New(iso, FunctionTemplateCallback, data)`. -/
  | functionTemplateNew (iso : IsolatePtr) (data : JSValue) : V8Call V8Template
  | templateSet (tmpl : V8Template) (name : JSValue) (value : TemplateValue) (attributes : Int) :
      V8Call Unit
  | objectTemplateNewInstance (tmpl : V8Template) (ctx : V8Context) : V8Call (Except Caught JSValue)
  | functionTemplateGetFunction (tmpl : V8Template) (ctx : V8Context) :
      V8Call (Except Caught JSValue)
  | newFromUtf8 (data : CStr) : V8Call (Except Caught JSValue)
  | bigIntNewFromWords (ctx : V8Context) (signBit wordCount : Int) (words : List UInt64) :
      V8Call (Except Caught JSValue)
  /-- `Exception::RangeError(message)`, ..., by the case of `NewValueError`'s switch. -/
  | exception (idx : ErrorTypeIndex) (message : JSValue) : V8Call JSValue
  /-- `Symbol::GetIterator(iso)`, ..., by the case of `BuiltinSymbol`'s switch. -/
  | builtinSymbol (idx : SymbolIndex) : V8Call JSValue
  | toArrayIndex (ctx : V8Context) (v : JSValue) : V8Call (Except Caught Nat)
  | booleanValue (v : JSValue) : V8Call Bool
  | int32Value (ctx : V8Context) (v : JSValue) : V8Call (Except Caught Int)
  | integerValue (ctx : V8Context) (v : JSValue) : V8Call (Except Caught Int)
  | numberValue (ctx : V8Context) (v : JSValue) : V8Call (Except Caught JSNumber)
  | uint32Value (ctx : V8Context) (v : JSValue) : V8Call (Except Caught Nat)
  | toDetailString (ctx : V8Context) (v : JSValue) : V8Call (Except Caught JSValue)
  /-- `String::Utf8Value(iso, v)`; `v` may be an empty handle. -/
  | utf8Value (v : Option JSValue) : V8Call Utf8Value
  | toBigInt (ctx : V8Context) (v : JSValue) : V8Call (Except Caught JSValue)
  /-- `WordCount()` and `ToWordsArray(&sign_bit, &word_count, words)`. -/
  | toWordsArray (b : JSValue) : V8Call (Int × List UInt64)
  | toObject (ctx : V8Context) (v : JSValue) : V8Call (Except Caught JSValue)
  | sameValue (v w : JSValue) : V8Call Bool
  | test (t : ValueTest) (v : JSValue) : V8Call Bool
  /-- `Exception::CreateMessage(iso, v)->Get()`. -/
  | createMessage (v : JSValue) : V8Call JSValue
  /-- `try_catch.StackTrace(ctx)` for a `TryCatch` holding `exception`. -/
  | stackTrace (ctx : V8Context) (exception : Option JSValue) : V8Call (Option JSValue)
  | objectSet (ctx : V8Context) (obj : JSValue) (key : PropertyKey) (v : JSValue) :
      V8Call (Except Caught Bool)
  | objectGet (ctx : V8Context) (obj : JSValue) (key : PropertyKey) : V8Call (Except Caught JSValue)
  | objectHas (ctx : V8Context) (obj : JSValue) (key : PropertyKey) : V8Call (Except Caught Bool)
  | objectDelete (ctx : V8Context) (obj : JSValue) (key : PropertyKey) :
      V8Call (Except Caught Bool)
  | symbolDescription (sym : JSValue) : V8Call JSValue
  | resolverNew (ctx : V8Context) : V8Call (Except Caught JSValue)
  | resolverGetPromise (resolver : JSValue) : V8Call JSValue
  | resolverResolve (ctx : V8Context) (resolver v : JSValue) : V8Call (Except Caught Bool)
  | resolverReject (ctx : V8Context) (resolver v : JSValue) : V8Call (Except Caught Bool)
  | promiseState (promise : JSValue) : V8Call Nat
  /-- `Function::New(ctx, FunctionTemplateCallback, data)`. -/
  | functionNew (ctx : V8Context) (data : JSValue) : V8Call (Except Caught JSValue)
  | promiseThen (ctx : V8Context) (promise onFulfilled : JSValue) : V8Call (Except Caught JSValue)
  | promiseThen2 (ctx : V8Context) (promise onFulfilled onRejected : JSValue) :
      V8Call (Except Caught JSValue)
  | promiseCatch (ctx : V8Context) (promise onRejected : JSValue) : V8Call (Except Caught JSValue)
  | promiseResult (promise : JSValue) : V8Call JSValue
  /-- `fn->Call(ctx, recv, argc, argv)`, with `argv[0 .. argc)`. -/
  | functionCall (ctx : V8Context) (fn recv : JSValue) (argv : List (Option JSValue)) :
      V8Call (Except Caught JSValue)
  | functionNewInstance (ctx : V8Context) (fn : JSValue) (argv : List (Option JSValue)) :
      V8Call (Except Caught JSValue)
  | sourceMapUrl (fn : JSValue) : V8Call JSValue
  | scriptCompile (ctx : V8Context) (source origin : JSValue) : V8Call (Except Caught Nat)
  | scriptRun (ctx : V8Context) (script : Nat) : V8Call (Except Caught JSValue)
  | jsonParse (ctx : V8Context) (str : JSValue) : V8Call (Except Caught JSValue)
  | jsonStringify (ctx : V8Context) (v : JSValue) : V8Call (Except Caught JSValue)
  | version : V8Call CStr
  | setFlags (flags : CStr) : V8Call Unit

/-- The calls that may run script, and so call functions the bridge made (getters, setters,
`valueOf`, `toString`, `toJSON`, proxy traps, `then`, the script itself, microtasks). -/
def V8Call.runsScript : V8Call α → Bool
  | .performMicrotaskCheckpoint _ | .int32Value .. | .integerValue .. | .numberValue ..
  | .uint32Value .. | .toArrayIndex .. | .toBigInt .. | .utf8Value (some _) | .stackTrace ..
  | .objectSet .. | .objectGet .. | .objectHas .. | .objectDelete .. | .resolverResolve ..
  | .promiseThen .. | .promiseThen2 .. | .promiseCatch .. | .functionCall ..
  | .functionNewInstance .. | .scriptRun .. | .jsonStringify .. => true
  | _ => false

namespace State

/-- A new `v8::Isolate`. -/
def newIsolate (s : State) : State :=
  { s with next := s.next + 1, isolates := Function.update s.isolates s.next (some {}) }

/-- A new `v8::Context` of `iso`, its slot 1 unset. -/
def newV8Context (s : State) (iso : IsolatePtr) : State :=
  { s with next := s.next + 1, v8Contexts := Function.update s.v8Contexts s.next (some { iso }) }

/-- A new `v8::Template`. -/
def newV8Template (s : State) (t : TemplateRec) : State :=
  { s with next := s.next + 1, v8Templates := Function.update s.v8Templates s.next (some t) }

/-- A new function with `FunctionTemplateCallback` as its callback. -/
def newFunction (s : State) (data : JSValue) (ctx : V8Context) : State :=
  { s with next := s.next + 1, functions := Function.update s.functions s.next (some ⟨data, ctx⟩) }

end State

/-- The bytes of a string whose code units are all ASCII. -/
def asciiBytes? (units : List UInt16) : Option (List UInt8) :=
  if units.all (· < 0x80) then some (units.map UInt16.toUInt8) else none

/-- What `String::Utf8Value(iso, v)` may hold: nothing for an empty handle, the string's own bytes
for an ASCII string (the empty string included), and otherwise whatever the conversion gives. -/
def utf8Admits : Option JSValue → Utf8Value → Bool
  | none, u => u == ⟨none⟩
  | some (.string units), u =>
    match asciiBytes? units with
    | some bytes => u == ⟨some bytes⟩
    | none => true
  | some _, _ => true

/-- Every value has a conversion `utf8Admits` allows. -/
theorem exists_utf8Admits (v : Option JSValue) : ∃ u, utf8Admits v u = true := by
  match v with
  | none => exact ⟨⟨none⟩, rfl⟩
  | some (.string units) =>
    cases h : asciiBytes? units with
    | none => exact ⟨⟨none⟩, by simp [utf8Admits, h]⟩
    | some bytes => exact ⟨⟨some bytes⟩, by simp [utf8Admits, h]⟩
  | some .undefined | some .null | some (.boolean _) | some (.number _) | some (.symbol _)
  | some (.bigint _) | some (.object _) => exact ⟨⟨none⟩, rfl⟩

/-- The answers the engine may give to `c`, whatever the state.  A conversion of a BigInt to a
Number throws (`ToNumber` of a BigInt is a `TypeError`). -/
def V8Call.admits : V8Call α → α → Bool
  | .utf8Value v, u => utf8Admits v u
  | .int32Value _ (.bigint _), r => !r.toBool
  | .integerValue _ (.bigint _), r => !r.toBool
  | .numberValue _ (.bigint _), r => !r.toBool
  | .uint32Value _ (.bigint _), r => !r.toBool
  | _, _ => true

@[simp] theorem V8Call.admits_utf8Value (v : Option JSValue) (u : Utf8Value) :
    (V8Call.utf8Value v).admits u = utf8Admits v u := rfl

@[simp] theorem V8Call.admits_stackTrace (ctx : V8Context) (v : Option JSValue) (r : Option JSValue) :
    (V8Call.stackTrace ctx v).admits r = true := rfl

@[simp] theorem V8Call.runsScript_utf8Value_some (v : JSValue) :
    (V8Call.utf8Value (some v)).runsScript = true := rfl

@[simp] theorem V8Call.runsScript_stackTrace (ctx : V8Context) (v : Option JSValue) :
    (V8Call.stackTrace ctx v).runsScript = true := rfl

/-- What an admitted answer does to the modelled heap (`none`: not an answer in this state).
Calls that create isolates, contexts, templates or functions return a fresh address;
`FunctionTemplate::GetFunction` may also return the function it made before for the same
template and context.  Every other call leaves the modelled heap as it was. -/
def V8Call.effect : V8Call α → α → State → Option State
  | .isolateNew, iso, s => if iso = s.next then some s.newIsolate else none
  | .isolateDispose iso, _, s => some { s with isolates := Function.update s.isolates iso none }
  | .contextNew iso _, c, s => if c = s.next then some (s.newV8Context iso) else none
  | .setEmbedderData c ref, _, s =>
    some (match s.v8Contexts c with
      | some r =>
        { s with v8Contexts := Function.update s.v8Contexts c (some { r with slot1 := some (.integer ref) }) }
      | none => s)
  | .objectTemplateNew _, t, s => if t = s.next then some (s.newV8Template .object) else none
  | .functionTemplateNew _ data, t, s =>
    if t = s.next then some (s.newV8Template (.function data)) else none
  | .functionTemplateGetFunction t c, r, s =>
    match r, s.v8Templates t with
    | .ok (.object f), some (.function data) =>
      if f = s.next then some (s.newFunction data c)
      else if s.functions f = some ⟨data, c⟩ then some s else none
    | .ok _, _ => none
    | .error _, _ => some s
  | .functionNew c data, r, s =>
    match r with
    | .ok v => if v = .object s.next then some (s.newFunction data c) else none
    | .error _ => some s
  | _, _, s => some s

/-- The answers the engine may give to `c` in `s`, and the heap each leaves. -/
def V8Call.apply (c : V8Call α) (r : α) (s : State) : Option State :=
  if c.admits r then c.effect r s else none

/-- The entries `0 .. argsCount` of `thisAndArgs`, as the host reads them; an entry never written
is an indeterminate pointer. -/
def handedArgs (thisAndArgs : Array (Option ValuePtr)) (argsCount : Nat) : Option (List ValuePtr) :=
  if thisAndArgs.size = argsCount + 1 then thisAndArgs.toList.mapM id else none

/-- Operations on the bridge's memory, and the host's context registry. -/
inductive Prim : Type → Type where
  /-- `*val`. -/
  | getValue (val : ValuePtr) : Prim MValue
  /-- `*ctx`. -/
  | getContext (ctx : ContextPtr) : Prim MCtx
  /-- `*tmpl`. -/
  | getTemplate (tmpl : TemplatePtr) : Prim MTemplate
  /-- `Locker locker(iso); Isolate::Scope isolate_scope(iso); HandleScope handle_scope(iso);`. -/
  | isolateScope (iso : IsolatePtr) : Prim Unit
  /-- `static_cast<m_ctx*>(iso->GetData(0))`. -/
  | getData (iso : IsolatePtr) : Prim (Option ContextPtr)
  /-- `iso->SetData(0, ctx)`. -/
  | setData (iso : IsolatePtr) (ctx : ContextPtr) : Prim Unit
  /-- `new m_ctx` with the fields `ctx`. -/
  | newContext (ctx : MCtx) : Prim ContextPtr
  /-- `new m_template` with the fields `tmpl`. -/
  | newTemplate (tmpl : MTemplate) : Prim TemplatePtr
  /-- `tmpl->ptr.Empty(); delete tmpl;`. -/
  | deleteTemplate (tmpl : TemplatePtr) : Prim Unit
  /-- `m_value* val = new m_value;`, its fields set to `val`, then `tracked_value(ctx, val)`:
  the source always does these together, with no V8 call in between. -/
  | trackedValue (ctx : ContextPtr) (val : MValue) : Prim ValuePtr
  /-- The body of `ContextFree` on a non-null `ctx`. -/
  | freeContext (ctx : ContextPtr) : Prim Unit
  /-- `ctx->GetEmbedderData(1)`. -/
  | embedderData (ctx : V8Context) : Prim JSValue
  /-- `goContext(ref)`. -/
  | goContext (ref : Int) : Prim ContextPtr
  /-- The host receives `goFunctionCallback(ctxRef, callbackRef, thisAndArgs, argsCount)`. -/
  | dispatch (ctxRef callbackRef : Int) (thisAndArgs : Array (Option ValuePtr)) (argsCount : Nat) :
      Prim Unit

/-- One primitive operation. -/
def Prim.step : Prim α → State → Except Failure (α × State)
  | .getValue val, s =>
    match s.values val with
    | some v => .ok (v, s)
    | none => .error .undefined
  | .getContext ctx, s =>
    match s.contexts ctx with
    | some m => .ok (m, s)
    | none => .error .undefined
  | .getTemplate tmpl, s =>
    match s.templates tmpl with
    | some t => .ok (t, s)
    | none => .error .undefined
  | .isolateScope iso, s =>
    match s.isolates iso with
    | some _ => .ok ((), s)
    | none => .error .undefined
  | .getData iso, s =>
    match s.isolates iso with
    | some r => .ok (r.data0, s)
    | none => .error .undefined
  | .setData iso ctx, s =>
    match s.isolates iso with
    | some r => .ok ((), { s with isolates := Function.update s.isolates iso (some { r with data0 := some ctx }) })
    | none => .error .undefined
  | .newContext m, s => .ok (s.newContext m)
  | .newTemplate t, s => .ok (s.newTemplate t)
  | .deleteTemplate tmpl, s =>
    match s.templates tmpl with
    | some _ => .ok ((), { s with templates := Function.update s.templates tmpl none })
    | none => .error .undefined
  | .trackedValue ctx val, s =>
    match s.trackedValue ctx val with
    | some r => .ok r
    | none => .error .undefined
  | .freeContext ctx, s =>
    match s.freeContext ctx with
    | some s' => .ok ((), s')
    | none => .error .undefined
  | .embedderData ctx, s =>
    match (s.v8Contexts ctx).bind ContextRec.slot1 with
    | some v => .ok (v, s)
    | none => .error .apiCheck
  | .goContext ref, s =>
    match s.goContext ref with
    | some ctx => .ok (ctx, s)
    | none => .error .hostPanic
  | .dispatch ctxRef callbackRef thisAndArgs argsCount, s =>
    match handedArgs thisAndArgs argsCount with
    | some ws => .ok ((), { s with log := s.log ++ [.call ctxRef callbackRef ws argsCount] })
    | none => .error .undefined

theorem Prim.trackedValue_step {ctx : ContextPtr} {val : MValue} {s s' : State} {w : ValuePtr}
    (h : (Prim.trackedValue ctx val).step s = .ok (w, s')) : s.trackedValue ctx val = some (w, s') := by
  simp only [Prim.step] at h
  split at h <;> cases h
  assumption

theorem Prim.freeContext_step {ctx : ContextPtr} {s s' : State} {u : Unit}
    (h : (Prim.freeContext ctx).step s = .ok (u, s')) : s.freeContext ctx = some s' := by
  simp only [Prim.step] at h
  split at h <;> cases h
  assumption

/-- A program of the bridge. -/
inductive Prog : Type → Type 1 where
  | pure {α : Type} (a : α) : Prog α
  | bind {α β : Type} (p : Prog α) (f : α → Prog β) : Prog β
  | prim {α : Type} (p : Prim α) : Prog α
  | v8 {α : Type} (c : V8Call α) : Prog α
  /-- A failure that ends the process. -/
  | fail {α : Type} (e : Failure) : Prog α
  /-- The host, inside `goFunctionCallback`: it makes boundary calls, then returns a wrapper or
  null. -/
  | host : Prog (Option ValuePtr)

instance : Monad Prog where
  pure := Prog.pure
  bind := Prog.bind

namespace Prog

@[simp] theorem pure_eq (a : α) : (Pure.pure a : Prog α) = Prog.pure a := rfl

@[simp] theorem bind_eq (p : Prog α) (f : α → Prog β) : (p >>= f) = Prog.bind p f := rfl

/-- `ToChecked()`, `Check()`, `ToLocalChecked()`: the value, or V8's fatal error. -/
def toChecked : Except Caught α → Prog α
  | .ok a => .pure a
  | .error _ => .fail .emptyMaybe

/-- A read through a pointer or handle that may be empty (`p.Get(iso)` of a reset `Persistent`, a
`Local` never assigned): an empty one is undefined behaviour. -/
def deref : Option α → Prog α
  | some a => .pure a
  | none => .fail .undefined

end Prog

end V8go
