import V8go.Model.Basic

/-!
# Model — the state of the bridge

The records `v8go.cc` allocates (`m_ctx`, `m_value`, `m_template`), the part of the engine's heap
the bridge's behaviour depends on, and a ghost log.

* An isolate keeps, in its data slot 0, the `m_ctx` of its internal context (`NewIsolate`).
* A `v8::Context` keeps its isolate and its embedder data slot 1, where `NewContext` stamps the
  host's identity for the context.
* `functions` records the JavaScript functions the bridge creates with `FunctionTemplateCallback`
  as their callback (`Function::New`, `FunctionTemplate::GetFunction`): their callback data and
  the context they were created in, which is the current context whenever the engine calls them.
* The log is not part of the program: it records what the host is handed (`call`, `handOver`),
  what `tracked_value` registers (`track`) and what `ContextFree` releases (`reset`, `delete`).

The registry operations are `State.trackedValue` (`new m_value` and `tracked_value`) and
`State.freeContext` (the body of `ContextFree`).  `State.goContext` is the host's context registry.
-/

namespace V8go

/-- `struct m_ctx`. -/
structure MCtx where
  iso : IsolatePtr
  vals : List ValuePtr
  /-- `Persistent<Context> ptr`: `none` once `Reset`. -/
  ptr : Option V8Context
  deriving DecidableEq, Repr

/-- `struct m_value`. -/
structure MValue where
  iso : IsolatePtr
  ctx : Option ContextPtr
  /-- `Persistent<Value, CopyablePersistentTraits<Value>> ptr`: `none` once `Reset`. -/
  ptr : Option JSValue
  deriving DecidableEq, Repr

/-- `struct m_template`. -/
structure MTemplate where
  iso : IsolatePtr
  ptr : V8Template
  deriving DecidableEq, Repr

/-- A live `v8::Isolate`: its data slot 0 (`IsolateDispose` removes the isolate). -/
structure IsolateRec where
  data0 : Option ContextPtr := none
  deriving DecidableEq, Repr

/-- A `v8::Context`: its isolate and its embedder data slot 1. -/
structure ContextRec where
  iso : IsolatePtr
  slot1 : Option JSValue := none
  deriving DecidableEq, Repr

/-- A `v8::Template`: an object template, or a function template with its callback data. -/
inductive TemplateRec where
  | object
  | function (data : JSValue)
  deriving DecidableEq, Repr

/-- A function whose callback is `FunctionTemplateCallback`: its `info.Data()` and its creation
context, which V8 enters whenever it calls the function. -/
structure BridgeFunction where
  data : JSValue
  context : V8Context
  deriving DecidableEq, Repr

/-- What the ghost log records. -/
inductive Event where
  /-- `tracked_value(ctx, val)`. -/
  | track (ctx : ContextPtr) (val : ValuePtr)
  /-- `goFunctionCallback(ctxRef, callbackRef, thisAndArgs, argsCount)`: the host receives the
  entries `thisAndArgs[0 .. argsCount]`. -/
  | call (ctxRef callbackRef : Int) (thisAndArgs : List ValuePtr) (argsCount : Nat)
  /-- The host receives `val` as a boundary call's result. -/
  | handOver (val : ValuePtr)
  /-- `val->ptr.Reset()` in `ContextFree`. -/
  | reset (val : ValuePtr)
  /-- `delete val` in `ContextFree`. -/
  | delete (val : ValuePtr)
  deriving DecidableEq, Repr

/-- The bridge's memory, the engine's heap as the bridge sees it, and the ghost log. -/
structure State where
  /-- Every address below `next` has been handed out; none is handed out twice. -/
  next : Nat := 0
  isolates : IsolatePtr → Option IsolateRec := fun _ => none
  contexts : ContextPtr → Option MCtx := fun _ => none
  values : ValuePtr → Option MValue := fun _ => none
  templates : TemplatePtr → Option MTemplate := fun _ => none
  v8Contexts : V8Context → Option ContextRec := fun _ => none
  v8Templates : V8Template → Option TemplateRec := fun _ => none
  functions : Nat → Option BridgeFunction := fun _ => none
  log : List Event := []

namespace State

/-- The state before `Init()`. -/
def init : State := {}

/-- Appends the hand-over of `ws` to the log. -/
def handOver (s : State) (ws : List ValuePtr) : State :=
  { s with log := s.log ++ ws.map .handOver }

/-- `new m_value` with the fields `val`, then `tracked_value(ctx, val)`: `ctx->vals.push_back`.
Both go through `ctx`, so a freed `ctx` is undefined behaviour (`none`). -/
def trackedValue (s : State) (ctx : ContextPtr) (val : MValue) : Option (ValuePtr × State) :=
  (s.contexts ctx).map fun m =>
    (s.next, { s with
      next := s.next + 1
      values := Function.update s.values s.next (some val)
      contexts := Function.update s.contexts ctx (some { m with vals := m.vals ++ [s.next] })
      log := s.log ++ [.track ctx s.next] })

/-- The loop of `ContextFree`: `for (m_value* val : ctx->vals) { val->ptr.Reset(); delete val; }`.
A wrapper already deleted makes it undefined behaviour (`none`). -/
def releaseValues : List ValuePtr → State → Option State
  | [], s => some s
  | val :: vals, s =>
    match s.values val with
    | none => none
    | some _ =>
      releaseValues vals { s with
        values := Function.update s.values val none
        log := s.log ++ [.reset val, .delete val] }

/-- The body of `ContextFree` on a non-null `ctx`: `ctx->ptr.Reset()`, the loop over
`ctx->vals`, then `delete ctx`. -/
def freeContext (s : State) (ctx : ContextPtr) : Option State :=
  (s.contexts ctx).bind fun m =>
    (releaseValues m.vals { s with contexts := Function.update s.contexts ctx (some { m with ptr := none }) }).map
      fun s' => { s' with contexts := Function.update s'.contexts ctx none }

/-- `new m_ctx` with the fields `m`. -/
def newContext (s : State) (m : MCtx) : ContextPtr × State :=
  (s.next, { s with next := s.next + 1, contexts := Function.update s.contexts s.next (some m) })

/-- `new m_template` with the fields `t`. -/
def newTemplate (s : State) (t : MTemplate) : TemplatePtr × State :=
  (s.next, { s with next := s.next + 1, templates := Function.update s.templates s.next (some t) })

/-- `ctx` is the `m_ctx` stamped `ref`: it is allocated and its `v8::Context` holds `ref` in slot 1. -/
def stampedWith (s : State) (ref : Int) (ctx : ContextPtr) : Bool :=
  match s.contexts ctx with
  | some m =>
    match m.ptr with
    | some lc => decide ((s.v8Contexts lc).bind ContextRec.slot1 = some (.integer ref))
    | none => false
  | none => false

/-- Modelled from the spec: `goContext(ref)`, the host's context registry (Go code, not under
src/).  It maps the identity `NewContext` stamped on a context to the `m_ctx` it returned, while
that context is open; the spec (§4.3) makes a context it cannot find a fatal error. -/
def goContext (s : State) (ref : Int) : Option ContextPtr :=
  (List.range s.next).find? (s.stampedWith ref)

/-- The `m_ctx` that is the internal context of some isolate (its data slot 0). -/
def IsInternal (s : State) (ctx : ContextPtr) : Prop :=
  ∃ iso r, s.isolates iso = some r ∧ r.data0 = some ctx

/-- The wrappers in `log`'s hand-over events, in order. -/
def handed : List Event → List ValuePtr
  | [] => []
  | .call _ _ ws _ :: es => ws ++ handed es
  | .handOver w :: es => w :: handed es
  | _ :: es => handed es

/-- The wrappers in `log`'s `track` events, in order. -/
def tracked : List Event → List ValuePtr
  | [] => []
  | .track _ w :: es => w :: tracked es
  | _ :: es => tracked es

@[simp] theorem handOver_log (s : State) (ws : List ValuePtr) :
    (s.handOver ws).log = s.log ++ ws.map .handOver := rfl

@[simp] theorem handOver_values (s : State) (ws : List ValuePtr) :
    (s.handOver ws).values = s.values := rfl

@[simp] theorem handOver_contexts (s : State) (ws : List ValuePtr) :
    (s.handOver ws).contexts = s.contexts := rfl

@[simp] theorem handOver_next (s : State) (ws : List ValuePtr) :
    (s.handOver ws).next = s.next := rfl

@[simp] theorem handOver_isolates (s : State) (ws : List ValuePtr) :
    (s.handOver ws).isolates = s.isolates := rfl

@[simp] theorem handed_nil : handed [] = [] := rfl

@[simp] theorem tracked_nil : tracked [] = [] := rfl

@[simp] theorem handed_append (l₁ l₂ : List Event) : handed (l₁ ++ l₂) = handed l₁ ++ handed l₂ := by
  induction l₁ with
  | nil => rfl
  | cons e es ih => cases e <;> simp [handed, ih, List.append_assoc]

@[simp] theorem tracked_append (l₁ l₂ : List Event) : tracked (l₁ ++ l₂) = tracked l₁ ++ tracked l₂ := by
  induction l₁ with
  | nil => rfl
  | cons e es ih => cases e <;> simp [tracked, ih]

@[simp] theorem handed_handOver (ws : List ValuePtr) : handed (ws.map .handOver) = ws := by
  induction ws with
  | nil => rfl
  | cons w ws ih => simp [handed, ih]

@[simp] theorem tracked_handOver (ws : List ValuePtr) : tracked (ws.map .handOver) = [] := by
  induction ws with
  | nil => rfl
  | cons w ws ih => simp [tracked, ih]

end State

end V8go
