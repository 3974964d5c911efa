import V8go.Registry.Ownership

/-!
# Safety — every record holds its handle

`v8go.cc` reads the `Persistent` of a wrapper or a context and uses it (`val->ptr.Get(iso)`), and
it casts two values to `Integer` without a check: slot 1 of the current context and the data of
the function being called (`FunctionTemplateCallback`).  `Healthy` is the invariant that makes
these reads safe:

* every live wrapper and every live context holds its handle: `ContextFree` resets only the
  handles of what it deletes;
* slot 1 of every context is unset or an `Integer` (`NewContext` sets `Integer::New(iso, ref)`);
* every function the bridge made, and every function template, has an `Integer` as its data;
* no function is at or above `next`.

Not every step the semantics allows keeps `Healthy`: a `new m_value` without a handle would break
it.  The steps of the bridge's own programs do, because those programs are `Tidy`: a new wrapper or
`m_ctx` holds a handle, and `Function::New` and `FunctionTemplate::New` are given an `Integer`
(`Op.denote_tidy`, `functionTemplateCallback_tidy`).  `Prog.Every` lifts such a property of
primitives and V8 calls to programs; the entry points are moreover `Prog.Entry`: none of them
dispatches to `goFunctionCallback` or reaches the host (`Op.denote_entry`).  `Run.keeps` carries
a property every tidy step keeps along every run, the nested callbacks and host calls included,
and `Reachable.healthy` concludes that every reachable state is `Healthy`.
-/

namespace V8go

/-! ### Programs every step of which has a property -/

/-- Every primitive `p` can reach, whatever the answers, satisfies `P`, every V8 call it can make
satisfies `V`, and it reaches the host only if `H`. -/
def Prog.Every (P : {α : Type} → Prim α → Prop) (V : {α : Type} → V8Call α → Prop) (H : Prop) :
    {α : Type} → Prog α → Prop
  | _, .pure _ => True
  | _, .bind p f => p.Every P V H ∧ ∀ a, (f a).Every P V H
  | _, .prim p => P p
  | _, .v8 c => V c
  | _, .fail _ => True
  | _, .host => H

namespace Prog

variable {α β : Type} {P P' : {α : Type} → Prim α → Prop} {V V' : {α : Type} → V8Call α → Prop}
  {H H' : Prop}

@[simp] theorem every_pure (a : α) : (Prog.pure a).Every P V H := trivial

@[simp] theorem every_bind (p : Prog α) (f : α → Prog β) :
    (p.bind f).Every P V H ↔ p.Every P V H ∧ ∀ a, (f a).Every P V H := Iff.rfl

@[simp] theorem every_prim (p : Prim α) : (Prog.prim p).Every P V H ↔ P p := Iff.rfl

@[simp] theorem every_v8 (c : V8Call α) : (Prog.v8 c).Every P V H ↔ V c := Iff.rfl

@[simp] theorem every_fail (e : Failure) : (Prog.fail e : Prog α).Every P V H := trivial

@[simp] theorem every_host : Prog.host.Every P V H ↔ H := Iff.rfl

@[simp] theorem every_deref (o : Option α) : (Prog.deref o).Every P V H := by cases o <;> trivial

@[simp] theorem every_toChecked (r : Except Caught α) : (Prog.toChecked r).Every P V H := by
  cases r <;> trivial

theorem Every.mono {p : Prog α} (h : p.Every P V H) (hP : ∀ {α : Type} (q : Prim α), P q → P' q)
    (hV : ∀ {α : Type} (c : V8Call α), V c → V' c) (hH : H → H') : p.Every P' V' H' := by
  induction p with
  | pure => trivial
  | bind p f ihp ihf => exact ⟨ihp h.1, fun a => ihf a (h.2 a)⟩
  | prim q => exact hP q h
  | v8 c => exact hV c h
  | fail => trivial
  | host => exact hH h

end Prog

/-! ### Tidy programs -/

/-- What the bridge's primitives promise: a new wrapper, or a new `m_ctx`, holds a handle. -/
def Prim.Tidy : Prim α → Prop
  | .trackedValue _ val => val.ptr ≠ none
  | .newContext m => m.ptr ≠ none
  | _ => True

/-- What the bridge's V8 calls promise: `FunctionTemplate::New` and `Function::New` are given an
`Integer` as their data. -/
def V8Call.Tidy : V8Call α → Prop
  | .functionTemplateNew _ data | .functionNew _ data => ∃ k, data = .integer k
  | _ => True

/-- Every primitive and every V8 call `p` can make, whatever the answers, is tidy. -/
abbrev Prog.Tidy (p : Prog α) : Prop := p.Every Prim.Tidy V8Call.Tidy True

/-- The entry points that free what the host passes them. -/
def Op.frees : Op α → Bool
  | .contextFree _ | .isolateDispose _ | .templateFreeWrapper _ => true
  | _ => false

/-- What the primitives of an entry point promise: a new wrapper or `m_ctx` holds a handle, none is
a dispatch, and only an entry point that frees (`frees`) runs the body of `ContextFree` or
`delete`s an `m_template`. -/
def Prim.entryOk (frees : Bool) : Prim α → Bool
  | .trackedValue _ val => val.ptr.isSome
  | .newContext m => m.ptr.isSome
  | .dispatch .. => false
  | .freeContext _ | .deleteTemplate _ => frees
  | _ => true

/-- What the V8 calls of an entry point promise: `FunctionTemplate::New` and `Function::New` are
given an `Integer`, and only an entry point that frees (`frees`) disposes an isolate. -/
def V8Call.entryOk (frees : Bool) : V8Call α → Bool
  | .functionTemplateNew _ data | .functionNew _ data => data.integerValue?.isSome
  | .isolateDispose _ => frees
  | _ => true

def Prim.Entry (frees : Bool) (p : Prim α) : Prop := p.entryOk frees = true

def V8Call.Entry (frees : Bool) (c : V8Call α) : Prop := c.entryOk frees = true

/-- What every entry point is: tidy, it never reaches `goFunctionCallback` or the host, and it
frees nothing unless it is one of the entry points that free (`Op.denote_entry`). -/
abbrev Prog.Entry (frees : Bool) (p : Prog α) : Prop :=
  p.Every (Prim.Entry frees) (V8Call.Entry frees) False

theorem Prim.Entry.tidy {frees : Bool} {p : Prim α} (h : p.Entry frees) : p.Tidy := by
  cases p
  case trackedValue | newContext => exact Option.isSome_iff_ne_none.mp h
  all_goals trivial

theorem V8Call.Entry.tidy {frees : Bool} {c : V8Call α} (h : c.Entry frees) : c.Tidy := by
  cases c
  case functionTemplateNew | functionNew =>
    obtain ⟨k, hk⟩ := Option.isSome_iff_exists.mp h
    exact ⟨k, JSValue.integerValue?_eq_some.mp hk⟩
  all_goals trivial

theorem Prog.Entry.tidy {frees : Bool} {p : Prog α} (h : p.Entry frees) : p.Tidy :=
  h.mono (fun _ hq => hq.tidy) (fun _ hc => hc.tidy) fun _ => trivial

/-! ### The bridge's programs are tidy -/

section Tidy

@[simp] theorem trackedNewValue_entry {frees : Bool} (iso : IsolatePtr) (ctx : ContextPtr) (v : JSValue) :
    (trackedNewValue iso ctx v).Entry frees := by
  simp [trackedNewValue, Prim.Entry, Prim.entryOk.eq_def]

@[simp] theorem storeAt_every {α : Type} {P : {α : Type} → Prim α → Prop}
    {V : {α : Type} → V8Call α → Prop} {H : Prop} (a : Array α) (i : Nat) (v : α) : (storeAt a i v).Every P V H := by
  unfold storeAt
  split <;> trivial

@[simp] theorem localValue_entry {frees : Bool} (ptr : ValuePtr) : (localValue ptr).Entry frees := by
  simp only [localValue, Prog.bind_eq, Prog.every_bind]
  refine ⟨rfl, fun val => ⟨rfl, fun _ => ?_⟩⟩
  cases val.ctx <;> simp [contextHandle, isolateInternalContext, Prim.Entry, Prim.entryOk.eq_def]

@[simp] theorem exceptionError_entry {frees : Bool} (try_catch : Caught) (iso : IsolatePtr) (ctx : V8Context) :
    (exceptionError try_catch iso ctx).Entry frees := by
  obtain ⟨terminated, exception, message⟩ := try_catch
  cases terminated <;> cases message <;>
    simp only [exceptionError, isolateScope, Prog.bind_eq, Prog.pure_eq, Prog.every_bind, Prog.every_pure,
      Prog.every_prim, Prog.every_v8, Prim.Entry, Prim.entryOk.eq_def, V8Call.Entry, V8Call.entryOk.eq_def,
      Option.forall, and_self, implies_true, forall_const, reduceIte, Bool.false_eq_true, false_implies]

@[simp] theorem rtnValue_entry {frees : Bool} (iso : IsolatePtr) (ctx : ContextPtr) (local_ctx : V8Context)
    (r : Except Caught JSValue) : (rtnValue iso ctx local_ctx r).Entry frees := by
  cases r <;> simp [rtnValue, errorValue]

theorem wrapArgs_tidy (iso : IsolatePtr) (ctx : ContextPtr) (info : FunctionCallbackInfo)
    (is : List Nat) (thisAndArgs : Array (Option ValuePtr)) :
    (wrapArgs iso ctx info is thisAndArgs).Tidy := by
  induction is generalizing thisAndArgs with
  | nil => trivial
  | cons i is ih =>
    exact ⟨(@trackedNewValue_entry false _ _ _).tidy, fun _ => ⟨storeAt_every _ _ _, fun _ => ih _⟩⟩

theorem buildCallArgumentsLoop_entry {frees : Bool} (args : Array ValuePtr) (is : List Nat)
    (argv : Array (Option JSValue)) : (buildCallArgumentsLoop args is argv).Entry frees := by
  induction is generalizing argv with
  | nil => trivial
  | cons i is ih => simp [buildCallArgumentsLoop, valueHandle, Prim.Entry, Prim.entryOk.eq_def, ih]

theorem functionTemplateCallback_tidy (info : FunctionCallbackInfo) :
    (functionTemplateCallback info).Tidy := by
  simp [functionTemplateCallback, isolateScope, Prim.Tidy, wrapArgs_tidy, (@trackedNewValue_entry false _ _ _).tidy,
    Option.forall]

@[simp] theorem contextFree_entry (ctx : Option ContextPtr) : (contextFree ctx).Entry true := by
  cases ctx <;> simp [contextFree, Prim.Entry, Prim.entryOk.eq_def]

@[simp] theorem isolateDispose_entry (iso : Option IsolatePtr) : (isolateDispose iso).Entry true := by
  cases iso <;> simp [isolateDispose, isolateInternalContext, Prim.Entry, Prim.entryOk.eq_def, V8Call.Entry, V8Call.entryOk.eq_def,
    Option.forall]

@[simp] theorem isolationGetHeapStatistics_entry {frees : Bool} (iso : Option IsolatePtr) :
    (isolationGetHeapStatistics iso).Entry frees := by
  cases iso <;> simp [isolationGetHeapStatistics, V8Call.Entry, V8Call.entryOk.eq_def]

@[simp] theorem newContext_entry {frees : Bool} (iso : IsolatePtr) (global_template_ptr : Option TemplatePtr)
    (ref : Int) : (newContext iso global_template_ptr ref).Entry frees := by
  cases global_template_ptr <;> simp [newContext, isolateScope, Prim.Entry, Prim.entryOk.eq_def, V8Call.Entry, V8Call.entryOk.eq_def]

@[simp] theorem jsonStringify_entry {frees : Bool} (ctx : Option ContextPtr) (val : ValuePtr) :
    (jsonStringify ctx val).Entry frees := by
  cases ctx <;> simp [jsonStringify, isolateScope, contextHandle, valueHandle, isolateInternalContext,
    Prim.Entry, Prim.entryOk.eq_def, V8Call.Entry, V8Call.entryOk.eq_def, Option.forall, Except.forall_iff]

@[simp] theorem newValueError_entry {frees : Bool} (iso : IsolatePtr) (idx : ErrorTypeIndex) (message : CStr) :
    (newValueError iso idx message).Entry frees := by
  cases idx <;> simp [newValueError, isolateScopeInternalContext, isolateScope,
    isolateInternalContext, contextHandle, Prim.Entry, Prim.entryOk.eq_def, V8Call.Entry, V8Call.entryOk.eq_def]

@[simp] theorem builtinSymbol_entry {frees : Bool} (iso : IsolatePtr) (idx : SymbolIndex) :
    (builtinSymbol iso idx).Entry frees := by
  cases idx <;> simp [builtinSymbol, isolateScope, isolateInternalContext, Prim.Entry, Prim.entryOk.eq_def,
    V8Call.Entry, V8Call.entryOk.eq_def]

/-- Every entry point of `v8go.cc` is tidy, never reaches `goFunctionCallback` or the host, and
frees nothing unless it is `ContextFree`, `IsolateDispose` or `TemplateFreeWrapper`. -/
theorem Op.denote_entry (op : Op α) : op.denote.Entry op.frees := by
  cases op <;> simp only [Op.denote, Op.frees, V8go.init, V8go.newIsolate, V8go.isolatePerformMicrotaskCheckpoint,
    V8go.isolateTerminateExecution, V8go.isolateIsExecutionTerminating, V8go.templateFreeWrapper,
    V8go.templateSetValue, V8go.templateSetAnyValue, V8go.templateSetTemplate,
    V8go.templateSetAnyTemplate, templateSetNamed, templateSetAny, templateHandle, localTemplate,
    V8go.newObjectTemplate, V8go.objectTemplateNewInstance, V8go.newFunctionTemplate,
    V8go.functionTemplateGetFunction, V8go.runScript, V8go.jsonParse, V8go.contextGlobal,
    localContext, V8go.newValueInteger, V8go.newValueIntegerFromUnsigned, V8go.newValueString,
    V8go.newValueNull, V8go.newValueUndefined, V8go.newValueBoolean, V8go.newValueNumber,
    V8go.newValueBigInt, V8go.newValueBigIntFromUnsigned, V8go.newValueBigIntFromWords, newValue,
    V8go.valueToArrayIndex, V8go.valueToBoolean, V8go.valueToInt32, V8go.valueToInteger,
    V8go.valueToNumber, V8go.valueToUint32, valueToChecked, V8go.valueToDetailString,
    V8go.valueToString, V8go.valueToBigInt, V8go.valueToObject, V8go.valueSameValue, V8go.valueIs,
    V8go.exceptionGetMessageString, V8go.objectSet, V8go.objectSetAnyKey, V8go.objectSetIdx,
    objectSetKey, keyChecked, keyOfValue, V8go.objectGet, V8go.objectGetAnyKey, V8go.objectGetIdx,
    objectGetKey, V8go.objectHas, V8go.objectHasAnyKey, V8go.objectHasIdx, V8go.objectDelete,
    V8go.objectDeleteAnyKey, V8go.objectDeleteIdx, objectQuery, V8go.symbolDescription,
    V8go.newPromiseResolver, V8go.promiseResolverGetPromise, V8go.promiseResolverResolve,
    V8go.promiseResolverReject, promiseResolverSettle, V8go.promiseState, V8go.promiseThen,
    V8go.promiseThen2, V8go.promiseCatch, V8go.promiseResult, V8go.functionCall,
    V8go.functionNewInstance, buildCallArguments, buildCallArgumentsLoop_entry,
    V8go.functionSourceMapUrl, V8go.version, V8go.setFlags, isolateScope,
    isolateScopeInternalContext, isolateInternalContext, contextHandle, valueHandle, errorValue,
    Prim.Entry, Prim.entryOk.eq_def, V8Call.Entry, V8Call.entryOk.eq_def, JSValue.integerValue?_integer,
    Option.isSome_some, Except.forall_iff, Prog.bind_eq, Prog.pure_eq, Prog.every_bind, Prog.every_pure, Prog.every_prim,
    Prog.every_v8, Prog.every_deref, Prog.every_toChecked, trackedNewValue_entry, storeAt_every,
    localValue_entry, exceptionError_entry, rtnValue_entry, contextFree_entry, isolateDispose_entry,
    isolationGetHeapStatistics_entry, newContext_entry, jsonStringify_entry, newValueError_entry,
    builtinSymbol_entry, Option.forall, Bool.forall_bool, Bool.not_true, Bool.not_false, and_self,
    implies_true, forall_const, true_and, and_true, ne_eq, reduceCtorEq, not_false_eq_true,
    exists_apply_eq_apply', reduceIte, Bool.false_eq_true, false_implies]

/-- Every entry point of `v8go.cc` is tidy. -/
theorem Op.denote_tidy (op : Op α) : op.denote.Tidy := (Op.denote_entry op).tidy

end Tidy

/-! ### Properties tidy steps keep -/

/-- `I` is kept by every tidy primitive step, every engine answer to a tidy call, and every
hand-over to the host. -/
structure Keeps (I : State → Prop) : Prop where
  prim {α : Type} {p : Prim α} {s s' : State} {a : α} : p.Tidy → p.step s = .ok (a, s') → I s → I s'
  v8 {α : Type} {c : V8Call α} {r : α} {s s' : State} : c.Tidy → c.apply r s = some s' → I s → I s'
  handOver {s : State} (ws : List ValuePtr) : I s → I (s.handOver ws)

/-- A property every tidy step keeps holds along every run of a tidy program: the callbacks the
engine makes are runs of `FunctionTemplateCallback`, and the host's calls runs of entry points,
all of them tidy. -/
theorem Run.keeps {I : State → Prop} (hI : Keeps I) {α : Type} {p : Prog α} {o : Outcome α}
    {s s' : State} (h : Run s p o s') (hp : p.Tidy) (hs : I s) : I s' := by
  induction h with
  | pure => exact hs
  | bind _ _ ih₁ ih₂ => exact ih₂ (hp.2 _) (ih₁ hp.1 hs)
  | bindStop _ ih | bindPaused _ ih => exact ih hp.1 hs
  | prim h => exact hI.prim hp h hs
  | primStop | fail | hostReturn | hostPaused => exact hs
  | v8 h => exact hI.v8 hp h hs
  | callback _ _ _ _ ih₁ ih₂ => exact ih₂ hp (ih₁ (functionTemplateCallback_tidy _) hs)
  | callbackStop _ _ _ ih | callbackPaused _ _ _ ih => exact ih (functionTemplateCallback_tidy _) hs
  | hostCall op _ _ ih₁ ih₂ => exact ih₂ trivial (hI.handOver _ (ih₁ (Op.denote_tidy op) hs))
  | hostCallStop op _ ih | hostCallPaused op _ ih => exact ih (Op.denote_tidy op) hs

/-- A property every tidy step keeps, and that holds before `Init()`, holds in every reachable
state. -/
theorem Reachable.keeps {I : State → Prop} (hI : Keeps I) (h₀ : I .init) {s : State}
    (h : Reachable s) : I s := by
  induction h with
  | init => exact h₀
  | call op _ hrun ih => exact hI.handOver _ (hrun.keeps hI (Op.denote_tidy op) ih)
  | paused op _ hrun ih => exact hrun.keeps hI (Op.denote_tidy op) ih

/-! ### The invariant -/

/-- A primitive step leaves the engine's records alone, and allocates upwards. -/
theorem Prim.step_engine {α : Type} {p : Prim α} {s s' : State} {a : α}
    (h : p.step s = .ok (a, s')) :
    s'.v8Contexts = s.v8Contexts ∧ s'.functions = s.functions ∧ s'.v8Templates = s.v8Templates ∧
      s.next ≤ s'.next := by
  cases p <;> simp only [Prim.step] at h <;> (try split at h) <;>
    simp only [reduceCtorEq, Except.ok.injEq, Prod.mk.injEq] at h
  case newContext | newTemplate =>
    obtain ⟨rfl, rfl⟩ := Prod.mk.inj h
    simp [State.newContext, State.newTemplate]
  case trackedValue.h_1 hv =>
    subst h
    simp only [State.trackedValue, Option.map_eq_some'] at hv
    obtain ⟨m, -, hv⟩ := hv
    cases hv
    simp
  case freeContext.h_1 hs =>
    obtain ⟨-, rfl⟩ := h
    obtain ⟨m, -, rfl⟩ := State.freeContext_eq hs
    simp [State.afterFree]
  all_goals obtain ⟨-, rfl⟩ := h; simp

/-- The invariant of this module: every record holds its handle, and every value the bridge casts
to `Integer` is one. -/
structure Healthy (s : State) : Prop where
  /-- A live wrapper holds its value. -/
  value_ptr : ∀ w v, s.values w = some v → v.ptr ≠ none
  /-- A live `m_ctx` holds its `v8::Context`. -/
  context_ptr : ∀ c m, s.contexts c = some m → m.ptr ≠ none
  /-- Slot 1 of a context is unset or an `Integer`. -/
  slot1 : ∀ lc r x, s.v8Contexts lc = some r → r.slot1 = some x → ∃ k, x = .integer k
  /-- The data of a bridge function is an `Integer`. -/
  function_data : ∀ f bf, s.functions f = some bf → ∃ k, bf.data = .integer k
  /-- The data of a function template is an `Integer`. -/
  template_data : ∀ t d, s.v8Templates t = some (.function d) → ∃ k, d = .integer k
  functions_fresh : ∀ f, s.next ≤ f → s.functions f = none

namespace Healthy

variable {s s' : State}

theorem init : Healthy .init where
  value_ptr _ _ h := by cases h
  context_ptr _ _ h := by cases h
  slot1 _ _ _ h := by cases h
  function_data _ _ h := by cases h
  template_data _ _ h := by cases h
  functions_fresh _ _ := rfl

/-- A step that changes no engine record, allocates upwards, and leaves every new wrapper and
context with a handle. -/
theorem frame (hs : Healthy s) (hv : ∀ w v, s'.values w = some v → v.ptr ≠ none)
    (hc : ∀ c m, s'.contexts c = some m → m.ptr ≠ none) (he : s'.v8Contexts = s.v8Contexts)
    (hf : s'.functions = s.functions) (ht : s'.v8Templates = s.v8Templates) (hn : s.next ≤ s'.next) :
    Healthy s' where
  value_ptr := hv
  context_ptr := hc
  slot1 := he ▸ hs.slot1
  function_data := hf ▸ hs.function_data
  template_data := ht ▸ hs.template_data
  functions_fresh f h := hf ▸ hs.functions_fresh f (Nat.le_trans hn h)

/-- Every tidy primitive step keeps `Healthy`. -/
theorem prim (hs : Healthy s) {α : Type} {p : Prim α} {a : α} (hp : p.Tidy)
    (h : p.step s = .ok (a, s')) : Healthy s' := by
  obtain ⟨he, hf, ht, hn⟩ := Prim.step_engine h
  cases hw : p.writesRegistry
  · obtain ⟨hv, hc, -⟩ := Prim.step_frame h hw
    exact hs.frame (fun w v h => hs.value_ptr w v (hv ▸ h)) (fun c m h => hs.context_ptr c m (hc ▸ h))
      he hf ht hn
  cases p <;> simp only [Prim.writesRegistry, reduceCtorEq] at hw
  case newContext m =>
    obtain ⟨-, -, hv, hc, -⟩ := State.newContext_eq (Except.ok.inj h)
    refine hs.frame (fun w v h => hs.value_ptr w v (hv ▸ h)) (fun c m' h => ?_) he hf ht hn
    rw [hc, Function.update_apply] at h
    split at h
    · cases h; exact hp
    · exact hs.context_ptr c m' h
  case trackedValue ctx val =>
    obtain ⟨m, hm, -, -, hv, hc, -⟩ := State.trackedValue_eq (Prim.trackedValue_step h)
    refine hs.frame (fun w v h => ?_) (fun c m' h => ?_) he hf ht hn
    · rw [hv, Function.update_apply] at h
      split at h
      · cases h; exact hp
      · exact hs.value_ptr w v h
    · rw [hc, Function.update_apply] at h
      split at h
      · cases h; subst c; exact hs.context_ptr _ m hm
      · exact hs.context_ptr c m' h
  case freeContext ctx =>
    obtain ⟨m, -, rfl⟩ := State.freeContext_eq (Prim.freeContext_step h)
    refine hs.frame (fun w v h => ?_) (fun c m' h => ?_) he hf ht hn
    · simp only [State.afterFree] at h
      split at h
      · cases h
      · exact hs.value_ptr w v h
    · simp only [State.afterFree, Function.update_apply] at h
      split at h
      · cases h
      · exact hs.context_ptr c m' h

theorem newIsolate (hs : Healthy s) : Healthy s.newIsolate :=
  hs.frame hs.value_ptr hs.context_ptr rfl rfl rfl (Nat.le_succ _)

theorem newV8Context (hs : Healthy s) (iso : IsolatePtr) : Healthy (s.newV8Context iso) where
  value_ptr := hs.value_ptr
  context_ptr := hs.context_ptr
  slot1 lc r x h hx := by
    simp only [State.newV8Context, Function.update_apply] at h
    split at h
    · cases h; cases hx
    · exact hs.slot1 lc r x h hx
  function_data := hs.function_data
  template_data := hs.template_data
  functions_fresh f h := hs.functions_fresh f (Nat.le_of_succ_le h)

theorem newV8Template (hs : Healthy s) {t : TemplateRec}
    (ht : ∀ d, t = .function d → ∃ k, d = .integer k) : Healthy (s.newV8Template t) where
  value_ptr := hs.value_ptr
  context_ptr := hs.context_ptr
  slot1 := hs.slot1
  function_data := hs.function_data
  template_data t' d h := by
    simp only [State.newV8Template, Function.update_apply] at h
    split at h
    · exact ht d (Option.some.inj h)
    · exact hs.template_data t' d h
  functions_fresh f h := hs.functions_fresh f (Nat.le_of_succ_le h)

theorem newFunction (hs : Healthy s) {data : JSValue} (hd : ∃ k, data = .integer k)
    (ctx : V8Context) : Healthy (s.newFunction data ctx) where
  value_ptr := hs.value_ptr
  context_ptr := hs.context_ptr
  slot1 := hs.slot1
  function_data f bf h := by
    simp only [State.newFunction, Function.update_apply] at h
    split at h
    · cases h; exact hd
    · exact hs.function_data f bf h
  template_data := hs.template_data
  functions_fresh f h := by
    simp only [State.newFunction, Function.update_apply]
    rw [if_neg (Nat.ne_of_gt h)]
    exact hs.functions_fresh f (Nat.le_of_succ_le h)

/-- Every engine answer to a tidy call keeps `Healthy`. -/
theorem v8 (hs : Healthy s) {α : Type} {c : V8Call α} {r : α} (hc : c.Tidy)
    (h : c.apply r s = some s') : Healthy s' := by
  unfold V8Call.apply at h
  split at h
  case isFalse => cases h
  rename_i hadm
  cases c <;> first | (obtain rfl := Option.some.inj h; exact hs) | skip
  case isolateNew =>
    change (if r = s.next then some s.newIsolate else none) = some s' at h
    split at h <;> cases h
    exact hs.newIsolate
  case isolateDispose iso =>
    cases h
    exact hs.frame hs.value_ptr hs.context_ptr rfl rfl rfl le_rfl
  case contextNew iso _ =>
    change (if r = s.next then some (s.newV8Context iso) else none) = some s' at h
    split at h <;> cases h
    exact hs.newV8Context iso
  case setEmbedderData ctx ref =>
    unfold V8Call.effect at h
    dsimp only at h
    split at h <;> cases h
    · refine { hs with slot1 := fun lc r' x h' hx => ?_ }
      simp only [Function.update_apply] at h'
      split at h'
      · cases h'; cases hx; exact ⟨ref, rfl⟩
      · exact hs.slot1 lc r' x h' hx
    · exact hs
  case objectTemplateNew =>
    change (if r = s.next then some (s.newV8Template .object) else none) = some s' at h
    split at h <;> cases h
    exact hs.newV8Template fun _ h => by cases h
  case functionTemplateNew _ data =>
    change (if r = s.next then some (s.newV8Template (.function data)) else none) = some s' at h
    split at h <;> cases h
    exact hs.newV8Template fun _ h => by cases h; exact hc
  case functionTemplateGetFunction t ctx =>
    unfold V8Call.effect at h
    dsimp only at h
    split at h
    · rename_i hd
      split at h
      · cases h; exact hs.newFunction (hs.template_data t _ hd) ctx
      · split at h <;> cases h; exact hs
    · cases h
    · cases h; exact hs
  case functionNew ctx data =>
    cases r with
    | error => cases h; exact hs
    | ok v =>
      change (if v = .object s.next then some (s.newFunction data ctx) else none) = some s' at h
      split at h <;> cases h
      exact hs.newFunction hc ctx

theorem handOver (hs : Healthy s) (ws : List ValuePtr) : Healthy (s.handOver ws) :=
  hs.frame hs.value_ptr hs.context_ptr rfl rfl rfl le_rfl

theorem keeps : Keeps Healthy :=
  ⟨fun hp h hs => hs.prim hp h, fun hc h hs => hs.v8 hc h, fun ws hs => hs.handOver ws⟩

end Healthy

end V8go
