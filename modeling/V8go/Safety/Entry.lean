import V8go.Safety.Defined

/-!
# Safety — the entry points stay defined

Each entry point of `v8go.cc` whose pointer arguments are live runs, from a `Ready` and `Owned`
state, without undefined behaviour until the host is called, and leaves a `Ready` state when it
returns (`Op.denote_ready`).  `IsolateDispose` is defined but does not keep `Ready`; `JSONParse`
is neither: when `String::NewFromUtf8` fails it goes on and passes the empty handle `v8Str` to
`JSON::Parse`.

The host's side of the contract is `Op.argsLive`: every wrapper, context and template it passes
is allocated and belongs to a live isolate, an isolate it passes is live (with its internal
context, where the entry point uses it), and `FunctionCall` gets `argc` live arguments.  The
bridge's side is everything else: the `ctx` of a wrapper, the handles of wrappers and contexts,
the internal context, the arrays of `buildCallArguments`, the contexts the results are tracked
in, and the callbacks the engine makes meanwhile.
-/

namespace V8go

/-! ### Live pointers -/

namespace State

variable (s : State)

/-- `iso` is a live isolate. -/
def liveIsolate (iso : IsolatePtr) : Bool := (s.isolates iso).isSome

/-- `iso` is a live isolate whose internal context is live. -/
def liveInternal (iso : IsolatePtr) : Bool :=
  match s.isolates iso with
  | some r =>
    match r.data0 with
    | some c => (s.contexts c).isSome
    | none => false
  | none => false

/-- `c` is a live `m_ctx` of a live isolate. -/
def liveContext (c : ContextPtr) : Bool :=
  match s.contexts c with
  | some m => s.liveIsolate m.iso
  | none => false

/-- `w` is a live wrapper of a live isolate. -/
def liveValue (w : ValuePtr) : Bool :=
  match s.values w with
  | some v => s.liveIsolate v.iso
  | none => false

/-- `t` is a live `m_template` of a live isolate. -/
def liveTemplate (t : TemplatePtr) : Bool :=
  match s.templates t with
  | some mt => s.liveIsolate mt.iso
  | none => false

variable {s}

theorem liveIsolate_iff {iso : IsolatePtr} : s.liveIsolate iso = true ↔ s.isolates iso ≠ none := by
  simp [liveIsolate, Option.isSome_iff_ne_none]

theorem liveInternal_spec {iso : IsolatePtr} (h : s.liveInternal iso = true) :
    ∃ r c, s.isolates iso = some r ∧ r.data0 = some c ∧ s.contexts c ≠ none := by
  unfold liveInternal at h
  split at h
  · split at h
    · exact ⟨_, _, ‹_›, ‹_›, Option.isSome_iff_ne_none.mp h⟩
    · cases h
  · cases h

theorem liveContext_spec {c : ContextPtr} (h : s.liveContext c = true) :
    ∃ m, s.contexts c = some m ∧ s.isolates m.iso ≠ none := by
  unfold liveContext at h
  split at h
  · exact ⟨_, ‹_›, liveIsolate_iff.mp h⟩
  · cases h

theorem liveValue_spec {w : ValuePtr} (h : s.liveValue w = true) :
    ∃ v, s.values w = some v ∧ s.isolates v.iso ≠ none := by
  unfold liveValue at h
  split at h
  · exact ⟨_, ‹_›, liveIsolate_iff.mp h⟩
  · cases h

theorem liveTemplate_spec {t : TemplatePtr} (h : s.liveTemplate t = true) :
    ∃ mt, s.templates t = some mt ∧ s.isolates mt.iso ≠ none := by
  unfold liveTemplate at h
  split at h
  · exact ⟨_, ‹_›, liveIsolate_iff.mp h⟩
  · cases h

end State

/-! ### Scopes of live pointers -/

namespace Prog.Defined

variable {α β : Type} {s : State} {f : α → Prog β} {Q : β → State → Prop}

/-- `LOCAL_VALUE(ptr)` of a live wrapper: the locals it declares belong to a live isolate and a
live context holding `localCtx`. -/
theorem liveValue_bind (hR : Ready s) (ho : Owned s) {w : ValuePtr} (hw : s.liveValue w = true)
    {g : LocalValue → Prog β}
    (hk : ∀ lv, s.isolates lv.iso ≠ none → (∃ m, s.contexts lv.ctx = some m ∧ m.ptr = some lv.localCtx) →
      (g lv).Defined Q s) : ((localValue w).bind g).Defined Q s := by
  obtain ⟨v, hv, hiso⟩ := State.liveValue_spec hw
  exact localValue_bind hR.toHealthy ho hv hiso fun lv h => hk lv (h ▸ hiso)

/-- `LOCAL_CONTEXT(ctx)` of a live context. -/
theorem liveContext_bind (hR : Ready s) {c : ContextPtr} (hc : s.liveContext c = true)
    {g : LocalContext → Prog β}
    (hk : ∀ lc, s.isolates lc.iso ≠ none → (∃ m, s.contexts c = some m ∧ m.ptr = some lc.localCtx) →
      (g lc).Defined Q s) : ((localContext c).bind g).Defined Q s := by
  obtain ⟨m, hm, hiso⟩ := State.liveContext_spec hc
  exact localContext_bind hR.toHealthy hm hiso fun lc hlc => hk _ hiso ⟨m, hm, hlc⟩

/-- `LOCAL_TEMPLATE(tmpl)` of a live template. -/
theorem liveTemplate_bind {t : TemplatePtr} (ht : s.liveTemplate t = true) {g : LocalTemplate → Prog β}
    (hk : ∀ lt, s.isolates lt.iso ≠ none → (g lt).Defined Q s) : ((localTemplate t).bind g).Defined Q s := by
  obtain ⟨mt, hmt, hiso⟩ := State.liveTemplate_spec ht
  exact localTemplate_bind hmt hiso (hk _ hiso)

/-- `val->ptr.Get(iso)` of a live wrapper. -/
theorem liveHandle_bind (hH : Healthy s) {w : ValuePtr} (hw : s.liveValue w = true) {g : JSValue → Prog β}
    (hk : ∀ x, (g x).Defined Q s) : ((valueHandle w).bind g).Defined Q s := by
  obtain ⟨v, hv, -⟩ := State.liveValue_spec hw
  exact valueHandle_bind hH hv fun x _ => hk x

/-- A program that leaves the state as it was. -/
theorem unchanged_bind {p : Prog α} (hp : p.Defined (fun _ s' => s' = s) s) (hk : ∀ a, (f a).Defined Q s) :
    (p.bind f).Defined Q s :=
  bind (hp.mono fun a _ hs => hs ▸ hk a)

theorem toChecked_last (r : Except Caught α) {Q : α → State → Prop} (hQ : ∀ a, Q a s) :
    (Prog.toChecked r).Defined Q s := by
  cases r with
  | error => exact fail (by simp)
  | ok => exact pure (hQ _)

/-! ### Steps that keep `Ready` -/

/-- A V8 call whose answers leave the heap alone, last. -/
theorem v8_self_last (hR : Ready s) {c : V8Call α} (hc : c.changesHeap = false) :
    (Prog.v8 c).Defined (fun _ s' => Ready s') s :=
  v8 (fun _ => hR.callbacks) fun _ _ h => V8Call.apply_self hc h ▸ hR

/-- `Context::New(iso, ...)` of a live isolate: a new V8 context of `iso`. -/
theorem contextNew_bind (hR : Ready s) {iso : IsolatePtr} (hiso : s.isolates iso ≠ none)
    {g : Option V8Template} {k : V8Context → Prog β}
    (hk : ∀ lc s', Ready s' → s'.isolates = s.isolates → s'.v8Contexts lc = some { iso } →
      (k lc).Defined Q s') :
    ((Prog.v8 (.contextNew iso g)).bind k).Defined Q s := by
  refine v8_bind (fun h => nomatch h) fun lc s' h => ?_
  have hR' := (hR.v8 (c := .contextNew iso g) trivial hiso h).1
  obtain ⟨rfl, rfl⟩ := V8Call.contextNew_apply h
  exact hk _ _ hR' rfl (by simp [State.newV8Context])

/-- `SetEmbedderData(1, ...)` keeps the isolate of every V8 context. -/
theorem setEmbedderData_bind (hR : Ready s) {lc : V8Context} {ref : Int} {k : Unit → Prog β}
    (hk : ∀ u s', Ready s' → s'.isolates = s.isolates →
      (∀ c r, s'.v8Contexts c = some r → ∃ r₀, s.v8Contexts c = some r₀ ∧ r₀.iso = r.iso) →
      (k u).Defined Q s') :
    ((Prog.v8 (.setEmbedderData lc ref)).bind k).Defined Q s :=
  v8_bind (fun h => nomatch h) fun u s' h =>
    have hf := V8Call.setEmbedderData_frame h
    hk u s' (hR.v8 (c := .setEmbedderData lc ref) trivial trivial h).1 hf.1 hf.2.2

/-- `Function::New` in a context the bridge holds, of a live isolate. -/
theorem functionNew_bind (hR : Ready s) {c : ContextPtr} {m : MCtx} {lc : V8Context}
    (hm : s.contexts c = some m) (hlc : m.ptr = some lc) (k : Int) {g : Except Caught JSValue → Prog β}
    (hk : ∀ r s', Ready s' → s'.contexts = s.contexts → (∀ i, s.isolates i ≠ none → s'.isolates i ≠ none) →
      (g r).Defined Q s') : ((Prog.v8 (.functionNew lc (.integer k))).bind g).Defined Q s :=
  v8_ready_bind hR ⟨k, rfl⟩ (fun r hr => hR.context_isolate c m lc r hm hlc hr) hk

theorem trackedNewValue_ready_bind (hR : Ready s) {iso : IsolatePtr} {ctx : ContextPtr} {v : JSValue}
    (hc : s.contexts ctx ≠ none) {g : ValuePtr → Prog β} (hk : ∀ w s', Ready s' → (g w).Defined Q s') :
    ((trackedNewValue iso ctx v).bind g).Defined Q s :=
  trackedNewValue_bind hc fun w s' h => hk w s' (hR.trackedValue h (by simp))

theorem trackedNewValue_ready (hR : Ready s) {iso : IsolatePtr} {ctx : ContextPtr} {v : JSValue}
    (hc : s.contexts ctx ≠ none) : (trackedNewValue iso ctx v).Defined (fun _ s' => Ready s') s := by
  obtain ⟨m, hm⟩ := Option.ne_none_iff_exists'.mp hc
  exact prim (fun _ _ h => hR.trackedValue (Prim.trackedValue_step h) (by simp))
    fun _ h => by simp [Prim.step, State.trackedValue, hm] at h

theorem errorValue_ready (hR : Ready s) {iso : IsolatePtr} (hiso : s.isolates iso ≠ none)
    (try_catch : Caught) (ctx : V8Context) : (errorValue try_catch iso ctx).Defined (fun _ s' => Ready s') s :=
  (errorValue_defined hR.callbacks hiso try_catch ctx).mono fun _ _ h => h ▸ hR

/-- The end of an entry point returning an `RtnValue`: an error record, or a wrapper tracked in a
live context. -/
theorem rtnValue_ready (hR : Ready s) {iso : IsolatePtr} {ctx : ContextPtr} (hiso : s.isolates iso ≠ none)
    (hc : s.contexts ctx ≠ none) (local_ctx : V8Context) (r : Except Caught JSValue) :
    (rtnValue iso ctx local_ctx r).Defined (fun _ s' => Ready s') s := by
  cases r with
  | error try_catch => exact errorValue_ready hR hiso try_catch local_ctx
  | ok v => exact trackedNewValue_ready_bind hR hc fun _ _ h => pure h

/-- A new `m_ctx` holding a V8 context of a live isolate. -/
theorem newContext_ready (hR : Ready s) {m : MCtx} (hm : m.ptr ≠ none)
    (hlc : ∀ lc r, m.ptr = some lc → s.v8Contexts lc = some r → s.isolates r.iso ≠ none) :
    (Prog.prim (.newContext m)).Defined (fun _ s' => Ready s') s :=
  prim (fun _ s' h => by
      have hs' : (s.newContext m).2 = s' := congrArg Prod.snd (Except.ok.inj h)
      exact hs' ▸ hR.newContext hm hlc)
    fun _ h => by cases h

theorem newTemplate_ready (hR : Ready s) {t : MTemplate} :
    (Prog.prim (.newTemplate t)).Defined (fun _ s' => Ready s') s :=
  prim (fun _ _ h => hR.prim_frame (by trivial) h rfl) fun _ h => by cases h

/-- `ContextFree` of a live context releases its wrappers without undefined behaviour. -/
theorem contextFree_live (hR : Ready s) (ho : Owned s) {c : ContextPtr} {m : MCtx} (hm : s.contexts c = some m) :
    (contextFree (some c)).Defined (fun _ s' => Ready s') s :=
  prim (fun _ _ h => hR.freeContext (Prim.freeContext_step h))
    fun _ h => by simp [Prim.step, ho.freeContext_eq hm] at h

/-! ### Keys and values the entry points read -/

theorem keyChecked_defined (key : CStr) : (keyChecked key).Defined (fun _ s' => s' = s) s :=
  v8_self_bind rfl (fun h => nomatch h) fun _ _ => toChecked_bind fun _ _ => pure rfl

theorem keyOfValue_defined (hH : Healthy s) {key : ValuePtr} (hk : s.liveValue key = true) :
    (keyOfValue key).Defined (fun _ s' => s' = s) s :=
  liveHandle_bind hH hk fun _ => pure rfl

theorem index_defined (idx : Nat) : (Prog.pure (PropertyKey.index idx)).Defined (fun _ s' => s' = s) s :=
  pure rfl

/-- The loop of `buildCallArguments` over live wrappers, within `argv`. -/
theorem buildCallArgumentsLoop_defined (hH : Healthy s) {args : Array ValuePtr} {is : List Nat}
    {argv : Array (Option JSValue)} (hargs : ∀ i ∈ is, args[i]?.any s.liveValue = true)
    (hsz : ∀ i ∈ is, i < argv.size) : (buildCallArgumentsLoop args is argv).Defined (fun _ s' => s' = s) s := by
  induction is generalizing argv with
  | nil => exact pure rfl
  | cons i is ih =>
    have hi := hargs i (List.mem_cons_self _ _)
    cases hw : args[i]? with
    | none => simp [hw] at hi
    | some w =>
      rw [hw] at hi
      exact deref_bind hw (liveHandle_bind hH hi fun _ => storeAt_bind (hsz i (List.mem_cons_self _ _))
        (ih (fun j hj => hargs j (List.mem_cons_of_mem _ hj))
          fun j hj => by simpa using hsz j (List.mem_cons_of_mem _ hj)))

end Prog.Defined

open Prog.Defined

/-! ### The entry points

Each entry point, from a `Ready` state and with live arguments, is `Defined` and leaves a `Ready`
state when it returns; `IsolateDispose` is `Defined` only. -/

variable {s : State}

theorem templateTemplate_defined {obj : TemplatePtr} (hobj : s.liveTemplate obj = true) :
    (do pure (TemplateValue.template (← templateHandle obj)) : Prog TemplateValue).Defined
      (fun _ s' => s' = s) s := by
  obtain ⟨mt, hmt, -⟩ := State.liveTemplate_spec hobj
  exact bind_assoc (getTemplate_bind hmt (pure_bind (pure rfl)))

section Ready

variable (hR : Ready s)
include hR

/-! #### Isolates -/

theorem newIsolate_defined : newIsolate.Defined (fun _ s' => Ready s') s := by
  refine v8_bind (fun h => nomatch h) fun iso s₁ h => ?_
  have hR₁ := (hR.v8 (c := .isolateNew) trivial trivial h).1
  obtain ⟨rfl, rfl⟩ := V8Call.isolateNew_apply h
  have hiso : s.newIsolate.isolates s.next ≠ none := by simp [State.newIsolate]
  refine isolateScope_bind hiso (contextNew_bind hR₁ hiso fun lc s₂ hR₂ hisos hlc => ?_)
  have hiso₂ : s₂.isolates s.next ≠ none := hisos ▸ hiso
  have hR₃ : Ready (s₂.newContext { iso := s.next, vals := [], ptr := some lc }).2 :=
    hR₂.newContext (by simp) fun lc' r h₁ h₂ => by
      cases h₁
      rw [hlc] at h₂
      cases h₂
      exact hiso₂
  refine prim_bind (p := .newContext _) rfl (bind (prim (fun _ _ h => pure (hR₃.prim_frame (by trivial) h rfl))
    fun e he => ?_))
  obtain ⟨r, hr⟩ := Option.ne_none_iff_exists'.mp hiso₂
  simp [Prim.step, State.newContext, hr] at he

theorem isolatePerformMicrotaskCheckpoint_defined {iso : IsolatePtr} (hi : s.liveIsolate iso = true) :
    (isolatePerformMicrotaskCheckpoint iso).Defined (fun _ s' => Ready s') s :=
  isolateScope_bind (State.liveIsolate_iff.mp hi) (v8_self_last hR rfl)

theorem isolationGetHeapStatistics_defined (iso : Option IsolatePtr) :
    (isolationGetHeapStatistics iso).Defined (fun _ s' => Ready s') s := by
  cases iso with
  | none => exact pure hR
  | some iso => exact v8_self_last hR rfl

/-! #### Templates -/

theorem templateFreeWrapper_defined {t : TemplatePtr} (ht : s.liveTemplate t = true) :
    (templateFreeWrapper t).Defined (fun _ s' => Ready s') s := by
  obtain ⟨mt, hmt, -⟩ := State.liveTemplate_spec ht
  exact prim (fun _ _ h => hR.prim_frame (by trivial) h rfl) fun e h => by simp [Prim.step, hmt] at h

theorem templateSetNamed_defined {ptr : TemplatePtr} (hp : s.liveTemplate ptr = true) (name : CStr)
    {value : Prog TemplateValue} (hv : value.Defined (fun _ s' => s' = s) s) (attributes : Int) :
    (templateSetNamed ptr name value attributes).Defined (fun _ s' => Ready s') s :=
  liveTemplate_bind hp fun _ _ => v8_self_bind rfl (fun _ => hR.callbacks) fun _ _ =>
    toChecked_bind fun _ _ => unchanged_bind hv fun _ => v8_self_last hR rfl

theorem templateSetAny_defined {ptr : TemplatePtr} {key : ValuePtr} (hp : s.liveTemplate ptr = true)
    (hk : s.liveValue key = true)
    {value : Prog TemplateValue} (hv : value.Defined (fun _ s' => s' = s) s) (attributes : Int) :
    (templateSetAny ptr key value attributes).Defined (fun _ s' => Ready s') s := by
  refine liveTemplate_bind hp fun _ _ => liveHandle_bind hR.toHealthy hk fun _ =>
    v8_self_bind rfl (fun _ => hR.callbacks) fun b _ => ?_
  cases b with
  | false => exact pure hR
  | true => exact pure_bind (unchanged_bind hv fun _ => v8_self_bind rfl (fun _ => hR.callbacks) fun _ _ => pure hR)

theorem templateValue_defined {val : ValuePtr} (hv : s.liveValue val = true) :
    (do pure (TemplateValue.value (← valueHandle val)) : Prog TemplateValue).Defined (fun _ s' => s' = s) s :=
  liveHandle_bind hR.toHealthy hv fun _ => pure rfl

theorem newObjectTemplate_defined {iso : IsolatePtr} (hi : s.liveIsolate iso = true) :
    (newObjectTemplate iso).Defined (fun _ s' => Ready s') s :=
  isolateScope_bind (State.liveIsolate_iff.mp hi)
    (v8_ready_bind hR trivial trivial fun _ _ hR₁ _ _ => newTemplate_ready hR₁)

theorem newFunctionTemplate_defined {iso : IsolatePtr} (hi : s.liveIsolate iso = true) (callback_ref : Int) :
    (newFunctionTemplate iso callback_ref).Defined (fun _ s' => Ready s') s :=
  isolateScope_bind (State.liveIsolate_iff.mp hi)
    (v8_ready_bind hR ⟨callback_ref, rfl⟩ trivial fun _ _ hR₁ _ _ => newTemplate_ready hR₁)

theorem objectTemplateNewInstance_defined {ptr : TemplatePtr} {ctx : ContextPtr} (hp : s.liveTemplate ptr = true)
    (hc : s.liveContext ctx = true) : (objectTemplateNewInstance ptr ctx).Defined (fun _ s' => Ready s') s := by
  obtain ⟨m, hm, -⟩ := State.liveContext_spec hc
  exact liveTemplate_bind hp fun _ hiso => contextHandle_bind hR.toHealthy hm fun _ _ =>
    v8_self_bind rfl (fun _ => hR.callbacks) fun r _ => rtnValue_ready hR hiso (by simp [hm]) _ r

/-- `FunctionTemplate::GetFunction` makes a function in a context of a live isolate. -/
theorem functionTemplateGetFunction_defined {ptr : TemplatePtr} {ctx : ContextPtr}
    (hp : s.liveTemplate ptr = true) (hc : s.liveContext ctx = true) :
    (functionTemplateGetFunction ptr ctx).Defined (fun _ s' => Ready s') s := by
  obtain ⟨m, hm, -⟩ := State.liveContext_spec hc
  exact liveTemplate_bind hp fun _ hiso => contextHandle_bind hR.toHealthy hm fun lc hlc =>
    v8_ready_bind hR trivial (fun r hr => hR.context_isolate ctx m lc r hm hlc hr)
      fun r _ hR' hcs hlive => rtnValue_ready hR' (hlive _ hiso) (by simp [hcs, hm]) _ r

/-! #### Contexts -/

/-- The new `m_ctx` holds the V8 context just made in the live isolate `iso`, whose slot 1
`SetEmbedderData` set. -/
theorem newContext_defined {iso : IsolatePtr} (hi : s.liveIsolate iso = true)
    {global_template_ptr : Option TemplatePtr} (ht : global_template_ptr.all s.liveTemplate = true) (ref : Int) :
    (newContext iso global_template_ptr ref).Defined (fun _ s' => Ready s') s := by
  have hiso := State.liveIsolate_iff.mp hi
  have cont : ∀ (g : V8Template) (s₁ : State), Ready s₁ → s₁.isolates iso ≠ none →
      ((Prog.v8 (.contextNew iso (some g))).bind fun local_ctx =>
        (Prog.v8 (.setEmbedderData local_ctx ref)).bind fun _ =>
          Prog.prim (.newContext { iso, vals := [], ptr := some local_ctx })).Defined
        (fun _ s' => Ready s') s₁ :=
    fun _ _ hR₁ hiso₁ => contextNew_bind hR₁ hiso₁ fun lc s₂ hR₂ hisos₂ hlc =>
      setEmbedderData_bind hR₂ fun _ s₃ hR₃ hisos₃ hv8 =>
        newContext_ready hR₃ (by simp) fun lc' r h₁ h₂ => by
          cases h₁
          obtain ⟨r₀, h₀, hr⟩ := hv8 _ r h₂
          rw [hlc] at h₀
          cases h₀
          rw [hisos₃, ← hr, hisos₂]
          exact hiso₁
  unfold newContext
  refine isolateScope_bind hiso ?_
  cases global_template_ptr with
  | none =>
    refine v8_bind (fun h => nomatch h) fun g s₁ h => ?_
    have h₁ := hR.v8 (c := .objectTemplateNew iso) trivial trivial h
    exact cont g s₁ h₁.1 (h₁.2 _ hiso)
  | some t =>
    obtain ⟨mt, hmt, -⟩ := State.liveTemplate_spec (by simpa using ht)
    exact getTemplate_bind hmt (pure_bind (cont _ _ hR hiso))

theorem runScript_defined {ctx : ContextPtr} (hc : s.liveContext ctx = true) (source origin : CStr) :
    (runScript ctx source origin).Defined (fun _ s' => Ready s') s := by
  obtain ⟨m, hm, -⟩ := State.liveContext_spec hc
  refine liveContext_bind hR hc fun lc hiso _ => v8_self_bind rfl (fun _ => hR.callbacks) fun r₁ _ =>
    v8_self_bind rfl (fun _ => hR.callbacks) fun r₂ _ => ?_
  rcases r₁ with tc | src
  · exact errorValue_ready hR hiso tc _
  rcases r₂ with tc | ogn
  · exact errorValue_ready hR hiso tc _
  refine v8_self_bind rfl (fun _ => hR.callbacks) fun r₃ _ => ?_
  rcases r₃ with tc | script
  · exact errorValue_ready hR hiso tc _
  exact v8_self_bind rfl (fun _ => hR.callbacks) fun r _ => rtnValue_ready hR hiso (by simp [hm]) _ r

theorem contextGlobal_defined {ctx : ContextPtr} (hc : s.liveContext ctx = true) :
    (contextGlobal ctx).Defined (fun _ s' => Ready s') s := by
  obtain ⟨m, hm, -⟩ := State.liveContext_spec hc
  exact liveContext_bind hR hc fun _ _ _ => v8_self_bind rfl (fun _ => hR.callbacks) fun _ _ =>
    trackedNewValue_ready hR (by simp [hm])

theorem newPromiseResolver_defined {ctx : ContextPtr} (hc : s.liveContext ctx = true) :
    (newPromiseResolver ctx).Defined (fun _ s' => Ready s') s := by
  obtain ⟨m, hm, -⟩ := State.liveContext_spec hc
  exact liveContext_bind hR hc fun _ hiso _ => v8_self_bind rfl (fun _ => hR.callbacks) fun r _ =>
    rtnValue_ready hR hiso (by simp [hm]) _ r

/-! #### Values made in the internal context -/

theorem newValue_defined {iso : IsolatePtr} (hi : s.liveInternal iso = true) (v : JSValue) :
    (newValue iso v).Defined (fun _ s' => Ready s') s := by
  obtain ⟨r, c, hr, hd, hc⟩ := State.liveInternal_spec hi
  exact isolateScopeInternalContext_bind hr hd (trackedNewValue_ready hR hc)

theorem newValueString_defined {iso : IsolatePtr} (hi : s.liveInternal iso = true) (v : CStr) :
    (newValueString iso v).Defined (fun _ s' => Ready s') s := by
  obtain ⟨r, c, hr, hd, hc⟩ := State.liveInternal_spec hi
  obtain ⟨m, hm⟩ := Option.ne_none_iff_exists'.mp hc
  refine isolateScopeInternalContext_bind hr hd (v8_self_bind rfl (fun _ => hR.callbacks) fun x _ => ?_)
  cases x with
  | error try_catch =>
    exact contextHandle_bind hR.toHealthy hm fun lc _ => errorValue_ready hR (by simp [hr]) try_catch lc
  | ok str => exact trackedNewValue_ready_bind hR hc fun _ _ h => pure h

theorem newValueBigIntFromWords_defined {iso : IsolatePtr} (hi : s.liveInternal iso = true)
    (sign_bit word_count : Int) (words : List UInt64) :
    (newValueBigIntFromWords iso sign_bit word_count words).Defined (fun _ s' => Ready s') s := by
  obtain ⟨r, c, hr, hd, hc⟩ := State.liveInternal_spec hi
  obtain ⟨m, hm⟩ := Option.ne_none_iff_exists'.mp hc
  exact isolateScopeInternalContext_bind hr hd (contextHandle_bind hR.toHealthy hm fun lc _ =>
    v8_self_bind rfl (fun _ => hR.callbacks) fun x _ => rtnValue_ready hR (by simp [hr]) hc lc x)

theorem newValueError_defined {iso : IsolatePtr} (hi : s.liveInternal iso = true)
    (idx : ErrorTypeIndex) (message : CStr) :
    (newValueError iso idx message).Defined (fun _ s' => Ready s') s := by
  obtain ⟨r, c, hr, hd, hc⟩ := State.liveInternal_spec hi
  obtain ⟨m, hm⟩ := Option.ne_none_iff_exists'.mp hc
  refine isolateScopeInternalContext_bind hr hd (contextHandle_bind hR.toHealthy hm fun _ _ =>
    v8_self_bind rfl (fun _ => hR.callbacks) fun x _ => toChecked_bind fun msg _ => ?_)
  split
  · exact pure hR
  · exact v8_self_bind rfl (fun _ => hR.callbacks) fun _ _ => trackedNewValue_ready_bind hR hc fun _ _ h => pure h

theorem builtinSymbol_defined {iso : IsolatePtr} (hi : s.liveInternal iso = true) (idx : SymbolIndex) :
    (builtinSymbol iso idx).Defined (fun _ s' => Ready s') s := by
  obtain ⟨r, c, hr, hd, hc⟩ := State.liveInternal_spec hi
  refine isolateScope_bind (by simp [hr]) (getData_bind hr ?_)
  split
  · exact pure hR
  · exact v8_self_bind rfl (fun _ => hR.callbacks) fun _ _ =>
      deref_bind hd (trackedNewValue_ready_bind hR hc fun _ _ h => pure h)

theorem objectGetKey_defined {lv : LocalValue} (hiso : s.isolates lv.iso ≠ none) (hc : s.contexts lv.ctx ≠ none)
    (k : PropertyKey) : (objectGetKey lv k).Defined (fun _ s' => Ready s') s :=
  v8_self_bind rfl (fun _ => hR.callbacks) fun r _ => rtnValue_ready hR hiso hc _ r

theorem valueSameValue_defined {val1 val2 : ValuePtr} (h₁ : s.liveValue val1 = true)
    (h₂ : s.liveValue val2 = true) : (valueSameValue val1 val2).Defined (fun _ s' => Ready s') s := by
  obtain ⟨v₁, hv₁, hiso⟩ := State.liveValue_spec h₁
  obtain ⟨x, hx⟩ := Option.ne_none_iff_exists'.mp (hR.value_ptr _ _ hv₁)
  exact getValue_bind hv₁ (isolateScope_bind hiso (deref_bind hx
    (liveHandle_bind hR.toHealthy h₂ fun _ => v8_self_last hR rfl)))

section Owned

variable (ho : Owned s)
include ho

theorem contextFree_defined (ctx : Option ContextPtr) (hc : ctx.all s.liveContext = true) :
    (contextFree ctx).Defined (fun _ s' => Ready s') s := by
  cases ctx with
  | none => exact pure hR
  | some c =>
    obtain ⟨m, hm, -⟩ := State.liveContext_spec (by simpa using hc)
    exact contextFree_live hR ho hm

/-! #### Values -/

theorem valueToArrayIndex_defined {ptr : ValuePtr} (hp : s.liveValue ptr = true) :
    (valueToArrayIndex ptr).Defined (fun _ s' => Ready s') s :=
  liveValue_bind hR ho hp fun _ _ _ => v8_self_bind rfl (fun _ => hR.callbacks) fun x _ => by
    cases x <;> exact pure hR

theorem valueToBoolean_defined {ptr : ValuePtr} (hp : s.liveValue ptr = true) :
    (valueToBoolean ptr).Defined (fun _ s' => Ready s') s :=
  liveValue_bind hR ho hp fun _ _ _ => v8_self_last hR rfl

theorem valueToChecked_defined {α : Type} (conv : V8Context → JSValue → V8Call (Except Caught α))
    (hconv : ∀ lc v, (conv lc v).changesHeap = false) {ptr : ValuePtr} (hp : s.liveValue ptr = true) :
    (valueToChecked conv ptr).Defined (fun _ s' => Ready s') s :=
  liveValue_bind hR ho hp fun _ _ _ => v8_self_bind (hconv _ _) (fun _ => hR.callbacks) fun r _ =>
    toChecked_last r fun _ => hR

theorem valueToDetailString_defined {ptr : ValuePtr} (hp : s.liveValue ptr = true) :
    (valueToDetailString ptr).Defined (fun _ s' => Ready s') s :=
  liveValue_bind hR ho hp fun lv hiso _ => v8_self_bind rfl (fun _ => hR.callbacks) fun x _ => by
    cases x with
    | error try_catch =>
      exact bind ((exceptionError_defined hR.callbacks hiso try_catch _).mono fun _ _ h => h ▸ pure hR)
    | ok str => exact v8_self_bind rfl (fun _ => hR.callbacks) fun _ _ => pure hR

theorem valueToString_defined {ptr : ValuePtr} (hp : s.liveValue ptr = true) :
    (valueToString ptr).Defined (fun _ s' => Ready s') s :=
  liveValue_bind hR ho hp fun _ _ _ => v8_self_bind rfl (fun _ => hR.callbacks) fun _ _ => pure hR

theorem valueToBigInt_defined {ptr : ValuePtr} (hp : s.liveValue ptr = true) :
    (valueToBigInt ptr).Defined (fun _ s' => Ready s') s :=
  liveValue_bind hR ho hp fun _ _ _ => v8_self_bind rfl (fun _ => hR.callbacks) fun x _ => by
    cases x with
    | error => exact pure hR
    | ok bint => exact v8_self_bind rfl (fun _ => hR.callbacks) fun _ _ => pure hR

theorem valueToObject_defined {ptr : ValuePtr} (hp : s.liveValue ptr = true) :
    (valueToObject ptr).Defined (fun _ s' => Ready s') s :=
  liveValue_bind hR ho hp fun _ hiso ⟨_, hm, _⟩ => v8_self_bind rfl (fun _ => hR.callbacks)
    fun r _ => rtnValue_ready hR hiso (by simp [hm]) _ r

theorem valueIs_defined (t : ValueTest) {ptr : ValuePtr} (hp : s.liveValue ptr = true) :
    (valueIs t ptr).Defined (fun _ s' => Ready s') s :=
  liveValue_bind hR ho hp fun _ _ _ => v8_self_last hR rfl

theorem exceptionGetMessageString_defined {ptr : ValuePtr} (hp : s.liveValue ptr = true) :
    (exceptionGetMessageString ptr).Defined (fun _ s' => Ready s') s :=
  liveValue_bind hR ho hp fun _ _ _ => v8_self_bind rfl (fun _ => hR.callbacks) fun _ _ =>
    v8_self_bind rfl (fun _ => hR.callbacks) fun _ _ => pure hR

theorem jsonStringify_defined (ctx : Option ContextPtr) (hc : ctx.all s.liveContext = true) {val : ValuePtr}
    (hv : s.liveValue val = true) : (jsonStringify ctx val).Defined (fun _ s' => Ready s') s := by
  obtain ⟨v, hv', hviso⟩ := State.liveValue_spec hv
  have tail : ∀ lc : V8Context, ((valueHandle val).bind fun value =>
      (Prog.v8 (.jsonStringify lc value)).bind fun
        | .error _ => Prog.pure none
        | .ok str => (Prog.v8 (.utf8Value (some str))).bind fun json => Prog.pure json.copyString).Defined
      (fun _ s' => Ready s') s := fun lc =>
    liveHandle_bind hR.toHealthy hv fun _ => v8_self_bind rfl (fun _ => hR.callbacks) fun r _ => by
      cases r with
      | error => exact pure hR
      | ok => exact v8_self_bind rfl (fun _ => hR.callbacks) fun _ _ => pure hR
  unfold jsonStringify
  cases ctx with
  | some c =>
    obtain ⟨m, hm, hiso⟩ := State.liveContext_spec (by simpa using hc)
    dsimp only
    exact getContext_bind hm (pure_bind (isolateScope_bind hiso
      (contextHandle_bind hR.toHealthy hm fun lc _ => tail lc)))
  | none =>
    obtain ⟨c, hvc, hc'⟩ := ho.owner val v hv'
    obtain ⟨m, hm⟩ := Option.ne_none_iff_exists'.mp hc'
    dsimp only
    refine getValue_bind hv' (pure_bind (isolateScope_bind hviso (getValue_bind hv' ?_)))
    rw [hvc]
    exact contextHandle_bind hR.toHealthy hm fun lc _ => tail lc

/-! #### Objects -/

theorem objectSetKey_defined {ptr prop_val : ValuePtr} (hp : s.liveValue ptr = true) {key : Prog PropertyKey}
    (hk : key.Defined (fun _ s' => s' = s) s) (hv : s.liveValue prop_val = true) :
    (objectSetKey ptr key prop_val).Defined (fun _ s' => Ready s') s :=
  liveValue_bind hR ho hp fun _ _ _ => unchanged_bind hk fun _ => liveHandle_bind hR.toHealthy hv fun _ =>
    v8_self_bind rfl (fun _ => hR.callbacks) fun _ _ => toChecked_bind fun _ _ => pure hR

theorem objectGet_defined {ptr : ValuePtr} (hp : s.liveValue ptr = true) (key : CStr) :
    (objectGet ptr key).Defined (fun _ s' => Ready s') s :=
  liveValue_bind hR ho hp fun _ hiso ⟨_, hm, _⟩ => v8_self_bind rfl (fun _ => hR.callbacks) fun r _ => by
    cases r with
    | error try_catch => exact errorValue_ready hR hiso try_catch _
    | ok key_val => exact objectGetKey_defined hR hiso (by simp [hm]) _

theorem objectGetAnyKey_defined {ptr key : ValuePtr} (hp : s.liveValue ptr = true) (hk : s.liveValue key = true) :
    (objectGetAnyKey ptr key).Defined (fun _ s' => Ready s') s :=
  liveValue_bind hR ho hp fun _ hiso ⟨_, hm, _⟩ => liveHandle_bind hR.toHealthy hk fun _ =>
    objectGetKey_defined hR hiso (by simp [hm]) _

theorem objectGetIdx_defined {ptr : ValuePtr} (hp : s.liveValue ptr = true) (idx : Nat) :
    (objectGetIdx ptr idx).Defined (fun _ s' => Ready s') s :=
  liveValue_bind hR ho hp fun _ hiso ⟨_, hm, _⟩ => objectGetKey_defined hR hiso (by simp [hm]) _

theorem objectQuery_defined {query : V8Context → JSValue → PropertyKey → V8Call (Except Caught Bool)}
    (hq : ∀ lc v k, (query lc v k).changesHeap = false) {ptr : ValuePtr} (hp : s.liveValue ptr = true)
    {key : Prog PropertyKey} (hk : key.Defined (fun _ s' => s' = s) s) :
    (objectQuery query ptr key).Defined (fun _ s' => Ready s') s :=
  liveValue_bind hR ho hp fun _ _ _ => unchanged_bind hk fun _ =>
    v8_self_bind (hq _ _ _) (fun _ => hR.callbacks) fun r _ => toChecked_last r fun _ => hR

theorem symbolDescription_defined {ptr : ValuePtr} (hp : s.liveValue ptr = true) :
    (symbolDescription ptr).Defined (fun _ s' => Ready s') s :=
  liveValue_bind hR ho hp fun _ _ _ => v8_self_bind rfl (fun _ => hR.callbacks) fun _ _ =>
    v8_self_bind rfl (fun _ => hR.callbacks) fun _ _ => pure hR

/-! #### Promises and functions -/

theorem promiseResolverGetPromise_defined {ptr : ValuePtr} (hp : s.liveValue ptr = true) :
    (promiseResolverGetPromise ptr).Defined (fun _ s' => Ready s') s :=
  liveValue_bind hR ho hp fun _ _ ⟨_, hm, _⟩ => v8_self_bind rfl (fun _ => hR.callbacks) fun _ _ =>
    trackedNewValue_ready hR (by simp [hm])

theorem promiseResolverSettle_defined {settle : V8Context → JSValue → JSValue → V8Call (Except Caught Bool)}
    (hsettle : ∀ lc p v, (settle lc p v).changesHeap = false) {ptr val : ValuePtr} (hp : s.liveValue ptr = true)
    (hv : s.liveValue val = true) : (promiseResolverSettle settle ptr val).Defined (fun _ s' => Ready s') s :=
  liveValue_bind hR ho hp fun _ _ _ => liveHandle_bind hR.toHealthy hv fun _ =>
    v8_self_bind (hsettle _ _ _) (fun _ => hR.callbacks) fun r _ => toChecked_last r fun _ => hR

theorem promiseState_defined {ptr : ValuePtr} (hp : s.liveValue ptr = true) :
    (promiseState ptr).Defined (fun _ s' => Ready s') s :=
  liveValue_bind hR ho hp fun _ _ _ => v8_self_last hR rfl

theorem promiseResult_defined {ptr : ValuePtr} (hp : s.liveValue ptr = true) :
    (promiseResult ptr).Defined (fun _ s' => Ready s') s :=
  liveValue_bind hR ho hp fun _ _ ⟨_, hm, _⟩ => v8_self_bind rfl (fun _ => hR.callbacks) fun _ _ =>
    trackedNewValue_ready hR (by simp [hm])

theorem functionSourceMapUrl_defined {ptr : ValuePtr} (hp : s.liveValue ptr = true) :
    (functionSourceMapUrl ptr).Defined (fun _ s' => Ready s') s :=
  liveValue_bind hR ho hp fun _ _ ⟨_, hm, _⟩ => v8_self_bind rfl (fun _ => hR.callbacks) fun _ _ =>
    trackedNewValue_ready hR (by simp [hm])

/-- `PromiseThen` and `PromiseCatch`: the handler is made in the promise's context, whose isolate
is live; the rest runs in the `Ready` state `Function::New` left, with the same contexts. -/
theorem promiseHandler_defined {ptr : ValuePtr} (hp : s.liveValue ptr = true) (callback_ref : Int)
    (attach : V8Context → JSValue → JSValue → V8Call (Except Caught JSValue))
    (hattach : ∀ lc p f, (attach lc p f).changesHeap = false) :
    ((localValue ptr).bind fun lv => (Prog.v8 (.functionNew lv.localCtx (.integer callback_ref))).bind fun
      | .error try_catch => errorValue try_catch lv.iso lv.localCtx
      | .ok func => (Prog.v8 (attach lv.localCtx lv.value func)).bind fun r =>
          rtnValue lv.iso lv.ctx lv.localCtx r).Defined (fun _ s' => Ready s') s :=
  liveValue_bind hR ho hp fun _ hiso ⟨_, hm, hlc⟩ => functionNew_bind hR hm hlc _ fun r _ hR₁ hc₁ hlive => by
    cases r with
    | error try_catch => exact errorValue_ready hR₁ (hlive _ hiso) try_catch _
    | ok func => exact v8_self_bind (hattach _ _ _) (fun _ => hR₁.callbacks) fun r _ =>
        rtnValue_ready hR₁ (hlive _ hiso) (by simp [hc₁, hm]) _ r

theorem promiseThen_defined {ptr : ValuePtr} (hp : s.liveValue ptr = true) (callback_ref : Int) :
    (promiseThen ptr callback_ref).Defined (fun _ s' => Ready s') s :=
  promiseHandler_defined hR ho hp callback_ref _ fun _ _ _ => rfl

theorem promiseCatch_defined {ptr : ValuePtr} (hp : s.liveValue ptr = true) (callback_ref : Int) :
    (promiseCatch ptr callback_ref).Defined (fun _ s' => Ready s') s :=
  promiseHandler_defined hR ho hp callback_ref _ fun _ _ _ => rfl

/-- The second handler is made in the state the first left, which is `Ready` with the same
contexts. -/
theorem promiseThen2_defined {ptr : ValuePtr} (hp : s.liveValue ptr = true) (on_fulfilled_ref on_rejected_ref : Int) :
    (promiseThen2 ptr on_fulfilled_ref on_rejected_ref).Defined (fun _ s' => Ready s') s :=
  liveValue_bind hR ho hp fun _ hiso ⟨_, hm, hlc⟩ => functionNew_bind hR hm hlc _ fun r _ hR₁ hc₁ hlive₁ => by
    cases r with
    | error try_catch => exact errorValue_ready hR₁ (hlive₁ _ hiso) try_catch _
    | ok func =>
      refine functionNew_bind hR₁ (by rw [hc₁]; exact hm) hlc _ fun r _ hR₂ hc₂ hlive₂ => ?_
      have hiso₂ := hlive₂ _ (hlive₁ _ hiso)
      cases r with
      | error try_catch => exact errorValue_ready hR₂ hiso₂ try_catch _
      | ok func => exact v8_self_bind rfl (fun _ => hR₂.callbacks) fun r _ =>
          rtnValue_ready hR₂ hiso₂ (by simp [hc₂, hc₁, hm]) _ r

theorem functionCall_defined {ptr recv : ValuePtr} (hp : s.liveValue ptr = true) (hr : s.liveValue recv = true)
    {argc : Nat} {args : Array ValuePtr} (hargs : ∀ i ∈ List.range argc, args[i]?.any s.liveValue = true) :
    (functionCall ptr recv argc args).Defined (fun _ s' => Ready s') s :=
  liveValue_bind hR ho hp fun _ hiso ⟨_, hm, _⟩ =>
    unchanged_bind (buildCallArgumentsLoop_defined hR.toHealthy hargs fun i hi => by simpa using hi) fun _ =>
      liveHandle_bind hR.toHealthy hr fun _ => v8_self_bind rfl (fun _ => hR.callbacks) fun r _ =>
        rtnValue_ready hR hiso (by simp [hm]) _ r

theorem functionNewInstance_defined {ptr : ValuePtr} (hp : s.liveValue ptr = true)
    {argc : Nat} {args : Array ValuePtr} (hargs : ∀ i ∈ List.range argc, args[i]?.any s.liveValue = true) :
    (functionNewInstance ptr argc args).Defined (fun _ s' => Ready s') s :=
  liveValue_bind hR ho hp fun _ hiso ⟨_, hm, _⟩ =>
    unchanged_bind (buildCallArgumentsLoop_defined hR.toHealthy hargs fun i hi => by simpa using hi) fun _ =>
      v8_self_bind rfl (fun _ => hR.callbacks) fun r _ => rtnValue_ready hR hiso (by simp [hm]) _ r

end Owned

end Ready

end V8go
