import V8go.Safety.Healthy
import V8go.Bridge.Callbacks

/-!
# Safety — programs that stay defined

`p.Defined Q s` says that no run of `p` from `s` in which the host is not called ends in undefined
behaviour, and that one that returns `a` ends in a state satisfying `Q a`.  The host's calls are
counted by the `call` events of the log (`State.hostCalls`): a run in which the count does not
move is one in which no callback reached `goFunctionCallback`, so that every step of it is the
bridge's own code or an engine answer.

The rules are stated once, in composite form: each takes the continuation's `Defined` at the state
the step leaves (`Defined.bind`, `Defined.getValue_bind`, `Defined.v8_bind`, ...).  A V8 call that
may run script may call back into the bridge first; `State.CallbacksDefined` asks that such a
callback has no undefined behaviour before the host runs.

* `Ready.callbacks`: in a `Healthy` state where every bridge function belongs to a live isolate,
  every callback the engine can make is defined up to the host: the isolate scope, the cast of
  slot 1 to `Integer`, the host's context registry, the cast of the function's data, the wrappers
  and the array handed to the host are all safe.
* The rules for the scopes of `Source.Core` (`localValue_bind`, `localContext_bind`, ...) derive the
  liveness of what a scope reads from `Owned` and `Healthy`: a live wrapper's `ctx` is a live
  context, and a live context holds its handle.
-/

namespace V8go

/-! ### The host's calls -/

/-- A call of the host from a callback. -/
def Event.isCall : Event → Bool
  | .call .. => true
  | _ => false

/-- The number of times the host has been called from a callback. -/
def State.hostCalls (s : State) : Nat := s.log.countP Event.isCall

namespace Run

variable {α : Type} {s s' : State}

/-- A run only appends to the log. -/
theorem log_append {p : Prog α} {o : Outcome α} (h : Run s p o s') : ∃ L, s'.log = s.log ++ L := by
  induction h with
  | pure | primStop | fail | hostReturn | hostPaused => exact ⟨[], by simp⟩
  | bind _ _ ih₁ ih₂ | callback _ _ _ _ ih₁ ih₂ =>
    obtain ⟨L₁, h₁⟩ := ih₁
    obtain ⟨L₂, h₂⟩ := ih₂
    exact ⟨L₁ ++ L₂, by simp [h₁, h₂]⟩
  | bindStop _ ih | bindPaused _ ih | callbackStop _ _ _ ih | callbackPaused _ _ _ ih
  | hostCallStop _ _ ih | hostCallPaused _ _ ih => exact ih
  | prim h => exact ⟨_, Prim.step_log h⟩
  | v8 h => exact ⟨[], by simp [(V8Call.apply_frame h).2.2.2.1]⟩
  | @hostCall _ _ _ _ op b _ _ _ ih₁ ih₂ =>
    obtain ⟨L₁, h₁⟩ := ih₁
    obtain ⟨L₂, h₂⟩ := ih₂
    exact ⟨L₁ ++ ((op.handed b).map .handOver ++ L₂), by simp [h₁, h₂]⟩

theorem hostCalls_le {p : Prog α} {o : Outcome α} (h : Run s p o s') : s.hostCalls ≤ s'.hostCalls := by
  obtain ⟨L, hL⟩ := h.log_append
  simp [State.hostCalls, hL, List.countP_append]

/-- A callback that returns has called the host. -/
theorem hostCalls_callback {info : FunctionCallbackInfo} {r : JSValue}
    (h : Run s (functionTemplateCallback info) (.ret r) s') : s.hostCalls < s'.hostCalls := by
  obtain ⟨c, k, ctx, s₁, w, -, -, -, hl, -, hhost, -⟩ :=
    callbackSpec_ret ((functionTemplateCallback_equiv info s _ s').mp h)
  have hcount : s₁.hostCalls = s.hostCalls + 1 := by
    simp [State.hostCalls, hl, List.countP_append, Event.isCall, List.countP_eq_zero]
  have := hhost.hostCalls_le
  omega

end Run

/-! ### `Defined` -/

/-- No run of `p` from `s` in which the host is not called ends in undefined behaviour, and one
that returns `a` ends in a state satisfying `Q a`. -/
def Prog.Defined {α : Type} (p : Prog α) (Q : α → State → Prop) (s : State) : Prop :=
  ∀ o s', Run s p o s' → s'.hostCalls = s.hostCalls →
    o ≠ .stop .undefined ∧ ∀ a, o = .ret a → Q a s'

/-- The callbacks the engine can make in `s` have no undefined behaviour before the host runs. -/
def State.CallbacksDefined (s : State) : Prop :=
  ∀ f this args info, s.invocation f this args = some info →
    (functionTemplateCallback info).Defined (fun _ _ => True) s

/-- Whether an engine answer to the call may change the modelled heap. -/
def V8Call.changesHeap : V8Call α → Bool
  | .isolateNew | .isolateDispose _ | .contextNew .. | .setEmbedderData .. | .objectTemplateNew _
  | .functionTemplateNew .. | .functionTemplateGetFunction .. | .functionNew .. => true
  | _ => false

/-- An answer to a call that does not change the heap leaves the state as it was. -/
theorem V8Call.apply_self {c : V8Call α} {r : α} {s s' : State} (hc : c.changesHeap = false)
    (h : c.apply r s = some s') : s' = s := by
  unfold V8Call.apply at h
  split at h
  · cases c <;> first | exact (Option.some.inj h).symm | cases hc
  · cases h

namespace Prog.Defined

variable {α β : Type} {s : State} {Q Q' : α → State → Prop}

theorem mono {p : Prog α} (h : p.Defined Q s) (hQ : ∀ a s', Q a s' → Q' a s') : p.Defined Q' s :=
  fun o s' hr hc => ⟨(h o s' hr hc).1, fun a ha => hQ _ _ ((h o s' hr hc).2 a ha)⟩

theorem of_equiv {p q : Prog α} (hpq : p ≈ q) (h : q.Defined Q s) : p.Defined Q s :=
  fun o s' hr => h o s' ((hpq s o s').mp hr)

theorem pure {a : α} (h : Q a s) : (Prog.pure a).Defined Q s := fun o s' hr _ => by
  obtain ⟨rfl, rfl⟩ := Run.pure_iff.mp hr
  exact ⟨by simp, fun _ ha => by cases ha; exact h⟩

theorem fail {e : Failure} (he : e ≠ .undefined) : (Prog.fail e : Prog α).Defined Q s :=
  fun o s' hr _ => by
    obtain ⟨rfl, rfl⟩ := Run.fail_iff.mp hr
    exact ⟨fun h => he (Outcome.stop.inj h), fun _ ha => by cases ha⟩

theorem bind {p : Prog α} {f : α → Prog β} {Q : β → State → Prop}
    (h : p.Defined (fun a s₁ => (f a).Defined Q s₁) s) : (p.bind f).Defined Q s := by
  intro o s' hr hc
  rcases Run.bind_iff.mp hr with ⟨a, s₁, h₁, h₂⟩ | ⟨e, rfl, h₁⟩ | ⟨rfl, -⟩
  · have hc₁ : s₁.hostCalls = s.hostCalls :=
      Nat.le_antisymm (hc ▸ h₂.hostCalls_le) h₁.hostCalls_le
    exact (h _ _ h₁ hc₁).2 a rfl o s' h₂ (hc.trans hc₁.symm)
  · exact ⟨fun he => (h _ _ h₁ hc).1 (by cases he; rfl), fun _ ha => by cases ha⟩
  · exact ⟨by simp, fun _ ha => by cases ha⟩

theorem prim {p : Prim α} (hok : ∀ a s', p.step s = .ok (a, s') → Q a s')
    (herr : ∀ e, p.step s = .error e → e ≠ .undefined) : (Prog.prim p).Defined Q s := by
  intro o s' hr _
  rcases Run.prim_iff.mp hr with ⟨a, h, rfl⟩ | ⟨e, h, rfl, rfl⟩
  · exact ⟨by simp, fun _ ha => by cases ha; exact hok _ _ h⟩
  · exact ⟨fun h' => herr e h (Outcome.stop.inj h'), fun _ ha => by cases ha⟩

/-- The engine's answer, after any callbacks: a callback that returns has called the host, and
one that stops is defined by `CallbacksDefined`. -/
theorem v8 {c : V8Call α} (hcb : c.runsScript → s.CallbacksDefined)
    (hQ : ∀ r s', c.apply r s = some s' → Q r s') : (Prog.v8 c).Defined Q s := by
  intro o s' hr hc
  cases hr with
  | v8 h => exact ⟨by simp, fun _ ha => by cases ha; exact hQ _ _ h⟩
  | callback _ _ h₁ h₂ =>
    have := Run.hostCalls_callback h₁
    have := h₂.hostCalls_le
    omega
  | callbackStop hs hinv h₁ =>
    exact ⟨fun he => (hcb hs _ _ _ _ hinv _ _ h₁ hc).1 (by cases he; rfl), fun _ ha => by cases ha⟩
  | callbackPaused => exact ⟨by simp, fun _ ha => by cases ha⟩

/-! ### Composite rules -/

variable {f : α → Prog β} {Q : β → State → Prop}

theorem prim_bind {p : Prim α} {a : α} {s₁ : State} (hp : p.step s = .ok (a, s₁))
    (hk : (f a).Defined Q s₁) : ((Prog.prim p).bind f).Defined Q s :=
  bind (prim (fun _ _ h => by rw [hp] at h; cases h; exact hk) fun _ h => by rw [hp] at h; cases h)

theorem prim_stop_bind {p : Prim α} {e : Failure} (hp : p.step s = .error e) (he : e ≠ .undefined) :
    ((Prog.prim p).bind f).Defined Q s :=
  bind (prim (fun _ _ h => by rw [hp] at h; cases h) fun _ h => by rw [hp] at h; cases h; exact he)

theorem deref_bind {o : Option α} {a : α} (h : o = some a) (hk : (f a).Defined Q s) :
    ((Prog.deref o).bind f).Defined Q s := by
  subst h
  exact bind (pure hk)

theorem toChecked_bind {r : Except Caught α} (hk : ∀ a, r = .ok a → (f a).Defined Q s) :
    ((Prog.toChecked r).bind f).Defined Q s := by
  cases r with
  | error => exact bind (fail (by simp))
  | ok a => exact bind (pure (hk a rfl))

theorem v8_bind {c : V8Call α} (hcb : c.runsScript → s.CallbacksDefined)
    (hk : ∀ r s', c.apply r s = some s' → (f r).Defined Q s') : ((Prog.v8 c).bind f).Defined Q s :=
  bind (v8 hcb hk)

/-- A V8 call whose answers leave the heap alone. -/
theorem v8_self_bind {c : V8Call α} (hc : c.changesHeap = false)
    (hcb : c.runsScript → s.CallbacksDefined) (hk : ∀ r, c.admits r → (f r).Defined Q s) :
    ((Prog.v8 c).bind f).Defined Q s :=
  v8_bind hcb fun r _ h => V8Call.apply_self hc h ▸ hk r (V8Call.apply_admits h)

theorem storeAt_bind {γ : Type} {a : Array γ} {i : Nat} {v : γ} {g : Array γ → Prog β}
    (hi : i < a.size) (hk : (g (a.set ⟨i, hi⟩ v)).Defined Q s) : ((storeAt a i v).bind g).Defined Q s := by
  unfold storeAt
  rw [dif_pos hi]
  exact bind (pure hk)

/-- Past the hand-over to the host, a run has called the host. -/
theorem dispatch_bind {g : Unit → Prog β} {c k : Int} {a : Array (Option ValuePtr)} {n : Nat}
    {ws : List ValuePtr} (h : handedArgs a n = some ws) :
    ((Prog.prim (.dispatch c k a n)).bind g).Defined Q s := by
  intro o s' hr hc
  rcases Run.bind_iff.mp hr with ⟨_, s₁, h₁, h₂⟩ | ⟨e, rfl, h₁⟩ | ⟨rfl, -⟩
  · obtain ⟨_, -, rfl⟩ := Run.dispatch_ret h₁
    have := h₂.hostCalls_le
    simp [State.hostCalls, List.countP_append, Event.isCall] at this hc
    omega
  · rcases Run.prim_iff.mp h₁ with ⟨_, -, h'⟩ | ⟨_, hs, -, -⟩
    · cases h'
    · simp [Prim.step, h] at hs
  · exact ⟨by simp, fun _ ha => by cases ha⟩

theorem pure_bind {a : α} (hk : (f a).Defined Q s) : ((Prog.pure a).bind f).Defined Q s :=
  bind (pure hk)

theorem bind_assoc {γ : Type} {p : Prog γ} {g : γ → Prog α}
    (h : (p.bind fun c => (g c).bind f).Defined Q s) : ((p.bind g).bind f).Defined Q s :=
  of_equiv (Prog.Equiv.bind_assoc _ _ _) h

/-! ### The scopes of `Source.Core` -/

theorem isolateScope_bind {iso : IsolatePtr} {g : Unit → Prog β} (h : s.isolates iso ≠ none)
    (hk : (g ()).Defined Q s) : ((isolateScope iso).bind g).Defined Q s := by
  obtain ⟨r, hr⟩ := Option.ne_none_iff_exists'.mp h
  exact prim_bind (by simp [Prim.step, hr]) hk

theorem getValue_bind {w : ValuePtr} {v : MValue} {g : MValue → Prog β} (hv : s.values w = some v)
    (hk : (g v).Defined Q s) : ((Prog.prim (.getValue w)).bind g).Defined Q s :=
  prim_bind (by simp [Prim.step, hv]) hk

theorem getContext_bind {c : ContextPtr} {m : MCtx} {g : MCtx → Prog β} (hc : s.contexts c = some m)
    (hk : (g m).Defined Q s) : ((Prog.prim (.getContext c)).bind g).Defined Q s :=
  prim_bind (by simp [Prim.step, hc]) hk

theorem getTemplate_bind {t : TemplatePtr} {mt : MTemplate} {g : MTemplate → Prog β}
    (ht : s.templates t = some mt) (hk : (g mt).Defined Q s) :
    ((Prog.prim (.getTemplate t)).bind g).Defined Q s :=
  prim_bind (by simp [Prim.step, ht]) hk

theorem getData_bind {iso : IsolatePtr} {r : IsolateRec} {g : Option ContextPtr → Prog β}
    (hr : s.isolates iso = some r) (hk : (g r.data0).Defined Q s) :
    ((isolateInternalContext iso).bind g).Defined Q s :=
  prim_bind (by simp [Prim.step, hr]) hk

/-- `ctx->ptr.Get(iso)` of a live context, which holds its handle. -/
theorem contextHandle_bind (hH : Healthy s) {c : ContextPtr} {m : MCtx} {g : V8Context → Prog β}
    (hc : s.contexts c = some m) (hk : ∀ lc, m.ptr = some lc → (g lc).Defined Q s) :
    ((contextHandle c).bind g).Defined Q s := by
  obtain ⟨lc, hlc⟩ := Option.ne_none_iff_exists'.mp (hH.context_ptr c m hc)
  exact bind_assoc (getContext_bind hc (deref_bind hlc (hk lc hlc)))

/-- `val->ptr.Get(iso)` of a live wrapper, which holds its handle. -/
theorem valueHandle_bind (hH : Healthy s) {w : ValuePtr} {v : MValue} {g : JSValue → Prog β}
    (hv : s.values w = some v) (hk : ∀ x, v.ptr = some x → (g x).Defined Q s) :
    ((valueHandle w).bind g).Defined Q s := by
  obtain ⟨x, hx⟩ := Option.ne_none_iff_exists'.mp (hH.value_ptr w v hv)
  exact bind_assoc (getValue_bind hv (deref_bind hx (hk x hx)))

/-- `ISOLATE_SCOPE_INTERNAL_CONTEXT(iso)` of an isolate whose internal context is live. -/
theorem isolateScopeInternalContext_bind {iso : IsolatePtr} {r : IsolateRec} {c : ContextPtr}
    {g : ContextPtr → Prog β} (hr : s.isolates iso = some r) (hd : r.data0 = some c)
    (hk : (g c).Defined Q s) : ((isolateScopeInternalContext iso).bind g).Defined Q s :=
  bind_assoc (isolateScope_bind (by simp [hr]) (bind_assoc (getData_bind hr (deref_bind hd hk))))

/-- `LOCAL_TEMPLATE(tmpl)` of a live template of a live isolate. -/
theorem localTemplate_bind {t : TemplatePtr} {mt : MTemplate} {g : LocalTemplate → Prog β}
    (ht : s.templates t = some mt) (hiso : s.isolates mt.iso ≠ none) (hk : (g ⟨mt.iso, mt.ptr⟩).Defined Q s) :
    ((localTemplate t).bind g).Defined Q s :=
  bind_assoc (getTemplate_bind ht (bind_assoc (isolateScope_bind hiso (pure_bind hk))))

/-- `LOCAL_CONTEXT(ctx)` of a live context of a live isolate. -/
theorem localContext_bind (hH : Healthy s) {c : ContextPtr} {m : MCtx} {g : LocalContext → Prog β}
    (hc : s.contexts c = some m) (hiso : s.isolates m.iso ≠ none)
    (hk : ∀ lc, m.ptr = some lc → (g ⟨m.iso, lc⟩).Defined Q s) : ((localContext c).bind g).Defined Q s := by
  obtain ⟨lc, hlc⟩ := Option.ne_none_iff_exists'.mp (hH.context_ptr c m hc)
  exact bind_assoc (getContext_bind hc (bind_assoc (isolateScope_bind hiso
    (bind_assoc (deref_bind hlc (pure_bind (hk lc hlc)))))))

/-- `LOCAL_VALUE(val)` of a live wrapper of a live isolate: its `ctx` is a live context (`Owned`),
which holds its handle, and so does the wrapper. -/
theorem localValue_bind (hH : Healthy s) (ho : Owned s) {w : ValuePtr} {v : MValue}
    {g : LocalValue → Prog β} (hv : s.values w = some v) (hiso : s.isolates v.iso ≠ none)
    (hk : ∀ lv, lv.iso = v.iso → (∃ m, s.contexts lv.ctx = some m ∧ m.ptr = some lv.localCtx) →
      (g lv).Defined Q s) : ((localValue w).bind g).Defined Q s := by
  obtain ⟨c, hc, hlive⟩ := ho.owner w v hv
  obtain ⟨m, hm⟩ := Option.ne_none_iff_exists'.mp hlive
  obtain ⟨x, hx⟩ := Option.ne_none_iff_exists'.mp (hH.value_ptr w v hv)
  refine bind_assoc (getValue_bind hv (bind_assoc (isolateScope_bind hiso ?_)))
  rw [hc]
  exact bind_assoc (pure_bind (bind_assoc (contextHandle_bind hH hm fun lc hlc =>
    bind_assoc (deref_bind hx (pure_bind (hk _ rfl ⟨m, hm, hlc⟩))))))

/-! ### New wrappers and error records -/

theorem trackedNewValue_bind {iso : IsolatePtr} {ctx : ContextPtr} {v : JSValue}
    {g : ValuePtr → Prog β} (hc : s.contexts ctx ≠ none)
    (hk : ∀ w s₁, s.trackedValue ctx { iso, ctx := some ctx, ptr := some v } = some (w, s₁) →
      (g w).Defined Q s₁) : ((trackedNewValue iso ctx v).bind g).Defined Q s := by
  obtain ⟨m, hm⟩ := Option.ne_none_iff_exists'.mp hc
  obtain ⟨⟨w, s₁⟩, h⟩ : ∃ r, s.trackedValue ctx { iso, ctx := some ctx, ptr := some v } = some r := by
    simp [State.trackedValue, hm]
  exact prim_bind (by simp [Prim.step, h]) (hk w s₁ h)

theorem exceptionError_defined (hcb : s.CallbacksDefined) {iso : IsolatePtr} (hiso : s.isolates iso ≠ none)
    (try_catch : Caught) (ctx : V8Context) :
    (exceptionError try_catch iso ctx).Defined (fun _ s' => s' = s) s := by
  have hstack : ∀ exception location : Option CBuf,
      (Prog.bind (Prog.v8 (.stackTrace ctx try_catch.exception)) fun st =>
        match st with
        | some mstack => Prog.bind (Prog.v8 (.utf8Value (some mstack))) fun stack =>
          Prog.bind (Prog.pure stack.copyString) fun y =>
            Prog.pure ({ msg := exception, location, stack := y } : RtnError)
        | none => Prog.bind (Prog.pure none) fun y =>
            Prog.pure ({ msg := exception, location, stack := y } : RtnError)).Defined
        (fun _ s' => s' = s) s :=
    fun _ _ => v8_self_bind (by rfl) (fun _ => hcb) fun st _ => by
      cases st with
      | some _ => exact v8_self_bind (by rfl) (fun _ => hcb) fun _ _ => pure_bind (pure rfl)
      | none => exact pure_bind (pure rfl)
  unfold exceptionError
  dsimp only
  refine isolateScope_bind hiso ?_
  split
  · exact pure rfl
  refine pure_bind (v8_self_bind (by rfl) (fun _ => hcb) fun u _ => ?_)
  cases try_catch.message with
  | some msg => exact v8_self_bind (by rfl) (fun _ => hcb) fun _ _ => pure_bind (hstack _ _)
  | none => exact pure_bind (hstack _ _)

theorem errorValue_defined (hcb : s.CallbacksDefined) {iso : IsolatePtr} (hiso : s.isolates iso ≠ none)
    (try_catch : Caught) (ctx : V8Context) :
    (errorValue try_catch iso ctx).Defined (fun _ s' => s' = s) s :=
  bind ((exceptionError_defined hcb hiso try_catch ctx).mono fun _ _ h => h ▸ pure rfl)

theorem wrapEach_defined {iso : IsolatePtr} {ctx : ContextPtr} (vs : List JSValue)
    (hc : s.contexts ctx ≠ none) : (wrapEach iso ctx vs).Defined (fun ws _ => ws.length = vs.length) s := by
  induction vs generalizing s with
  | nil => exact pure rfl
  | cons v vs ih =>
    refine trackedNewValue_bind hc fun w s₁ h => ?_
    obtain ⟨m, -, -, -, -, hctx, -⟩ := State.trackedValue_eq h
    exact bind ((ih (by simp [hctx])).mono fun ws _ hws => pure (by simp [hws]))

end Prog.Defined

/-- A primitive step keeps every live isolate: only `SetData` writes one, and keeps it. -/
theorem Prim.step_isolates {α : Type} {p : Prim α} {s s' : State} {a : α} (h : p.step s = .ok (a, s'))
    (i : IsolatePtr) (hi : s.isolates i ≠ none) : s'.isolates i ≠ none := by
  cases p <;> simp only [Prim.step] at h <;> (try split at h) <;>
    simp only [reduceCtorEq, Except.ok.injEq, Prod.mk.injEq] at h
  case setData.h_1 =>
    obtain ⟨-, rfl⟩ := h
    simp only [Function.update_apply]
    split <;> simp_all
  case newContext | newTemplate => obtain ⟨rfl, rfl⟩ := Prod.mk.inj h; exact hi
  case trackedValue.h_1 hv =>
    subst h
    obtain ⟨_, -, hv⟩ := Option.map_eq_some'.mp hv
    cases hv
    exact hi
  case freeContext.h_1 hs =>
    obtain ⟨-, rfl⟩ := h
    obtain ⟨_, -, rfl⟩ := State.freeContext_eq hs
    exact hi
  all_goals obtain ⟨-, rfl⟩ := h; exact hi

/-- What the bridge's code needs of a state besides its arguments: `Healthy`, and every context the
bridge holds and every function it made belong to a live isolate. -/
structure Ready (s : State) extends Healthy s : Prop where
  context_isolate : ∀ c m lc r, s.contexts c = some m → m.ptr = some lc → s.v8Contexts lc = some r →
    s.isolates r.iso ≠ none
  function_isolate : ∀ f bf r, s.functions f = some bf → s.v8Contexts bf.context = some r →
    s.isolates r.iso ≠ none

/-- **Callbacks are defined up to the host.**  A callback the engine can make in a `Ready` state
enters a live isolate, reads slot 1 of its context, which is unset (a failed API check) or an
`Integer`, asks the host's registry for the context (a fatal error when it is not there), reads
the function's data, an `Integer`, wraps the receiver and the arguments into the live context it
found, and hands the host an array with every entry set. -/
theorem Ready.callbacks {s : State} (hR : Ready s) : s.CallbacksDefined := by
  intro f this args info hinv
  simp only [State.invocation, Option.bind_eq_some, Option.map_eq_some'] at hinv
  obtain ⟨bf, hf, c, hc, rfl⟩ := hinv
  refine .of_equiv (functionTemplateCallback_equiv _) ?_
  unfold callbackSpec
  refine .isolateScope_bind (hR.function_isolate f bf c hf hc) ?_
  cases hslot : (s.v8Contexts bf.context).bind ContextRec.slot1 with
  | none => exact .prim_stop_bind (e := .apiCheck) (by simp [Prim.step, hslot]) (by simp)
  | some x =>
    obtain ⟨r, hr, hx⟩ := Option.bind_eq_some.mp hslot
    obtain ⟨k, rfl⟩ := hR.slot1 _ r x hr hx
    have h₁ : (Prim.embedderData bf.context).step s = .ok (.integer k, s) := by simp [Prim.step, hslot]
    refine .prim_bind h₁ (.deref_bind rfl ?_)
    cases hctx : s.goContext k with
    | none => exact .prim_stop_bind (e := .hostPanic) (by simp [Prim.step, hctx]) (by simp)
    | some ctx =>
      obtain ⟨k', hk'⟩ := hR.function_data f bf hf
      have hlive : s.contexts ctx ≠ none := by
        have := List.find?_some hctx
        simp only [State.stampedWith] at this
        split at this <;> simp_all
      have h₂ : (Prim.goContext k).step s = .ok (ctx, s) := by simp [Prim.step, hctx]
      refine .prim_bind h₂ (.deref_bind (a := k') (by simp [hk']) ?_)
      refine .bind ((Prog.Defined.wrapEach_defined _ hlive).mono fun ws _ hws => ?_)
      exact .dispatch_bind (handedArgs_map_some ws _ (by simpa using hws))

/-- `Isolate::New` makes the isolate at `next`. -/
theorem V8Call.isolateNew_apply {iso : IsolatePtr} {s s' : State}
    (h : V8Call.isolateNew.apply iso s = some s') : iso = s.next ∧ s' = s.newIsolate := by
  change (if iso = s.next then some s.newIsolate else none) = some s' at h
  split at h <;> cases h
  exact ⟨‹_›, rfl⟩

/-- `Context::New(iso, ...)` makes a V8 context of `iso` at `next`. -/
theorem V8Call.contextNew_apply {iso : IsolatePtr} {g : Option V8Template} {lc : V8Context} {s s' : State}
    (h : (V8Call.contextNew iso g).apply lc s = some s') : lc = s.next ∧ s' = s.newV8Context iso := by
  change (if lc = s.next then some (s.newV8Context iso) else none) = some s' at h
  split at h <;> cases h
  exact ⟨‹_›, rfl⟩

/-- `SetEmbedderData` changes slot 1 of a V8 context, and nothing else the bridge reads. -/
theorem V8Call.setEmbedderData_frame {lc : V8Context} {ref : Int} {u : Unit} {s s' : State}
    (h : (V8Call.setEmbedderData lc ref).apply u s = some s') : s'.isolates = s.isolates ∧
      s'.functions = s.functions ∧
      ∀ c r, s'.v8Contexts c = some r → ∃ r₀, s.v8Contexts c = some r₀ ∧ r₀.iso = r.iso := by
  unfold V8Call.apply at h
  split at h
  case isFalse => cases h
  unfold V8Call.effect at h
  dsimp only at h
  split at h
  · rename_i r₀ hr₀
    cases h
    refine ⟨rfl, rfl, fun c r h' => ?_⟩
    simp only [Function.update_apply] at h'
    split at h'
    · cases h'
      subst c
      exact ⟨r₀, hr₀, rfl⟩
    · exact ⟨r, h', rfl⟩
  · cases h
    exact ⟨rfl, rfl, fun c r h' => ⟨r, h', rfl⟩⟩

/-- What an engine answer to `c` needs of `s` to keep `Ready`: no isolate is disposed, a new
context belongs to a live isolate, and a new function is made in a context of a live isolate. -/
def V8Call.KeepsReady (s : State) : V8Call α → Prop
  | .isolateDispose _ => False
  | .contextNew iso _ => s.isolates iso ≠ none
  | .functionTemplateGetFunction _ lc | .functionNew lc _ =>
    ∀ r, s.v8Contexts lc = some r → s.isolates r.iso ≠ none
  | _ => True

namespace Ready

variable {s s' : State}

/-- An engine answer keeps `Ready` when it keeps every live isolate, leaves the contexts alone,
and every V8 context or function it makes belongs to a live isolate. -/
theorem of_engine (hR : Ready s) (hH : Healthy s') (hc : s'.contexts = s.contexts)
    (hiso : ∀ i, s.isolates i ≠ none → s'.isolates i ≠ none)
    (hv8 : ∀ lc r, s'.v8Contexts lc = some r →
      s'.isolates r.iso ≠ none ∨ ∃ r₀, s.v8Contexts lc = some r₀ ∧ r₀.iso = r.iso)
    (hf : ∀ f bf, s'.functions f = some bf →
      s.functions f = some bf ∨ ∀ r, s'.v8Contexts bf.context = some r → s'.isolates r.iso ≠ none) :
    Ready s' where
  toHealthy := hH
  context_isolate c m lc r h₁ h₂ h₃ := by
    rcases hv8 lc r h₃ with h | ⟨r₀, h₀, hr⟩
    · exact h
    · exact hr ▸ hiso _ (hR.context_isolate c m lc r₀ (hc ▸ h₁) h₂ h₀)
  function_isolate f bf r h₁ h₂ := by
    rcases hf f bf h₁ with hold | hnew
    · rcases hv8 _ r h₂ with h | ⟨r₀, h₀, hr⟩
      · exact h
      · exact hr ▸ hiso _ (hR.function_isolate f bf r₀ hold h₀)
    · exact hnew r h₂

/-- A new function made in a context of a live isolate keeps `Ready`. -/
theorem newFunction (hR : Ready s) {data : JSValue} {ctx : V8Context} (hH : Healthy (s.newFunction data ctx))
    (hk : ∀ r, s.v8Contexts ctx = some r → s.isolates r.iso ≠ none) : Ready (s.newFunction data ctx) := by
  refine hR.of_engine hH rfl (fun _ hi => hi) (fun lc r h => .inr ⟨r, h, rfl⟩) fun f bf h => ?_
  simp only [State.newFunction, Function.update_apply] at h
  split at h
  · cases h; exact .inr hk
  · exact .inl h

/-- An engine answer to a tidy call that keeps `Ready` keeps it, and keeps every live isolate. -/
theorem v8 (hR : Ready s) {α : Type} {c : V8Call α} {r : α} (ht : c.Tidy) (hk : c.KeepsReady s)
    (h : c.apply r s = some s') : Ready s' ∧ ∀ i, s.isolates i ≠ none → s'.isolates i ≠ none := by
  have hH := hR.toHealthy.v8 ht h
  have hc := (V8Call.apply_frame h).1
  have same : ∀ lc r, s.v8Contexts lc = some r → ∃ r₀, s.v8Contexts lc = some r₀ ∧ r₀.iso = r.iso :=
    fun _ r h => ⟨r, h, rfl⟩
  have h₀ := h
  unfold V8Call.apply at h
  split at h
  case isFalse => cases h
  rename_i hadm
  cases c <;> first | (obtain rfl := Option.some.inj h; exact ⟨hR, fun _ hi => hi⟩) | skip
  case isolateDispose => exact hk.elim
  case isolateNew =>
    obtain ⟨-, rfl⟩ := V8Call.isolateNew_apply h₀
    have hiso : ∀ i, s.isolates i ≠ none → s.newIsolate.isolates i ≠ none := fun i hi => by
      simp only [State.newIsolate, Function.update_apply]
      split <;> simp_all
    exact ⟨hR.of_engine hH hc hiso (fun lc r h => .inr (same lc r h)) fun f bf h => .inl h, hiso⟩
  case contextNew iso _ =>
    obtain ⟨-, rfl⟩ := V8Call.contextNew_apply h₀
    refine ⟨hR.of_engine hH hc (fun _ hi => hi) (fun lc r' h' => ?_) fun f bf h => .inl h, fun _ hi => hi⟩
    simp only [State.newV8Context, Function.update_apply] at h'
    split at h'
    · cases h'; exact .inl hk
    · exact .inr (same _ _ h')
  case setEmbedderData =>
    obtain ⟨hi, hf, hv8⟩ := V8Call.setEmbedderData_frame h₀
    have hlive : ∀ i, s.isolates i ≠ none → s'.isolates i ≠ none := fun i h' => by rwa [hi]
    exact ⟨hR.of_engine hH hc hlive (fun lc r' h' => .inr (hv8 lc r' h')) fun f bf h' => .inl (hf ▸ h'),
      hlive⟩
  case objectTemplateNew =>
    change (if r = s.next then some (s.newV8Template .object) else none) = some s' at h
    split at h <;> cases h
    exact ⟨hR.of_engine hH hc (fun _ hi => hi) (fun lc r h => .inr (same lc r h)) fun f bf h => .inl h,
      fun _ hi => hi⟩
  case functionTemplateNew _ data =>
    change (if r = s.next then some (s.newV8Template (.function data)) else none) = some s' at h
    split at h <;> cases h
    exact ⟨hR.of_engine hH hc (fun _ hi => hi) (fun lc r h => .inr (same lc r h)) fun f bf h => .inl h,
      fun _ hi => hi⟩
  case functionTemplateGetFunction t ctx =>
    unfold V8Call.effect at h
    dsimp only at h
    split at h
    · split at h
      · cases h; exact ⟨hR.newFunction hH hk, fun _ hi => hi⟩
      · split at h <;> cases h; exact ⟨hR, fun _ hi => hi⟩
    · cases h
    · cases h; exact ⟨hR, fun _ hi => hi⟩
  case functionNew ctx data =>
    cases r with
    | error => cases h; exact ⟨hR, fun _ hi => hi⟩
    | ok v =>
      change (if v = .object s.next then some (s.newFunction data ctx) else none) = some s' at h
      split at h <;> cases h
      exact ⟨hR.newFunction hH hk, fun _ hi => hi⟩

/-! #### Primitive steps -/

/-- A primitive step keeps `Ready` when every V8 context an `m_ctx` holds after it was held before
or belongs to a live isolate. -/
theorem prim (hR : Ready s) {α : Type} {p : Prim α} {a : α} (ht : p.Tidy) (hp : p.step s = .ok (a, s'))
    (hctx : ∀ c m lc, s'.contexts c = some m → m.ptr = some lc →
      (∃ c₀ m₀, s.contexts c₀ = some m₀ ∧ m₀.ptr = some lc) ∨
        ∀ r, s.v8Contexts lc = some r → s.isolates r.iso ≠ none) : Ready s' := by
  obtain ⟨hv8, hf, -, -⟩ := Prim.step_engine hp
  have hiso := Prim.step_isolates hp
  refine ⟨hR.toHealthy.prim ht hp, fun c m lc r h₁ h₂ h₃ => ?_, fun f bf r h₁ h₂ => ?_⟩
  · rw [hv8] at h₃
    rcases hctx c m lc h₁ h₂ with ⟨c₀, m₀, h₀, hlc⟩ | h
    · exact hiso _ (hR.context_isolate c₀ m₀ lc r h₀ hlc h₃)
    · exact hiso _ (h r h₃)
  · rw [hf] at h₁
    rw [hv8] at h₂
    exact hiso _ (hR.function_isolate f bf r h₁ h₂)

/-- A primitive step that leaves the registry alone keeps `Ready`. -/
theorem prim_frame (hR : Ready s) {α : Type} {p : Prim α} {a : α} (ht : p.Tidy)
    (hp : p.step s = .ok (a, s')) (hw : p.writesRegistry = false) : Ready s' :=
  hR.prim ht hp fun c m _ h₁ h₂ => .inl ⟨c, m, (Prim.step_frame hp hw).2.1 ▸ h₁, h₂⟩

/-- `tracked_value` of a wrapper holding a handle keeps `Ready`: its context keeps its handle. -/
theorem trackedValue (hR : Ready s) {ctx : ContextPtr} {val : MValue} {w : ValuePtr}
    (h : s.trackedValue ctx val = some (w, s')) (hv : val.ptr ≠ none) : Ready s' := by
  obtain ⟨m₀, hm₀, -, -, -, hctx, -⟩ := State.trackedValue_eq h
  refine hR.prim (p := .trackedValue ctx val) (a := w) hv (by simp [Prim.step, h]) fun c m lc h₁ h₂ => ?_
  rw [hctx, Function.update_apply] at h₁
  split at h₁
  · cases h₁
    exact .inl ⟨ctx, m₀, hm₀, h₂⟩
  · exact .inl ⟨c, m, h₁, h₂⟩

/-- `ContextFree` keeps `Ready`: it only removes a context. -/
theorem freeContext (hR : Ready s) {ctx : ContextPtr} (h : s.freeContext ctx = some s') : Ready s' := by
  obtain ⟨m₀, -, hs⟩ := State.freeContext_eq h
  refine hR.prim (p := .freeContext ctx) (a := ()) trivial (by simp [Prim.step, h]) fun c m lc h₁ h₂ => ?_
  simp only [hs, State.afterFree, Function.update_apply] at h₁
  split at h₁
  · cases h₁
  · exact .inl ⟨c, m, h₁, h₂⟩

/-- A new `m_ctx` holding a V8 context of a live isolate keeps `Ready`. -/
theorem newContext (hR : Ready s) {m : MCtx} (hm : m.ptr ≠ none)
    (hlc : ∀ lc r, m.ptr = some lc → s.v8Contexts lc = some r → s.isolates r.iso ≠ none) :
    Ready (s.newContext m).2 :=
  hR.prim (p := .newContext m) hm rfl fun c m' lc h₁ h₂ => by
    simp only [State.newContext, Function.update_apply] at h₁
    split at h₁
    · cases h₁
      exact .inr fun r hr => hlc lc r h₂ hr
    · exact .inl ⟨c, m', h₁, h₂⟩

end Ready

/-- A V8 call from a `Ready` state whose answers keep it: the continuation runs in a `Ready` state
with the same contexts, and every live isolate still live. -/
theorem Prog.Defined.v8_ready_bind {α β : Type} {s : State} {Q : β → State → Prop} {c : V8Call α}
    {f : α → Prog β} (hR : Ready s) (ht : c.Tidy) (hk : c.KeepsReady s)
    (hcont : ∀ r s', Ready s' → s'.contexts = s.contexts →
      (∀ i, s.isolates i ≠ none → s'.isolates i ≠ none) → (f r).Defined Q s') :
    ((Prog.v8 c).bind f).Defined Q s :=
  .v8_bind (fun _ => hR.callbacks) fun r s' h =>
    hcont r s' (hR.v8 ht hk h).1 (V8Call.apply_frame h).1 (hR.v8 ht hk h).2

end V8go
