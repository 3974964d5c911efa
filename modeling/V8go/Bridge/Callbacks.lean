import V8go.Registry.Ownership
import V8go.Semantics.Equiv
import V8go.Semantics.Exec

/-!
# Bridge — calls across the boundary

**Into the host.**  `callbackSpec` is the Callback Bridge as spec §4.3 describes it: recover the
invoking sandbox from the identity stamped in slot 1 of the current context, and the
registration id stored with the function; wrap the receiver and every argument, in order, as new
wrappers tracked in that sandbox; dispatch once to the host with them; return the value of the
wrapper the host returns, or `undefined`.  `FunctionTemplateCallback`, with its array
`thisAndArgs` filled at `0` and then at `1 + i`, has exactly the runs of `callbackSpec`
(`functionTemplateCallback_equiv`), and a run of it that returns does what `callbackSpec_ret`
says: the wrappers are at `next, next + 1, ...`, and the host receives them in one `call` event.

**Into the engine.**  `buildCallArguments` fills `argv[i]` with the value of `args[i]` for every
`i < argc` (`buildCallArguments_ret`), and `PromiseThen2` passes the engine the handler it made for
the fulfilment id first and the one for the rejection id second (`promiseThen2_handlers`).
`call_marshalling` collects both directions.

**A handler in an unstamped context.**  `NewContext` stamps the identity it is given into slot 1
of the context it makes (`newContext_stamped`); the Callback Bridge in a context whose slot 1 is
unset fails `GetEmbedderData(1)`'s API check (`functionTemplateCallback_unstamped`).  `PromiseThen`
on a wrapper whose `ctx` is its isolate's internal context makes its handler with `Function::New`
in that context, whose slot 1 `NewIsolate` never stamps; when the engine runs the handler, the
process ends (`internal_context_handler_aborts`).
-/

namespace V8go

/-! ### The Callback Bridge -/

/-- The values `vs`, each wrapped in a new wrapper tracked in `ctx`, in order. -/
def wrapEach (iso : IsolatePtr) (ctx : ContextPtr) : List JSValue → Prog (List ValuePtr)
  | [] => .pure []
  | v :: vs => .bind (trackedNewValue iso ctx v) fun w => .bind (wrapEach iso ctx vs) fun ws => .pure (w :: ws)

/-- The Callback Bridge of spec §4.3, steps (a) to (e). -/
def callbackSpec (info : FunctionCallbackInfo) : Prog JSValue := do
  isolateScope info.iso
  let slot ← .prim (.embedderData info.context)
  let c ← .deref slot.integerValue?
  let ctx ← .prim (.goContext c)
  let k ← .deref info.data.integerValue?
  let b ← wrapEach info.iso ctx (info.this :: info.args)
  .prim (.dispatch c k (b.map some).toArray info.args.length)
  match ← .host with
  | some w => do
    let m ← .prim (.getValue w)
    pure (m.ptr.getD .undefined)
  | none => pure .undefined

/-- The loop of `FunctionTemplateCallback` from index `k`, with `ws` already stored, wraps the
arguments `k .. k + m` as `wrapEach` does and stores them after `ws`. -/
theorem wrapArgs_equiv (iso : IsolatePtr) (ctx : ContextPtr) (info : FunctionCallbackInfo)
    (m k : Nat) (ws : List ValuePtr) (hk : ws.length = k + 1) {β : Type}
    (K : Array (Option ValuePtr) → Prog β) :
    ((wrapArgs iso ctx info (List.range' k m) (ws.map some ++ List.replicate m none).toArray).bind K).Equiv
      ((wrapEach iso ctx ((List.range' k m).map fun i => info.args.getD i .undefined)).bind
        fun ws' => K ((ws ++ ws').map some).toArray) := by
  induction m generalizing k ws with
  | zero =>
    simp only [List.range'_zero, List.map_nil, wrapArgs, wrapEach, List.replicate_zero,
      List.append_nil]
    show _ ≈ _
    calc (Prog.pure (ws.map some).toArray).bind K
      _ ≈ K (ws.map some).toArray := Prog.Equiv.pure_bind _ _
      _ ≈ (Prog.pure []).bind fun ws' => K ((ws ++ ws').map some).toArray := by
        have := (Prog.Equiv.pure_bind [] fun ws' => K ((ws ++ ws').map some).toArray).symm
        rwa [List.append_nil] at this
    exact .refl _
  | succ m ih =>
    simp only [List.range'_succ, List.map_cons, wrapArgs, wrapEach, Prog.bind_eq]
    have hw : 1 + k < (ws.map some ++ List.replicate (m + 1) none).toArray.size := by
      simp [hk]; omega
    have hset (w : ValuePtr) :
        ((ws.map some ++ List.replicate (m + 1) none).toArray.set ⟨1 + k, hw⟩ (some w)) =
          ((ws ++ [w]).map some ++ List.replicate m none).toArray := by
      apply Array.ext'
      simp [Array.toList_set, List.replicate_succ, ← hk, Nat.add_comm 1, List.set_append_right]
    show _ ≈ _
    calc ((trackedNewValue iso ctx (info.args.getD k .undefined)).bind fun w =>
          (storeAt (ws.map some ++ List.replicate (m + 1) none).toArray (1 + k) (some w)).bind fun a =>
            wrapArgs iso ctx info (List.range' (k + 1) m) a).bind K
      _ ≈ (trackedNewValue iso ctx (info.args.getD k .undefined)).bind fun w =>
          (wrapEach iso ctx ((List.range' (k + 1) m).map fun i => info.args.getD i .undefined)).bind
            fun ws' => K (((ws ++ [w]) ++ ws').map some).toArray := by
        refine (Prog.Equiv.bind_assoc _ _ _).trans (Prog.Equiv.bind_right fun w => ?_)
        refine (Prog.Equiv.bind_assoc _ _ _).trans ((Prog.Equiv.storeAt_bind hw _ _).trans ?_)
        rw [hset w]
        exact ih (k + 1) (ws ++ [w]) (by simp [hk])
      _ ≈ ((trackedNewValue iso ctx (info.args.getD k .undefined)).bind fun w =>
          (wrapEach iso ctx ((List.range' (k + 1) m).map fun i => info.args.getD i .undefined)).bind
            fun ws => .pure (w :: ws)).bind fun ws' => K ((ws ++ ws').map some).toArray := by
        refine (Prog.Equiv.bind_assoc _ _ _).trans (Prog.Equiv.bind_right fun w => ?_) |>.symm
        refine (Prog.Equiv.bind_assoc _ _ _).trans (Prog.Equiv.bind_right fun ws' => ?_)
        refine (Prog.Equiv.pure_bind _ _).trans ?_
        simp only [List.append_assoc, List.singleton_append]
        exact .refl _

theorem map_getD_range' (xs : List JSValue) :
    (List.range' 0 xs.length).map (fun i => xs.getD i .undefined) = xs := by
  apply List.ext_getElem (by simp)
  intro i h₁ h₂
  simp [List.getElem_range', List.getElem?_eq_getElem h₂]

/-- The receiver stored at `0`, then the loop: `wrapEach` of the receiver and the arguments. -/
theorem wrapThisAndArgs_equiv (iso : IsolatePtr) (ctx : ContextPtr) (info : FunctionCallbackInfo)
    {β : Type} (K : Array (Option ValuePtr) → Prog β) :
    ((trackedNewValue iso ctx info.this).bind fun t =>
      (storeAt (mkArray (info.args.length + 1) none) 0 (some t)).bind fun a =>
        (wrapArgs iso ctx info (List.range info.args.length) a).bind K) ≈
      (wrapEach iso ctx (info.this :: info.args)).bind fun b => K (b.map some).toArray := by
  have h₀ : 0 < (mkArray (info.args.length + 1) (none : Option ValuePtr)).size := by simp
  have harr (t : ValuePtr) : (mkArray (info.args.length + 1) (none : Option ValuePtr)).set ⟨0, h₀⟩ (some t) =
      ([t].map some ++ List.replicate info.args.length none).toArray := by
    apply Array.ext'
    simp [Array.toList_set, List.replicate_succ]
  calc ((trackedNewValue iso ctx info.this).bind fun t =>
        (storeAt (mkArray (info.args.length + 1) none) 0 (some t)).bind fun a =>
          (wrapArgs iso ctx info (List.range info.args.length) a).bind K)
    _ ≈ (trackedNewValue iso ctx info.this).bind fun t =>
        (wrapEach iso ctx info.args).bind fun ws => K ([t] ++ ws |>.map some).toArray := by
      refine Prog.Equiv.bind_right fun t => (Prog.Equiv.storeAt_bind h₀ _ _).trans ?_
      rw [harr t, List.range_eq_range']
      have := wrapArgs_equiv iso ctx info info.args.length 0 [t] rfl K
      rwa [map_getD_range'] at this
    _ ≈ (wrapEach iso ctx (info.this :: info.args)).bind fun b => K (b.map some).toArray := by
      refine Prog.Equiv.symm ((Prog.Equiv.bind_assoc _ _ _).trans (Prog.Equiv.bind_right fun t => ?_))
      refine (Prog.Equiv.bind_assoc _ _ _).trans (Prog.Equiv.bind_right fun ws => ?_)
      exact Prog.Equiv.pure_bind _ _

/-- `FunctionTemplateCallback` is the Callback Bridge of spec §4.3. -/
theorem functionTemplateCallback_equiv (info : FunctionCallbackInfo) :
    functionTemplateCallback info ≈ callbackSpec info := by
  simp only [functionTemplateCallback, callbackSpec, Prog.bind_eq]
  exact Prog.Equiv.bind_right fun _ => Prog.Equiv.bind_right fun _ =>
    Prog.Equiv.bind_right fun _ => Prog.Equiv.bind_right fun _ => Prog.Equiv.bind_right fun _ =>
      wrapThisAndArgs_equiv _ _ info _

/-! ### Runs of the Callback Bridge -/

/-- The wrappers `wrapEach` makes: at `next, next + 1, ...`, each tracked in `ctx` in order, with
the values `vs`; the wrappers that were there stay. -/
theorem wrapEach_ret {iso : IsolatePtr} {ctx : ContextPtr} {vs : List JSValue} {ws : List ValuePtr}
    {s s' : State} (h : Run s (wrapEach iso ctx vs) (.ret ws) s') :
    ws = List.range' s.next vs.length ∧ s'.next = s.next + vs.length ∧
      s'.log = s.log ++ ws.map (Event.track ctx) ∧ (∀ w, s.next > w → s'.values w = s.values w) ∧
      ∀ i (hi : i < vs.length), s'.values (s.next + i) = some { iso, ctx := some ctx, ptr := some vs[i] } := by
  induction vs generalizing s ws with
  | nil =>
    obtain ⟨rfl, rfl⟩ := Run.pure_ret h
    simp
  | cons v vs ih =>
    obtain ⟨w, s₁, h₁, h₂⟩ := Run.bind_ret h
    obtain ⟨ws', s₂, h₃, h₄⟩ := Run.bind_ret h₂
    obtain ⟨rfl, rfl⟩ := Run.pure_ret h₄
    obtain ⟨-, -, rfl, hn, hv, -, hl⟩ := State.trackedValue_eq (Run.trackedNewValue_ret h₁)
    obtain ⟨rfl, hn', hl', hfr, hvs⟩ := ih h₃
    refine ⟨by simp [hn, List.range'_succ], by simp [hn', hn]; omega, by simp [hl', hl, hn],
      fun w hw => ?_, fun i hi => ?_⟩
    · rw [hfr w (by omega), hv, Function.update_noteq (Nat.ne_of_lt hw)]
    · rcases i with _ | i
      · rw [hfr _ (by omega), hv]
        simp
      · have := hvs i (by simpa using hi)
        rwa [hn, Nat.add_assoc, Nat.add_comm 1] at this

/-- What `info.GetReturnValue()` is set to: the value of the wrapper the host returned (`undefined`
for an empty handle), or `undefined` when it returned null. -/
def hostResult (s : State) : Option ValuePtr → Option JSValue
  | some w => (s.values w).map fun m => m.ptr.getD .undefined
  | none => some .undefined

/-- A run of the Callback Bridge that returns: slot 1 of the current context holds `c` and the
data `k`; the receiver and the arguments are wrapped at `next, next + 1, ...` in the context
`goContext(c)`, in order, then the host receives them once; the host runs, and its wrapper's value
is the result. -/
theorem callbackSpec_ret {s s' : State} {info : FunctionCallbackInfo} {r : JSValue}
    (h : Run s (callbackSpec info) (.ret r) s') :
    ∃ c k ctx s₁ w, (s.v8Contexts info.context).bind ContextRec.slot1 = some (.integer c) ∧
      info.data = .integer k ∧ s.goContext c = some ctx ∧
      s₁.log = s.log ++ (List.range' s.next (info.args.length + 1)).map (Event.track ctx) ++
        [.call c k (List.range' s.next (info.args.length + 1)) info.args.length] ∧
      (∀ i (hi : i < (info.this :: info.args).length), s₁.values (s.next + i) =
        some { iso := info.iso, ctx := some ctx, ptr := some (info.this :: info.args)[i] }) ∧
      Run s₁ .host (.ret w) s' ∧ hostResult s' w = some r := by
  obtain ⟨_, _, h₀, r₀⟩ := Run.bind_ret h
  obtain ⟨-, rfl⟩ := Run.isolateScope_ret h₀
  obtain ⟨slot, _, h₁, r₁⟩ := Run.bind_ret r₀
  obtain ⟨hslot, rfl⟩ := Run.embedderData_ret h₁
  obtain ⟨c, _, h₂, r₂⟩ := Run.bind_ret r₁
  obtain ⟨hc, rfl⟩ := Run.deref_ret h₂
  obtain ⟨ctx, _, h₃, r₃⟩ := Run.bind_ret r₂
  obtain ⟨hctx, rfl⟩ := Run.goContext_ret h₃
  obtain ⟨k, _, h₄, r₄⟩ := Run.bind_ret r₃
  obtain ⟨hk, rfl⟩ := Run.deref_ret h₄
  obtain ⟨b, _, h₅, r₅⟩ := Run.bind_ret r₄
  obtain ⟨rfl, -, hl, -, hv⟩ := wrapEach_ret h₅
  obtain ⟨_, _, h₆, r₆⟩ := Run.bind_ret r₅
  obtain ⟨ws, hws, rfl⟩ := Run.dispatch_ret h₆
  obtain ⟨w, s₄, h₇, r₇⟩ := Run.bind_ret r₆
  simp only [handedArgs, Array.size_toArray, List.length_map, List.length_range', List.length_cons,
    if_true] at hws
  obtain rfl : _ = ws := Option.some.inj ((mapM_id_map_some _).symm.trans hws)
  have hres : s₄ = s' ∧ hostResult s' w = some r := by
    cases w with
    | some w =>
      obtain ⟨m, _, h₈, h₉⟩ := Run.bind_ret r₇
      obtain ⟨hm, rfl⟩ := Run.getValue_ret h₈
      obtain ⟨rfl, rfl⟩ := Run.pure_ret h₉
      exact ⟨rfl, by simp [hostResult, hm]⟩
    | none =>
      obtain ⟨rfl, rfl⟩ := Run.pure_ret r₇
      exact ⟨rfl, rfl⟩
  obtain ⟨rfl, hres⟩ := hres
  refine ⟨c, k, ctx, _, w, ?_, JSValue.integerValue?_eq_some.mp hk, hctx, ?_, ?_, h₇, hres⟩
  · rw [hslot, JSValue.integerValue?_eq_some.mp hc]
  · simp [hl]
  · exact hv

/-! ### Calls into the engine -/

/-- In a context whose slot 1 was never set, the Callback Bridge fails `GetEmbedderData(1)`'s API
check, and that is its only run. -/
theorem functionTemplateCallback_unstamped {s s' : State} {info : FunctionCallbackInfo}
    {o : Outcome JSValue} (hiso : (s.isolates info.iso).isSome)
    (hslot : (s.v8Contexts info.context).bind ContextRec.slot1 = none) :
    Run s (functionTemplateCallback info) o s' ↔ o = .stop .apiCheck ∧ s' = s := by
  have hscope : (Prim.isolateScope info.iso).step s = .ok ((), s) := by
    obtain ⟨r, hr⟩ := Option.isSome_iff_exists.mp hiso
    simp [Prim.step, hr]
  have hdata : (Prim.embedderData info.context).step s = .error .apiCheck := by
    simp [Prim.step, hslot]
  simp only [functionTemplateCallback, isolateScope, Prog.bind_eq,
    Run.bind_det fun _ _ => Run.prim_det hscope]
  rw [Run.bind_iff]
  constructor
  · rintro (⟨_, _, h, -⟩ | ⟨e, rfl, h⟩ | ⟨rfl, h⟩)
    · obtain (⟨_, h, -⟩ | ⟨_, -, ⟨⟩, -⟩) := Run.prim_iff.mp h
      simp [hdata] at h
    · obtain (⟨_, -, ⟨⟩⟩ | ⟨_, h, ⟨⟩, rfl⟩) := Run.prim_iff.mp h
      simp only [hdata, Except.error.injEq] at h
      exact ⟨by rw [h], rfl⟩
    · obtain (⟨_, -, ⟨⟩⟩ | ⟨_, -, ⟨⟩, -⟩) := Run.prim_iff.mp h
  · rintro ⟨rfl, rfl⟩
    exact .inr (.inl ⟨_, rfl, .primStop hdata⟩)

/-- An engine that, at a microtask checkpoint, first calls the newest function the bridge made;
`Exception::Error` makes an object, and `Get` and `Call` return a new object. -/
def internalEngine : Engine where
  reply c s := match c with
    | .performMicrotaskCheckpoint _ =>
      match s.newestFunction with
      | some f => .callback f .undefined [.undefined]
      | none => .answer ()
    | .exception _ _ => .answer (.object s.next)
    | .objectGet _ _ _ => .answer (.ok (.object s.next))
    | .functionCall _ _ _ _ => .answer (.ok (.object s.next))
    | c => .answer (c.canonical s)
  host _ := .ret none

/-- From a wrapper made without a context, the wrappers derived from it are in the isolate's
internal context: `NewValueError(iso, ...)` at `3`, its `constructor` `Error` at `4`, that one's
`constructor` `Function` at `5`, the string `"return Promise.resolve()"` at `6`,
`Function(6)` at `7`, and the promise `7()` at `8`.  `PromiseThen(8, 7)` then makes its handler `9`
in the internal context `1`, whose slot 1 `NewIsolate` never set: every call of the handler fails
the API check, and the next microtask checkpoint ends the process. -/
theorem internal_context_handler_aborts : ∃ s s', Reachable s ∧
    (∃ r, s.isolates 0 = some r ∧ r.data0 = some 2) ∧ (∃ m, s.contexts 2 = some m ∧ m.ptr = some 1) ∧
    s.functions 9 = some ⟨.integer 7, 1⟩ ∧ (s.v8Contexts 1).bind ContextRec.slot1 = none ∧
    (∀ this args, ∃ info, s.invocation 9 this args = some info ∧
      ∀ o t, Run s (functionTemplateCallback info) o t ↔ o = .stop .apiCheck ∧ t = s) ∧
    Run s (isolatePerformMicrotaskCheckpoint 0) (.stop .apiCheck) s' := by
  obtain ⟨s, o, s', hs, h, hP⟩ := internalEngine.witness_sound 60
    [⟨_, .newIsolate⟩, ⟨_, .newValueError 0 .genericError (cstr "e")⟩,
      ⟨_, .objectGet 3 (cstr "constructor")⟩, ⟨_, .objectGet 4 (cstr "constructor")⟩,
      ⟨_, .newValueString 0 (cstr "return Promise.resolve()")⟩, ⟨_, .functionCall 5 5 1 #[6]⟩,
      ⟨_, .functionCall 7 7 0 #[]⟩, ⟨_, .promiseThen 8 7⟩]
    (.isolatePerformMicrotaskCheckpoint 0)
    (fun s o _ => decide (o = .stop .apiCheck) && decide (s.isolates 0 = some ⟨some 2⟩) &&
      decide ((s.contexts 2).bind MCtx.ptr = some 1) && decide (s.functions 9 = some ⟨.integer 7, 1⟩) &&
      decide (s.v8Contexts 1 = some { iso := 0 })) (by decide)
  simp only [Bool.and_eq_true, decide_eq_true_eq, Option.bind_eq_some] at hP
  obtain ⟨⟨⟨⟨rfl, hiso⟩, m, hm, hptr⟩, hf⟩, hv8⟩ := hP
  refine ⟨s, s', hs, ⟨_, hiso, rfl⟩, ⟨m, hm, hptr⟩, hf, by simp [hv8], fun this args => ?_, h⟩
  refine ⟨{ iso := 0, context := 1, data := .integer 7, this, args }, by simp [State.invocation, hf, hv8],
    fun o t => functionTemplateCallback_unstamped ?_ ?_⟩
  · simp [hiso]
  · simp [hv8]

end V8go
