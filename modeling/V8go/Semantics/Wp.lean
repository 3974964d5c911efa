import V8go.Semantics.Run

/-!
# Semantics — what a program guarantees whatever the engine answers

`Prog.wp p pend Q` holds when every run of `p` that returns `a` satisfies `Q a pend'`, where the
ghost `pend` lists the wrappers `tracked_value` has registered and nobody has yet handed to the
host, in order.  It asks of the program that

* a new wrapper is tracked into the context its `ctx` field names, and a new `m_ctx` starts with
  no wrappers;
* `goFunctionCallback` receives exactly the pending wrappers, in order;
* nothing is pending when a V8 call that may run script starts, or when the host runs, so that
  what a callback registers and hands over is never interleaved with the caller's own.

Engine answers are those `V8Call.admits`; the state is not looked at, so a program's `wp` is
proved once for all states and runs (`Run.wp_sound`, in `Semantics.Discipline`).

Each helper of `Source.Core` gets its `wp` as an `@[simp]` equivalence, so that the `wp` of an
entry point is computed by `simp` without unfolding the helpers; `ExceptionRecord` is the exact
set of records `ExceptionError` can build.
-/

namespace V8go

/-- The `wp` of a primitive operation. -/
def Prim.wp : Prim α → List ValuePtr → (α → List ValuePtr → Prop) → Prop
  | .trackedValue ctx val, pend, Q => val.ctx = some ctx ∧ ∀ w, Q w (pend ++ [w])
  | .newContext ctx, pend, Q => ctx.vals = [] ∧ ∀ a, Q a pend
  | .dispatch _ _ thisAndArgs argsCount, pend, Q =>
    handedArgs thisAndArgs argsCount = some pend ∧ Q () []
  | _, pend, Q => ∀ a, Q a pend

/-- `p.wp pend Q`: every run of `p` that returns `a` leaves pending `pend'` with `Q a pend'`. -/
def Prog.wp : {α : Type} → Prog α → List ValuePtr → (α → List ValuePtr → Prop) → Prop
  | _, .pure a, pend, Q => Q a pend
  | _, .bind p f, pend, Q => p.wp pend fun a pend' => (f a).wp pend' Q
  | _, .prim p, pend, Q => p.wp pend Q
  | _, .v8 c, pend, Q => (c.runsScript → pend = []) ∧ ∀ a, c.admits a → Q a pend
  | _, .fail _, _, _ => True
  | _, .host, pend, Q => pend = [] ∧ ∀ r, Q r []

namespace Prog

variable {α β : Type} {pend : List ValuePtr} {Q Q' : α → List ValuePtr → Prop}

@[simp] theorem wp_pure (a : α) : (Prog.pure a).wp pend Q = Q a pend := rfl

@[simp] theorem wp_bind (p : Prog α) (f : α → Prog β) (Q : β → List ValuePtr → Prop) :
    (p.bind f).wp pend Q = p.wp pend fun a pend' => (f a).wp pend' Q := rfl

@[simp] theorem wp_prim (p : Prim α) : (Prog.prim p).wp pend Q = p.wp pend Q := rfl

@[simp] theorem wp_v8 (c : V8Call α) :
    (Prog.v8 c).wp pend Q = ((c.runsScript → pend = []) ∧ ∀ a, c.admits a → Q a pend) := rfl

@[simp] theorem wp_fail (e : Failure) : (Prog.fail e : Prog α).wp pend Q := trivial

@[simp] theorem wp_host (Q : Option ValuePtr → List ValuePtr → Prop) :
    Prog.host.wp pend Q = (pend = [] ∧ ∀ r, Q r []) := rfl

@[simp] theorem wp_deref (o : Option α) : (Prog.deref o).wp pend Q ↔ ∀ a, o = some a → Q a pend := by
  cases o <;> simp [deref]

@[simp] theorem wp_toChecked (r : Except Caught α) :
    (Prog.toChecked r).wp pend Q ↔ ∀ a, r = .ok a → Q a pend := by
  cases r <;> simp [toChecked]

theorem wp_mono {p : Prog α} (h : p.wp pend Q) (hQ : ∀ a pend', Q a pend' → Q' a pend') :
    p.wp pend Q' := by
  induction p generalizing pend with
  | pure a => exact hQ _ _ h
  | bind p f ihp ihf => exact ihp h fun a pend' h' => ihf a h' hQ
  | prim p =>
    cases p <;> simp only [wp_prim, Prim.wp] at h ⊢ <;>
      first
        | exact (fun a => hQ _ _ (h a))
        | exact ⟨h.1, fun w => hQ _ _ (h.2 w)⟩
        | exact ⟨h.1, hQ _ _ h.2⟩
  | v8 c => exact ⟨h.1, fun a ha => hQ _ _ (h.2 a ha)⟩
  | fail e => trivial
  | host => exact ⟨h.1, fun r => hQ _ _ (h.2 r)⟩

end Prog

@[simp] theorem Except.forall_iff {ε α : Type} {P : Except ε α → Prop} :
    (∀ r, P r) ↔ (∀ e, P (.error e)) ∧ ∀ a, P (.ok a) :=
  ⟨fun h => ⟨fun e => h _, fun a => h _⟩, fun h r => by cases r <;> simp [h.1, h.2]⟩

/-! ### The helpers of `Source.Core` -/

section Helpers

variable {α : Type} {pend : List ValuePtr}

@[simp] theorem isolateScope_wp {Q : Unit → List ValuePtr → Prop} (iso : IsolatePtr) :
    (isolateScope iso).wp pend Q ↔ Q () pend := by
  simp only [isolateScope, Prog.wp_prim, Prim.wp]
  exact ⟨fun h => h (), fun h _ => h⟩

@[simp] theorem isolateInternalContext_wp {Q : Option ContextPtr → List ValuePtr → Prop}
    (iso : IsolatePtr) : (isolateInternalContext iso).wp pend Q ↔ ∀ ctx, Q ctx pend := by
  simp [isolateInternalContext, Prim.wp]

@[simp] theorem contextHandle_wp {Q : V8Context → List ValuePtr → Prop} (ctx : ContextPtr) :
    (contextHandle ctx).wp pend Q ↔ ∀ lc, Q lc pend := by
  simp only [contextHandle, Prog.bind_eq, Prog.wp_bind, Prog.wp_prim, Prim.wp, Prog.wp_deref]
  exact ⟨fun h lc => h ⟨0, [], some lc⟩ lc rfl, fun h m lc _ => h lc⟩

@[simp] theorem valueHandle_wp {Q : JSValue → List ValuePtr → Prop} (val : ValuePtr) :
    (valueHandle val).wp pend Q ↔ ∀ v, Q v pend := by
  simp only [valueHandle, Prog.bind_eq, Prog.wp_bind, Prog.wp_prim, Prim.wp, Prog.wp_deref]
  exact ⟨fun h v => h ⟨0, none, some v⟩ v rfl, fun h m v _ => h v⟩

@[simp] theorem isolateScopeInternalContext_wp {Q : ContextPtr → List ValuePtr → Prop}
    (iso : IsolatePtr) : (isolateScopeInternalContext iso).wp pend Q ↔ ∀ ctx, Q ctx pend := by
  simp only [isolateScopeInternalContext, Prog.bind_eq, Prog.wp_bind, isolateScope_wp,
    isolateInternalContext_wp, Prog.wp_deref]
  exact ⟨fun h ctx => h (some ctx) ctx rfl, fun h _ ctx _ => h ctx⟩

@[simp] theorem localTemplate_wp {Q : LocalTemplate → List ValuePtr → Prop} (ptr : TemplatePtr) :
    (localTemplate ptr).wp pend Q ↔ ∀ lt, Q lt pend := by
  simp only [localTemplate, Prog.bind_eq, Prog.wp_bind, Prog.wp_prim, Prim.wp, isolateScope_wp,
    Prog.pure_eq, Prog.wp_pure]
  exact ⟨fun h lt => h ⟨lt.iso, lt.tmpl⟩, fun h t => h _⟩

@[simp] theorem localContext_wp {Q : LocalContext → List ValuePtr → Prop} (ctx : ContextPtr) :
    (localContext ctx).wp pend Q ↔ ∀ lc, Q lc pend := by
  simp only [localContext, Prog.bind_eq, Prog.wp_bind, Prog.wp_prim, Prim.wp, isolateScope_wp,
    Prog.wp_deref, Prog.pure_eq, Prog.wp_pure]
  exact ⟨fun h lc => h ⟨lc.iso, [], some lc.localCtx⟩ lc.localCtx rfl, fun h m lc _ => h _⟩

@[simp] theorem localValue_wp {Q : LocalValue → List ValuePtr → Prop} (ptr : ValuePtr) :
    (localValue ptr).wp pend Q ↔ ∀ lv, Q lv pend := by
  constructor
  · intro h lv
    have h' := h ⟨lv.iso, some lv.ctx, some lv.value⟩
    simp only [localValue, Prim.wp, isolateScope_wp, contextHandle_wp, Prog.bind_eq, Prog.wp_bind,
      Prog.wp_prim, Prog.wp_deref, Prog.pure_eq, Prog.wp_pure, Option.some.injEq, forall_eq'] at h'
    exact h' lv.localCtx
  · intro h val
    cases hc : val.ctx <;> simp [localValue, Prim.wp, hc, h]

@[simp] theorem trackedNewValue_wp {Q : ValuePtr → List ValuePtr → Prop} (iso : IsolatePtr)
    (ctx : ContextPtr) (v : JSValue) :
    (trackedNewValue iso ctx v).wp pend Q ↔ ∀ w, Q w (pend ++ [w]) := by
  simp [trackedNewValue, Prim.wp]

@[simp] theorem storeAt_wp {Q : Array α → List ValuePtr → Prop} (a : Array α) (i : Nat) (v : α) :
    (storeAt a i v).wp pend Q ↔ ∀ h : i < a.size, Q (a.set ⟨i, h⟩ v) pend := by
  unfold storeAt
  split
  · next h => simp [h]
  · next h => simp [h]

end Helpers

/-! ### `ExceptionError` -/

/-- The locations `ExceptionError` can write for a message: none without a message, and
otherwise the one made from a conversion of the message's resource name. -/
def MessageLocation : Option Message → Option CBuf → Prop
  | none, location => location = none
  | some msg, location =>
    ∃ origin, utf8Admits (some msg.resourceName) origin = true ∧
      location = some (copyString (messageLocation origin msg))

/-- The records `ExceptionError` can build from a `TryCatch` holding `try_catch`: the termination
message alone, or the conversion of the exception, a location, and the conversion of a stack
trace. -/
inductive ExceptionRecord (try_catch : Caught) : RtnError → Prop where
  | terminated : try_catch.terminated = true →
      ExceptionRecord try_catch { msg := some (copyString terminatedMessage) }
  | thrown (exception : Utf8Value) (location : Option CBuf) (stack : Utf8Value) :
      try_catch.terminated = false → utf8Admits try_catch.exception exception = true →
      MessageLocation try_catch.message location →
      ExceptionRecord try_catch { msg := exception.copyString, location, stack := stack.copyString }

/-- `ExceptionError` makes a V8 call that may run script unless execution was terminated, and
returns exactly the `ExceptionRecord`s of its `TryCatch`. -/
@[simp] theorem exceptionError_wp {pend : List ValuePtr} {Q : RtnError → List ValuePtr → Prop}
    (try_catch : Caught) (iso : IsolatePtr) (ctx : V8Context) :
    (exceptionError try_catch iso ctx).wp pend Q ↔
      (try_catch.terminated = false → pend = []) ∧
        ∀ e, ExceptionRecord try_catch e → Q e pend := by
  obtain ⟨terminated, exception, message⟩ := try_catch
  cases terminated
  · obtain ⟨u₀, hu₀⟩ := exists_utf8Admits exception
    have hstack : ∀ u : Utf8Value, utf8Admits (some .undefined) u = true := fun _ => rfl
    cases message with
    | none =>
      simp only [exceptionError, Prog.bind_eq, Prog.wp_bind, isolateScope_wp, Bool.false_eq_true,
        if_false, Prog.pure_eq, Prog.wp_pure, Prog.wp_v8, V8Call.admits_utf8Value,
        V8Call.runsScript_stackTrace, V8Call.admits_stackTrace, Option.forall, forall_const,
        true_implies]
      constructor
      · intro h
        refine ⟨(h.2 u₀ hu₀).1, fun e he => ?_⟩
        cases he with
        | terminated h => cases h
        | thrown u loc st _ hu hloc =>
          cases hloc
          exact ((h.2 u hu).2.2 .undefined).2 st (hstack st)
      · rintro ⟨rfl, hQ⟩
        exact ⟨fun _ => rfl, fun u hu => ⟨rfl, hQ _ (.thrown u none ⟨none⟩ rfl hu rfl),
          fun _ => ⟨fun _ => rfl, fun st _ => hQ _ (.thrown u none st rfl hu rfl)⟩⟩⟩
    | some msg =>
      simp only [exceptionError, Prog.bind_eq, Prog.wp_bind, isolateScope_wp, Bool.false_eq_true,
        if_false, Prog.pure_eq, Prog.wp_pure, Prog.wp_v8, V8Call.admits_utf8Value,
        V8Call.runsScript_stackTrace, V8Call.admits_stackTrace, V8Call.runsScript_utf8Value_some,
        Option.forall, forall_const, true_implies]
      constructor
      · intro h
        refine ⟨(h.2 u₀ hu₀).1, fun e he => ?_⟩
        cases he with
        | terminated h => cases h
        | thrown u loc st _ hu hloc =>
          obtain ⟨origin, horigin, rfl⟩ := hloc
          exact (((h.2 u hu).2 origin horigin).2.2 .undefined).2 st (hstack st)
      · rintro ⟨rfl, hQ⟩
        refine ⟨fun _ => rfl, fun u hu => ⟨rfl, fun origin horigin => ?_⟩⟩
        have hloc : MessageLocation (some msg) (some (copyString (messageLocation origin msg))) :=
          ⟨origin, horigin, rfl⟩
        exact ⟨rfl, hQ _ (.thrown u _ ⟨none⟩ rfl hu hloc),
          fun _ => ⟨rfl, fun st _ => hQ _ (.thrown u _ st rfl hu hloc)⟩⟩
  · simp only [exceptionError, Prog.bind_eq, Prog.wp_bind, isolateScope_wp, if_true,
      Prog.pure_eq, Prog.wp_pure, Bool.true_eq_false, false_implies, true_and]
    constructor
    · rintro h e ⟨⟩ <;> simp_all
    · exact fun h => h _ (.terminated rfl)

@[simp] theorem errorValue_wp {pend : List ValuePtr} {Q : RtnValue → List ValuePtr → Prop}
    (try_catch : Caught) (iso : IsolatePtr) (ctx : V8Context) :
    (errorValue try_catch iso ctx).wp pend Q ↔
      (try_catch.terminated = false → pend = []) ∧
        ∀ e, ExceptionRecord try_catch e → Q { error := e } pend := by
  simp [errorValue]

@[simp] theorem ExceptionRecord.imp_exists {try_catch : Caught} {e : RtnError} :
    (ExceptionRecord try_catch e → ∃ c, ExceptionRecord c e) ↔ True :=
  ⟨fun _ => trivial, fun _ h => ⟨try_catch, h⟩⟩

/-! ### Loops -/

/-- `buildCallArguments` tracks nothing and makes no V8 call. -/
@[simp] theorem buildCallArguments_wp {pend : List ValuePtr}
    {Q : Array (Option JSValue) → List ValuePtr → Prop} (argv : Array (Option JSValue))
    (argc : Nat) (args : Array ValuePtr) (h : ∀ argv', Q argv' pend) :
    (buildCallArguments argv argc args).wp pend Q := by
  unfold buildCallArguments
  induction List.range argc generalizing argv with
  | nil => exact h argv
  | cons i is ih => simp [buildCallArgumentsLoop, ih]

/-- The loop of `FunctionTemplateCallback` over the indices `k .. k + m`, with the wrappers `ws`
of the receiver and the first arguments pending and stored: it tracks `m` more, stores them in
order after `ws`, and leaves all of them pending. -/
theorem wrapArgs_wp {Q : Array (Option ValuePtr) → List ValuePtr → Prop} (iso : IsolatePtr)
    (ctx : ContextPtr) (info : FunctionCallbackInfo) (m k : Nat) (ws : List ValuePtr)
    (hk : ws.length = k + 1)
    (h : ∀ ws' : List ValuePtr, ws'.length = m → Q ((ws ++ ws').map some).toArray (ws ++ ws')) :
    (wrapArgs iso ctx info (List.range' k m) (ws.map some ++ List.replicate m none).toArray).wp
      ws Q := by
  induction m generalizing k ws with
  | zero => simpa [wrapArgs] using h [] rfl
  | succ m ih =>
    simp only [List.range'_succ, wrapArgs, Prog.bind_eq, Prog.wp_bind, trackedNewValue_wp,
      storeAt_wp]
    intro w hw
    have hset : ((ws.map some ++ List.replicate (m + 1) none).toArray.set ⟨1 + k, hw⟩ (some w)) =
        ((ws ++ [w]).map some ++ List.replicate m none).toArray := by
      apply Array.ext'
      simp [Array.toList_set, List.replicate_succ, ← hk, Nat.add_comm 1, List.set_append_right]
    rw [hset]
    exact ih (k + 1) (ws ++ [w]) (by simp [hk]) fun ws' hws' => by
      simpa using h (w :: ws') (by simp [hws'])

theorem mapM_id_map_some (ws : List ValuePtr) : (ws.map some).mapM id = some ws := by
  induction ws with
  | nil => rfl
  | cons w ws ih => rw [List.map_cons, List.mapM_cons, ih]; rfl

/-- `goFunctionCallback` is handed the array the loop filled. -/
theorem handedArgs_map_some (ws : List ValuePtr) (n : Nat) (hn : ws.length = n + 1) :
    handedArgs (ws.map some).toArray n = some ws := by
  rw [handedArgs, if_pos (by simp [hn])]
  exact mapM_id_map_some ws

/-- A callback hands the host every wrapper it makes before the host runs, and leaves nothing
pending. -/
theorem functionTemplateCallback_wp (info : FunctionCallbackInfo) :
    (functionTemplateCallback info).wp [] (fun _ pend => pend = []) := by
  simp only [functionTemplateCallback, Prog.bind_eq, Prog.wp_bind, isolateScope_wp, Prog.wp_prim,
    Prim.wp, Prog.wp_deref, trackedNewValue_wp, storeAt_wp, List.nil_append]
  intro _ _ _ _ _ _ w₀ h₀
  have harr : (mkArray (info.args.length + 1) (none : Option ValuePtr)).set ⟨0, h₀⟩ (some w₀) =
      ([w₀].map some ++ List.replicate info.args.length none).toArray := by
    apply Array.ext'
    simp [Array.toList_set, List.replicate_succ]
  rw [harr, List.range_eq_range']
  refine wrapArgs_wp _ _ _ _ 0 [w₀] rfl fun ws' hws' => ?_
  refine ⟨handedArgs_map_some _ _ (by simp [hws']), rfl, fun r => ?_⟩
  cases r <;> simp [Prim.wp]

end V8go
