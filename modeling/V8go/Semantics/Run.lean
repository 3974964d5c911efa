import V8go.Source.Boundary

/-!
# Semantics — runs and reachable states

`Run s p o s'`: the program `p`, started in `s`, can end with `o` in `s'`.  Three things happen
besides the program's own steps:

* the engine answers each V8 call with any answer `V8Call.apply` admits;
* before it answers a call that may run script, the engine may call, any number of times, any
  function the bridge made (`State.functions`), with any receiver and arguments: that is a run
  of `functionTemplateCallback` in the function's creation context;
* inside `goFunctionCallback` the host runs (`Prog.host`): it makes any number of boundary calls,
  each handing its result to the host, then returns a wrapper or null.  While it runs, it may
  look at the state: the run then ends `paused` there.

A `stop` or a `paused` end of a part ends the whole run at the same point.

`Reachable s`: `s` is reached from the state before `Init()` by boundary calls, each handing its
result to the host, or is a point where the host, inside a callback of a boundary call, looks at
the state.

The inversion lemmas at the end (`Run.bind_iff`, `Run.prim_iff`, ...) say once what a run of each
form of program can do; the later modules never look at `Run`'s constructors for these forms.
-/

namespace V8go

/-- The `FunctionCallbackInfo` of a call by the engine of the bridge function `f`, with receiver
`this` and arguments `args`: the current context is the function's creation context. -/
def State.invocation (s : State) (f : Nat) (this : JSValue) (args : List JSValue) :
    Option FunctionCallbackInfo :=
  (s.functions f).bind fun bf =>
    (s.v8Contexts bf.context).map fun c =>
      { iso := c.iso, context := bf.context, data := bf.data, this, args }

/-- `Run s p o s'`: a run of `p` from `s` can end with `o` in `s'`. -/
inductive Run : {α : Type} → State → Prog α → Outcome α → State → Prop where
  | pure {α : Type} (s : State) (a : α) : Run s (.pure a) (.ret a) s
  | bind {α β : Type} {s s₁ s₂ : State} {p : Prog α} {f : α → Prog β} {a : α} {o : Outcome β} :
      Run s p (.ret a) s₁ → Run s₁ (f a) o s₂ → Run s (.bind p f) o s₂
  | bindStop {α β : Type} {s s₁ : State} {p : Prog α} {f : α → Prog β} {e : Failure} :
      Run s p (.stop e) s₁ → Run s (.bind p f) (.stop e) s₁
  | bindPaused {α β : Type} {s s₁ : State} {p : Prog α} {f : α → Prog β} :
      Run s p .paused s₁ → Run s (.bind p f) .paused s₁
  | prim {α : Type} {s s' : State} {p : Prim α} {a : α} :
      p.step s = .ok (a, s') → Run s (.prim p) (.ret a) s'
  | primStop {α : Type} {s : State} {p : Prim α} {e : Failure} :
      p.step s = .error e → Run s (.prim p) (.stop e) s
  | v8 {α : Type} {s s' : State} {c : V8Call α} {r : α} :
      c.apply r s = some s' → Run s (.v8 c) (.ret r) s'
  /-- The engine calls a bridge function, then goes on with the call `c`. -/
  | callback {α : Type} {s s₁ s₂ : State} {c : V8Call α} {f : Nat} {this : JSValue}
      {args : List JSValue} {info : FunctionCallbackInfo} {r : JSValue} {o : Outcome α} :
      c.runsScript → s.invocation f this args = some info →
      Run s (functionTemplateCallback info) (.ret r) s₁ → Run s₁ (.v8 c) o s₂ → Run s (.v8 c) o s₂
  | callbackStop {α : Type} {s s₁ : State} {c : V8Call α} {f : Nat} {this : JSValue}
      {args : List JSValue} {info : FunctionCallbackInfo} {e : Failure} :
      c.runsScript → s.invocation f this args = some info →
      Run s (functionTemplateCallback info) (.stop e) s₁ → Run s (.v8 c) (.stop e) s₁
  | callbackPaused {α : Type} {s s₁ : State} {c : V8Call α} {f : Nat} {this : JSValue}
      {args : List JSValue} {info : FunctionCallbackInfo} :
      c.runsScript → s.invocation f this args = some info →
      Run s (functionTemplateCallback info) .paused s₁ → Run s (.v8 c) .paused s₁
  | fail {α : Type} (s : State) (e : Failure) : Run s (.fail e : Prog α) (.stop e) s
  /-- The host returns from `goFunctionCallback`. -/
  | hostReturn (s : State) (r : Option ValuePtr) : Run s .host (.ret r) s
  /-- The host makes a boundary call and is handed its result. -/
  | hostCall {β : Type} {s s₁ s₂ : State} (op : Op β) {b : β} {o : Outcome (Option ValuePtr)} :
      Run s op.denote (.ret b) s₁ → Run (s₁.handOver (op.handed b)) .host o s₂ →
      Run s .host o s₂
  | hostCallStop {β : Type} {s s₁ : State} (op : Op β) {e : Failure} :
      Run s op.denote (.stop e) s₁ → Run s .host (.stop e) s₁
  | hostCallPaused {β : Type} {s s₁ : State} (op : Op β) :
      Run s op.denote .paused s₁ → Run s .host .paused s₁
  /-- The host looks at the state. -/
  | hostPaused (s : State) : Run s .host .paused s

/-- The states the bridge can be in when the host looks at it. -/
inductive Reachable : State → Prop where
  | init : Reachable .init
  /-- A boundary call returns, and hands its result to the host. -/
  | call {α : Type} {s s' : State} (op : Op α) {a : α} :
      Reachable s → Run s op.denote (.ret a) s' → Reachable (s'.handOver (op.handed a))
  /-- The host looks at the state inside a callback of a boundary call. -/
  | paused {α : Type} {s s' : State} (op : Op α) :
      Reachable s → Run s op.denote .paused s' → Reachable s'

/-! ### Inversion -/

namespace Run

variable {α β : Type} {s s' : State}

theorem pure_iff {a : α} {o : Outcome α} : Run s (.pure a) o s' ↔ o = .ret a ∧ s' = s := by
  constructor
  · intro h; cases h; exact ⟨rfl, rfl⟩
  · rintro ⟨rfl, rfl⟩; exact .pure _ _

theorem bind_iff {p : Prog α} {f : α → Prog β} {o : Outcome β} :
    Run s (.bind p f) o s' ↔
      (∃ a s₁, Run s p (.ret a) s₁ ∧ Run s₁ (f a) o s') ∨
      (∃ e, o = .stop e ∧ Run s p (.stop e) s') ∨ (o = .paused ∧ Run s p .paused s') := by
  constructor
  · intro h
    cases h with
    | bind h₁ h₂ => exact .inl ⟨_, _, h₁, h₂⟩
    | bindStop h => exact .inr (.inl ⟨_, rfl, h⟩)
    | bindPaused h => exact .inr (.inr ⟨rfl, h⟩)
  · rintro (⟨a, s₁, h₁, h₂⟩ | ⟨e, rfl, h⟩ | ⟨rfl, h⟩)
    · exact .bind h₁ h₂
    · exact .bindStop h
    · exact .bindPaused h

theorem prim_iff {p : Prim α} {o : Outcome α} :
    Run s (.prim p) o s' ↔
      (∃ a, p.step s = .ok (a, s') ∧ o = .ret a) ∨
      (∃ e, p.step s = .error e ∧ o = .stop e ∧ s' = s) := by
  constructor
  · intro h
    cases h with
    | prim h => exact .inl ⟨_, h, rfl⟩
    | primStop h => exact .inr ⟨_, h, rfl, rfl⟩
  · rintro (⟨a, h, rfl⟩ | ⟨e, h, rfl, rfl⟩)
    · exact .prim h
    · exact .primStop h

theorem fail_iff {e : Failure} {o : Outcome α} :
    Run s (.fail e : Prog α) o s' ↔ o = .stop e ∧ s' = s := by
  constructor
  · intro h; cases h; exact ⟨rfl, rfl⟩
  · rintro ⟨rfl, rfl⟩; exact .fail _ _

/-- A primitive step that succeeds has exactly one run. -/
theorem prim_det {p : Prim α} {a : α} {s₁ : State} {o : Outcome α} (h : p.step s = .ok (a, s₁)) :
    Run s (.prim p) o s' ↔ o = .ret a ∧ s' = s₁ := by
  rw [prim_iff, h]
  constructor
  · rintro (⟨_, h, rfl⟩ | ⟨_, h, -⟩) <;> cases h
    exact ⟨rfl, rfl⟩
  · rintro ⟨rfl, rfl⟩
    exact .inl ⟨a, rfl, rfl⟩

/-- A program with exactly one run, followed by `f`, runs as `f` from there. -/
theorem bind_det {p : Prog α} {f : α → Prog β} {a : α} {s₁ : State} {o : Outcome β}
    (hp : ∀ o s', Run s p o s' ↔ o = .ret a ∧ s' = s₁) :
    Run s (.bind p f) o s' ↔ Run s₁ (f a) o s' := by
  rw [bind_iff]
  constructor
  · rintro (⟨a', s₂, h₁, h₂⟩ | ⟨e, -, h⟩ | ⟨-, h⟩)
    · obtain ⟨h, rfl⟩ := (hp _ _).mp h₁
      cases h
      exact h₂
    · cases ((hp _ _).mp h).1
    · cases ((hp _ _).mp h).1
  · exact fun h => .inl ⟨a, s₁, (hp _ _).mpr ⟨rfl, rfl⟩, h⟩

/-! ### Runs that return -/

theorem bind_ret {p : Prog α} {f : α → Prog β} {b : β} (h : Run s (.bind p f) (.ret b) s') :
    ∃ a s₁, Run s p (.ret a) s₁ ∧ Run s₁ (f a) (.ret b) s' := by
  obtain h | ⟨_, h, -⟩ | ⟨h, -⟩ := bind_iff.mp h
  · exact h
  · cases h
  · cases h

theorem prim_ret {p : Prim α} {a : α} (h : Run s (.prim p) (.ret a) s') : p.step s = .ok (a, s') := by
  obtain ⟨_, h, ⟨⟩⟩ | ⟨_, -, h, -⟩ := prim_iff.mp h
  · exact h
  · cases h

theorem pure_ret {a b : α} (h : Run s (.pure a) (.ret b) s') : b = a ∧ s' = s := by
  obtain ⟨⟨⟩, rfl⟩ := pure_iff.mp h
  exact ⟨rfl, rfl⟩

theorem deref_ret {o : Option α} {a : α} (h : Run s (Prog.deref o) (.ret a) s') :
    o = some a ∧ s' = s := by
  cases o with
  | none => cases (fail_iff.mp h).1
  | some a' => obtain ⟨rfl, rfl⟩ := pure_ret h; exact ⟨rfl, rfl⟩

theorem toChecked_ret {r : Except Caught α} {a : α} (h : Run s (Prog.toChecked r) (.ret a) s') :
    r = .ok a ∧ s' = s := by
  cases r with
  | error e => cases (fail_iff.mp h).1
  | ok a' => obtain ⟨rfl, rfl⟩ := pure_ret h; exact ⟨rfl, rfl⟩

/-- Whatever the callbacks before it, the answer to a call is one `V8Call.admits`. -/
theorem v8_admits {c : V8Call α} {r : α} (h : Run s (.v8 c) (.ret r) s') : c.admits r := by
  generalize hp : (Prog.v8 c) = p at h
  generalize ho : (Outcome.ret r) = o at h
  induction h with
  | v8 h =>
    cases hp; cases ho
    unfold V8Call.apply at h
    split at h <;> simp_all
  | callback _ _ _ _ _ ih₂ => exact ih₂ hp ho
  | callbackStop => cases ho
  | callbackPaused => cases ho
  | _ => cases hp

/-! ### Reads -/

theorem getValue_ret {val : ValuePtr} {m : MValue} (h : Run s (.prim (.getValue val)) (.ret m) s') :
    s.values val = some m ∧ s' = s := by
  have h := prim_ret h
  simp only [Prim.step] at h
  split at h <;> cases h
  exact ⟨‹_›, rfl⟩

theorem getContext_ret {ctx : ContextPtr} {m : MCtx} (h : Run s (.prim (.getContext ctx)) (.ret m) s') :
    s.contexts ctx = some m ∧ s' = s := by
  have h := prim_ret h
  simp only [Prim.step] at h
  split at h <;> cases h
  exact ⟨‹_›, rfl⟩

theorem isolateScope_ret {iso : IsolatePtr} {u : Unit} (h : Run s (isolateScope iso) (.ret u) s') :
    (s.isolates iso).isSome ∧ s' = s := by
  have h := prim_ret h
  simp only [Prim.step] at h
  split at h <;> cases h
  simp_all

theorem getData_ret {iso : IsolatePtr} {c : Option ContextPtr}
    (h : Run s (isolateInternalContext iso) (.ret c) s') :
    (∃ r, s.isolates iso = some r ∧ r.data0 = c) ∧ s' = s := by
  have h := prim_ret h
  simp only [Prim.step] at h
  split at h <;> cases h
  exact ⟨⟨_, ‹_›, rfl⟩, rfl⟩

theorem embedderData_ret {c : V8Context} {v : JSValue} (h : Run s (.prim (.embedderData c)) (.ret v) s') :
    (s.v8Contexts c).bind ContextRec.slot1 = some v ∧ s' = s := by
  have h := prim_ret h
  simp only [Prim.step] at h
  split at h <;> cases h
  exact ⟨‹_›, rfl⟩

theorem goContext_ret {ref : Int} {ctx : ContextPtr} (h : Run s (.prim (.goContext ref)) (.ret ctx) s') :
    s.goContext ref = some ctx ∧ s' = s := by
  have h := prim_ret h
  simp only [Prim.step] at h
  split at h <;> cases h
  exact ⟨‹_›, rfl⟩

theorem trackedNewValue_ret {iso : IsolatePtr} {ctx : ContextPtr} {v : JSValue} {w : ValuePtr}
    (h : Run s (trackedNewValue iso ctx v) (.ret w) s') :
    s.trackedValue ctx { iso, ctx := some ctx, ptr := some v } = some (w, s') :=
  Prim.trackedValue_step (prim_ret h)

theorem dispatch_ret {c k : Int} {a : Array (Option ValuePtr)} {n : Nat} {u : Unit}
    (h : Run s (.prim (.dispatch c k a n)) (.ret u) s') :
    ∃ ws, handedArgs a n = some ws ∧ s' = { s with log := s.log ++ [.call c k ws n] } := by
  have h := prim_ret h
  simp only [Prim.step] at h
  split at h <;> cases h
  exact ⟨_, ‹_›, rfl⟩

/-- `LOCAL_VALUE(ptr)` reads and changes nothing: its value is the wrapper's, and its context the
wrapper's or, for a wrapper without one, its isolate's internal context. -/
theorem localValue_ret {ptr : ValuePtr} {lv : LocalValue} (h : Run s (localValue ptr) (.ret lv) s') :
    s' = s ∧ ∃ m, s.values ptr = some m ∧ m.ptr = some lv.value ∧ m.iso = lv.iso ∧
      (m.ctx = some lv.ctx ∨ m.ctx = none ∧ ∃ r, s.isolates m.iso = some r ∧ r.data0 = some lv.ctx) ∧
      ∃ mc, s.contexts lv.ctx = some mc ∧ mc.ptr = some lv.localCtx := by
  obtain ⟨m, s₁, h₁, h₂⟩ := bind_ret h
  obtain ⟨hm, rfl⟩ := getValue_ret h₁
  obtain ⟨_, s₂, h₃, h₄⟩ := bind_ret h₂
  obtain ⟨-, rfl⟩ := isolateScope_ret h₃
  -- the join point `__do_jp`: the context handle, the value, the record
  have jp : ∀ ctx t, Run t (do
      let local_ctx ← contextHandle ctx
      let value ← Prog.deref m.ptr
      Pure.pure ({ iso := m.iso, ctx, localCtx := local_ctx, value } : LocalValue)) (.ret lv) s' →
      s' = t ∧ lv.ctx = ctx ∧ m.ptr = some lv.value ∧ m.iso = lv.iso ∧
        ∃ mc, t.contexts ctx = some mc ∧ mc.ptr = some lv.localCtx := fun ctx t hjp => by
    obtain ⟨lc, s₃, h₅, h₆⟩ := bind_ret hjp
    obtain ⟨mc, s₄, h₇, h₈⟩ := bind_ret h₅
    obtain ⟨hmc, rfl⟩ := getContext_ret h₇
    obtain ⟨hlc, rfl⟩ := deref_ret h₈
    obtain ⟨v, s₅, h₉, h₁₀⟩ := bind_ret h₆
    obtain ⟨hv, rfl⟩ := deref_ret h₉
    obtain ⟨rfl, rfl⟩ := pure_ret h₁₀
    exact ⟨rfl, rfl, hv, rfl, mc, hmc, hlc⟩
  revert h₄
  cases hc : m.ctx with
  | some c =>
    intro h₄
    obtain ⟨_, s₃, h₅, h₆⟩ := bind_ret h₄
    obtain ⟨rfl, rfl⟩ := pure_ret h₅
    obtain ⟨rfl, rfl, hv, hiso, hmc⟩ := jp _ _ h₆
    exact ⟨rfl, m, hm, hv, hiso, .inl hc, hmc⟩
  | none =>
    intro h₄
    obtain ⟨d, s₃, h₅, h₆⟩ := bind_ret h₄
    obtain ⟨⟨r, hr, rfl⟩, rfl⟩ := getData_ret h₅
    obtain ⟨c, s₄, h₇, h₈⟩ := bind_ret h₆
    obtain ⟨hd, rfl⟩ := deref_ret h₇
    obtain ⟨rfl, rfl, hv, hiso, hmc⟩ := jp c _ h₈
    exact ⟨rfl, m, hm, hv, hiso, .inr ⟨hc, r, hr, hd⟩, hmc⟩

end Run

end V8go
