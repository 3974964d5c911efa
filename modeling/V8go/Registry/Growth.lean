import V8go.Registry.Ownership
import V8go.Semantics.Exec

/-!
# Registry — what a boundary call adds to the registry

A boundary call, whatever the engine does during it (script that throws, callbacks into the host
and the boundary calls the host makes from them), changes the registry only as its log says:

* every context live both before and after the call keeps its `vals` as a prefix, followed by the
  wrappers the log shows were tracked into it, in order;
* the wrappers tracked during the call are those the host was handed during the call (in the
  callbacks' `thisAndArgs` and as the results of nested calls), then those of the call's own result,
  in this order.  A result without a wrapper (an error record, a null pointer, a sentinel) hands
  none, so then all that was tracked was handed during the call.

A context freed during the call, by a nested `ContextFree` the host makes from a callback, keeps
nothing: `growth_counterexample` is such a run.

Over the whole history, what the bridge registered is what it handed to the host
(`Reachable.tracked_eq_handed`).
-/

namespace V8go

open State

/-- The wrappers `log` shows were tracked into `c`, in order. -/
def trackedIn (c : ContextPtr) : List Event → List ValuePtr
  | [] => []
  | .track c' w :: es => if c' = c then w :: trackedIn c es else trackedIn c es
  | _ :: es => trackedIn c es

@[simp] theorem trackedIn_nil (c : ContextPtr) : trackedIn c [] = [] := rfl

@[simp] theorem trackedIn_append (c : ContextPtr) (l₁ l₂ : List Event) :
    trackedIn c (l₁ ++ l₂) = trackedIn c l₁ ++ trackedIn c l₂ := by
  induction l₁ with
  | nil => rfl
  | cons e es ih =>
    cases e with
    | track c' w => by_cases h : c' = c <;> simp [trackedIn, h, ih]
    | _ => simp [trackedIn, ih]

@[simp] theorem trackedIn_track (c c' : ContextPtr) (w : ValuePtr) :
    trackedIn c [.track c' w] = if c' = c then [w] else [] := by
  simp [trackedIn]

@[simp] theorem trackedIn_releaseEvents (c : ContextPtr) (vals : List ValuePtr) :
    trackedIn c (releaseEvents vals) = [] := by
  induction vals with
  | nil => rfl
  | cons v vals ih => simpa [releaseEvents, trackedIn] using ih

@[simp] theorem trackedIn_handOver (c : ContextPtr) (ws : List ValuePtr) :
    trackedIn c (ws.map .handOver) = [] := by
  induction ws with
  | nil => rfl
  | cons w ws ih => simpa [trackedIn] using ih

theorem Prim.trackedIn_logged {p : Prim α} {a : α} {s : State} (hp : p.writesRegistry = false)
    (c : ContextPtr) : trackedIn c (p.logged a s) = [] := by
  cases p <;> simp [writesRegistry, logged, trackedIn] at hp ⊢

/-- Since `s₀`, the log grew by some `L`, and every context of `s₀` still live holds its old
`vals` followed by what `L` tracked into it. -/
def Grown (s₀ s : State) : Prop :=
  s₀.next ≤ s.next ∧ ∃ L, s.log = s₀.log ++ L ∧
    ∀ c m m', s₀.contexts c = some m → s.contexts c = some m' → m'.vals = m.vals ++ trackedIn c L

section

variable {s₀ s s' : State}

theorem Grown.refl (s : State) : Grown s s := ⟨le_rfl, [], by simp, fun c m m' h h' => by simp_all⟩

/-- A step that changes no context and tracks nothing keeps `Grown`. -/
theorem Grown.frame (h : Grown s₀ s) (hc : ∀ c, s'.contexts c = none ∨ s'.contexts c = s.contexts c)
    (hn : s.next ≤ s'.next) {L' : List Event} (hL : s'.log = s.log ++ L')
    (htr : ∀ c, trackedIn c L' = []) : Grown s₀ s' := by
  obtain ⟨hn₀, L, hL₀, hv⟩ := h
  refine ⟨Nat.le_trans hn₀ hn, L ++ L', by simp [hL, hL₀], fun c m m' hm hm' => ?_⟩
  rcases hc c with hc | hc
  · simp [hc] at hm'
  · simpa [htr] using hv c m m' hm (hc ▸ hm')

/-- `Grown s₀` is kept by every step of a run, if no context of `s₀` is at or above its `next`. -/
theorem grown_invariant (h₀ : ∀ c, s₀.next ≤ c → s₀.contexts c = none) : Invariant (Grown s₀) where
  prim {α p pend Q s s' a} hwp h hs := by
    cases p with
    | trackedValue ctx val =>
      obtain ⟨mc, hmc, -, hn, -, hc, hl⟩ := State.trackedValue_eq (Prim.trackedValue_step h)
      obtain ⟨hn₀, L, hL₀, hv⟩ := hs
      refine ⟨by omega, L ++ [.track ctx s.next], by simp [hl, hL₀], fun c m m' hm hm' => ?_⟩
      by_cases hcc : c = ctx
      · subst hcc
        simp only [hc, Function.update_same, Option.some.injEq] at hm'
        simp [← hm', hv c m mc hm hmc]
      · simpa [Ne.symm hcc] using hv c m m' hm (by simpa [hc, Function.update_noteq hcc] using hm')
    | newContext mc =>
      obtain ⟨-, hn, -, hc, hl⟩ := State.newContext_eq (Except.ok.inj h)
      obtain ⟨hn₀, L, hL₀, hv⟩ := hs
      refine ⟨by omega, L, by simp [hl, hL₀], fun c m m' hm hm' => ?_⟩
      have hcc : c ≠ s.next := by
        rintro rfl
        simp [h₀ s.next hn₀] at hm
      exact hv c m m' hm (by simpa [hc, Function.update_noteq hcc] using hm')
    | freeContext ctx =>
      obtain ⟨mc, -, rfl⟩ := State.freeContext_eq (Prim.freeContext_step h)
      refine hs.frame (fun c => ?_) le_rfl rfl (fun c => trackedIn_releaseEvents c _)
      by_cases hcc : c = ctx <;> simp [afterFree, Function.update_apply, hcc]
    | _ =>
      obtain ⟨-, hc, hn⟩ := Prim.step_frame h rfl
      exact hs.frame (fun c => .inr (by rw [hc])) hn (Prim.step_log h) (Prim.trackedIn_logged rfl)
  v8 {α c r s s'} h hs := by
    obtain ⟨hc, -, -, hl, hn⟩ := V8Call.apply_frame h
    exact hs.frame (fun c => .inr (by rw [hc])) hn (show s'.log = s.log ++ [] by simp [hl]) (by simp)
  handOver ws hs := hs.frame (fun c => .inr rfl) le_rfl rfl (trackedIn_handOver · ws)

end

/-- The registry after a boundary call that returned `b`, from a reachable state: the log grew by
`L`; what `L` tracked is what it handed to the host, then the wrappers of `b`; and every context
live before and after holds its old `vals` followed by what `L` tracked into it. -/
theorem registry_growth {β : Type} {s s' : State} {op : Op β} {b : β} (hs : Reachable s)
    (h : Run s op.denote (.ret b) s') :
    ∃ L, s'.log = s.log ++ L ∧ tracked L = handed L ++ op.handed b ∧
      ∀ c m m', s.contexts c = some m → s'.contexts c = some m' → m'.vals = m.vals ++ trackedIn c L := by
  obtain ⟨L, hL, htr, -⟩ := Op.run_log h
  obtain ⟨-, L', hL', hv⟩ := (Run.sound (grown_invariant hs.owned.contexts_fresh) h
    (Op.denote_wp op) (Grown.refl s)).1
  obtain rfl : L' = L := List.append_cancel_left (hL'.symm.trans hL)
  exact ⟨L', hL, htr, hv⟩

/-- A `RunScript` that returns a new wrapper. -/
theorem registry_growth_runScript : ∃ s s' b, Reachable s ∧
    Run s (runScript 5 (cstr "s") (cstr "o")) (.ret b) s' ∧
    ∃ L, s'.log = s.log ++ L ∧ tracked L = handed L ++ (Op.runScript 5 (cstr "s") (cstr "o")).handed b ∧
      ∀ c m m', s.contexts c = some m → s'.contexts c = some m' → m'.vals = m.vals ++ trackedIn c L := by
  obtain ⟨s, o, s', hs, h, hP⟩ := Engine.canonical.witness_sound 40
    [⟨_, .newIsolate⟩, ⟨_, .newContext 0 none 1⟩] (.runScript 5 (cstr "s") (cstr "o"))
    (fun _ o _ => decide (o = .ret { value := some 6, error := {} })) (by decide)
  obtain rfl := of_decide_eq_true hP
  exact ⟨s, s', _, hs, h, registry_growth hs h⟩

/-- Over the whole history, the wrappers the bridge registered are exactly those it handed to the
host, in the same order. -/
theorem Reachable.tracked_eq_handed {s : State} (h : Reachable s) : tracked s.log = handed s.log := by
  induction h with
  | init => rfl
  | call op _ hrun ih =>
    obtain ⟨L, hL, htr, -⟩ := Op.run_log hrun
    simp [State.handOver, hL, ih, htr]
  | paused op _ hrun ih =>
    obtain ⟨L, hL, hb⟩ := Run.wp_sound hrun (Op.denote_wp op)
    simp only [Balanced, List.nil_append] at hb
    simp [hL, ih, hb]

/-- After `NewIsolate`, `NewContext` and a `RunScript` that returned a wrapper `6`. -/
theorem tracked_eq_handed_runScript : ∃ s, Reachable s ∧ tracked s.log = [6] ∧ tracked s.log = handed s.log := by
  obtain ⟨s, -, -, hs, -, hP⟩ := Engine.canonical.witness_sound 40
    [⟨_, .newIsolate⟩, ⟨_, .newContext 0 none 1⟩, ⟨_, .runScript 5 (cstr "s") (cstr "o")⟩] .version
    (fun s _ _ => decide (tracked s.log = [6])) (by decide)
  exact ⟨s, hs, of_decide_eq_true hP, hs.tracked_eq_handed⟩

/-- The script of a context calls the newest bridge function while the context `victim` is open;
the host, in the callback, frees `victim`. -/
def freeingEngine (victim : ContextPtr) : Engine where
  reply c s := match c with
    | .scriptRun _ _ =>
      match (s.contexts victim).isSome, s.newestFunction with
      | true, some f => .callback f .undefined []
      | _, _ => .answer (.ok .undefined)
    | c => .answer (c.canonical s)
  host s := if (s.contexts victim).isSome then .call (.contextFree (some victim)) else .ret none

/-- Two contexts, `5` and `8`, with a wrapper `9` in `8`, and a bridge function in `5`: a script
of `5` calls it, and the host frees `8` from the callback.  `RunScript` returns, and the
wrapper `9` of `8` has left the registry with its context. -/
theorem growth_counterexample : ∃ s s' b m, Reachable s ∧ s.contexts 8 = some m ∧ m.vals = [9] ∧
    Run s (runScript 5 (cstr "f()") (cstr "o")) (.ret b) s' ∧ s'.contexts 8 = none := by
  obtain ⟨s, o, s', hs, h, hP⟩ := (freeingEngine 8).witness_sound 40
    [⟨_, .newIsolate⟩, ⟨_, .newContext 0 none 1⟩, ⟨_, .newContext 0 none 2⟩,
      ⟨_, .runScript 8 (cstr "x") (cstr "o")⟩, ⟨_, .newFunctionTemplate 0 7⟩,
      ⟨_, .functionTemplateGetFunction 11 5⟩]
    (.runScript 5 (cstr "f()") (cstr "o"))
    (fun s o s' => decide (o = .ret { value := some 15, error := {} }) &&
      decide ((s.contexts 8).map MCtx.vals = some [9]) && decide (s'.contexts 8 = none)) (by decide)
  simp only [Bool.and_eq_true, decide_eq_true_eq, Option.map_eq_some'] at hP
  obtain ⟨⟨rfl, m, hm, hv⟩, hfree⟩ := hP
  exact ⟨s, s', _, m, hs, hm, hv, h, hfree⟩

end V8go
