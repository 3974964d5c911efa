import V8go.Semantics.Spec

/-!
# Semantics — runs keep the discipline

The link between `Prog.wp` and runs.  A run only appends to the log, and:

* `Run.wp_sound`: a run of a program meeting `p.wp pend Q` that returns `a` appended a log `L`
  with `pend ++ tracked L = handed L ++ pend'` and `Q a pend'`; one that stops where the host
  looks appended `L` with `pend ++ tracked L = handed L`.  The nested runs are the callbacks the
  engine makes, which meet `functionTemplateCallback_wp`, and the host's boundary calls, which
  meet `Op.denote_wp`.
* `Run.respects`: a relation between states that every step of a disciplined program, every
  engine answer and every hand-over respects, and that is reflexive and transitive, relates the
  two ends of every run.  The registry's invariant (`Registry.Ownership`) and its frame
  (`Registry.Growth`) are both proved through it.
-/

namespace V8go

open State

/-! ### What each step logs -/

/-- The events `ContextFree` logs for the wrappers `vals`: each reset, then deleted. -/
def releaseEvents (vals : List ValuePtr) : List Event :=
  vals.flatMap fun v => [.reset v, .delete v]

@[simp] theorem tracked_releaseEvents (vals : List ValuePtr) : tracked (releaseEvents vals) = [] := by
  induction vals with
  | nil => rfl
  | cons v vals ih => simpa [releaseEvents, tracked] using ih

@[simp] theorem handed_releaseEvents (vals : List ValuePtr) : handed (releaseEvents vals) = [] := by
  induction vals with
  | nil => rfl
  | cons v vals ih => simpa [releaseEvents, handed] using ih

theorem State.releaseValues_log {vals : List ValuePtr} {s s' : State}
    (h : releaseValues vals s = some s') : s'.log = s.log ++ releaseEvents vals := by
  induction vals generalizing s with
  | nil => cases h; simp [releaseEvents]
  | cons v vals ih =>
    simp only [releaseValues] at h
    split at h
    · cases h
    · simp [ih h, releaseEvents]

/-- What a primitive step that returned `a` from `s` appends to the log. -/
def Prim.logged : Prim α → α → State → List Event
  | .trackedValue ctx _, w, _ => [.track ctx w]
  | .freeContext ctx, _, s => releaseEvents (((s.contexts ctx).map MCtx.vals).getD [])
  | .dispatch ctxRef callbackRef thisAndArgs argsCount, _, _ =>
    [.call ctxRef callbackRef ((handedArgs thisAndArgs argsCount).getD []) argsCount]
  | _, _, _ => []

theorem Prim.step_log {p : Prim α} {s s' : State} {a : α} (h : p.step s = .ok (a, s')) :
    s'.log = s.log ++ p.logged a s := by
  cases p <;> simp only [Prim.step] at h <;> (try split at h) <;>
    simp only [reduceCtorEq, Except.ok.injEq, Prod.mk.injEq] at h
  case newContext | newTemplate => obtain ⟨rfl, rfl⟩ := Prod.mk.inj h; simp [logged]
  case trackedValue.h_1 _ _ _ _ hv =>
    subst h
    simp only [State.trackedValue, Option.map_eq_some'] at hv
    obtain ⟨m, -, hv⟩ := hv
    cases hv
    simp [logged]
  case freeContext.h_1 ctx _ _ hs =>
    obtain ⟨-, rfl⟩ := h
    simp only [State.freeContext, Option.bind_eq_some, Option.map_eq_some'] at hs
    obtain ⟨m, hm, s₂, h₂, rfl⟩ := hs
    simp [State.releaseValues_log h₂, logged, hm]
  all_goals obtain ⟨-, rfl⟩ := h; simp [logged, *]

/-- What an engine answer can do to the heap: nothing, or make one isolate, context, template or
function, or drop an isolate, or set slot 1 of a context. -/
theorem V8Call.effect_cases {c : V8Call α} {r : α} {s s' : State} (h : c.effect r s = some s') :
    s' = s ∨ s' = s.newIsolate ∨ (∃ iso, s' = s.newV8Context iso) ∨ (∃ t, s' = s.newV8Template t) ∨
      (∃ data ctx, s' = s.newFunction data ctx) ∨
      (∃ iso, s' = { s with isolates := Function.update s.isolates iso none }) ∨
      (∃ ctx cr, s' = { s with v8Contexts := Function.update s.v8Contexts ctx (some cr) }) := by
  cases c <;> first | exact .inl (Option.some.inj h).symm | skip
  case isolateNew =>
    change (if r = s.next then some s.newIsolate else none) = some s' at h
    split at h <;> cases h
    exact .inr (.inl rfl)
  case isolateDispose iso => exact .inr (.inr (.inr (.inr (.inr (.inl ⟨iso, (Option.some.inj h).symm⟩)))))
  case contextNew iso _ =>
    change (if r = s.next then some (s.newV8Context iso) else none) = some s' at h
    split at h <;> cases h
    exact .inr (.inr (.inl ⟨iso, rfl⟩))
  case setEmbedderData ctx ref =>
    unfold effect at h
    dsimp only at h
    split at h <;> cases h
    · exact .inr (.inr (.inr (.inr (.inr (.inr ⟨ctx, _, rfl⟩)))))
    · exact .inl rfl
  case objectTemplateNew =>
    change (if r = s.next then some (s.newV8Template .object) else none) = some s' at h
    split at h <;> cases h
    exact .inr (.inr (.inr (.inl ⟨_, rfl⟩)))
  case functionTemplateNew _ data =>
    change (if r = s.next then some (s.newV8Template (.function data)) else none) = some s' at h
    split at h <;> cases h
    exact .inr (.inr (.inr (.inl ⟨_, rfl⟩)))
  case functionTemplateGetFunction t ctx =>
    unfold effect at h
    dsimp only at h
    split at h
    · split at h
      · cases h
        exact .inr (.inr (.inr (.inr (.inl ⟨_, ctx, rfl⟩))))
      · split at h <;> cases h
        exact .inl rfl
    · cases h
    · cases h
      exact .inl rfl
  case functionNew ctx data =>
    cases r with
    | error => exact .inl (Option.some.inj h).symm
    | ok v =>
      change (if v = .object s.next then some (s.newFunction data ctx) else none) = some s' at h
      split at h <;> cases h
      exact .inr (.inr (.inr (.inr (.inl ⟨data, ctx, rfl⟩))))

/-- An engine answer leaves the bridge's memory and the log as they were, and allocates only
upwards. -/
theorem V8Call.apply_frame {c : V8Call α} {r : α} {s s' : State} (h : c.apply r s = some s') :
    s'.contexts = s.contexts ∧ s'.values = s.values ∧ s'.templates = s.templates ∧
      s'.log = s.log ∧ s.next ≤ s'.next := by
  unfold V8Call.apply at h
  split at h
  · rcases V8Call.effect_cases h with rfl | rfl | ⟨_, rfl⟩ | ⟨_, rfl⟩ | ⟨_, _, rfl⟩ | ⟨_, rfl⟩ | ⟨_, _, rfl⟩ <;>
      simp [State.newIsolate, State.newV8Context, State.newV8Template, State.newFunction]
  · cases h

theorem V8Call.apply_admits {c : V8Call α} {r : α} {s s' : State} (h : c.apply r s = some s') :
    c.admits r := by
  unfold V8Call.apply at h
  split at h
  · assumption
  · cases h

/-! ### Runs -/

/-- How the log `L` a run appended matches the pending wrappers: `pend` were pending when it
started; a run that returned `a` leaves `pend'` pending with `Q a pend'`, and one that stopped where
the host looks has handed over everything. -/
def Balanced (pend : List ValuePtr) (Q : α → List ValuePtr → Prop) (L : List Event) :
    Outcome α → Prop
  | .ret a => ∃ pend', pend ++ tracked L = handed L ++ pend' ∧ Q a pend'
  | .stop _ => True
  | .paused => pend ++ tracked L = handed L

theorem Balanced.append {pend pend₁ : List ValuePtr} {Q : α → List ValuePtr → Prop}
    {L₁ L₂ : List Event} {o : Outcome α} (h₁ : pend ++ tracked L₁ = handed L₁ ++ pend₁)
    (h₂ : Balanced pend₁ Q L₂ o) : Balanced pend Q (L₁ ++ L₂) o := by
  have key : pend ++ tracked (L₁ ++ L₂) = handed L₁ ++ (pend₁ ++ tracked L₂) := by
    rw [tracked_append, ← List.append_assoc, h₁, List.append_assoc]
  cases o with
  | ret a =>
    obtain ⟨pend', h, hQ⟩ := h₂
    exact ⟨pend', by rw [key, h, handed_append, List.append_assoc], hQ⟩
  | stop e => trivial
  | paused => show _ = _; rw [key, show pend₁ ++ tracked L₂ = handed L₂ from h₂, handed_append]

theorem Prim.wp_sound {p : Prim α} {s s' : State} {a : α} {pend : List ValuePtr}
    {Q : α → List ValuePtr → Prop} (h : p.step s = .ok (a, s')) (hwp : p.wp pend Q) :
    Balanced pend Q (p.logged a s) (.ret a) := by
  cases p with
  | trackedValue ctx val => exact ⟨pend ++ [a], by simp [logged, tracked, handed], hwp.2 a⟩
  | freeContext ctx => exact ⟨pend, by simp [logged], hwp ()⟩
  | dispatch ctxRef callbackRef thisAndArgs argsCount =>
    obtain ⟨hws, hQ⟩ := hwp
    exact ⟨[], by simp [logged, hws, handed, tracked], hQ⟩
  | newContext ctx => exact ⟨pend, by simp [logged], hwp.2 a⟩
  | _ => exact ⟨pend, by simp [logged], hwp a⟩

/-- `I` holds along every run: every step of a primitive some `wp` allows, every engine answer
and every hand-over to the host keep it. -/
structure Invariant (I : State → Prop) : Prop where
  prim {α : Type} {p : Prim α} {pend : List ValuePtr} {Q : α → List ValuePtr → Prop}
    {s s' : State} {a : α} : p.wp pend Q → p.step s = .ok (a, s') → I s → I s'
  v8 {α : Type} {c : V8Call α} {r : α} {s s' : State} : c.apply r s = some s' → I s → I s'
  handOver {s : State} (ws : List ValuePtr) : I s → I (s.handOver ws)

/-- Soundness of `Prog.wp`: a run of a program meeting `p.wp pend Q` appends a log `Balanced`
with `pend` and `Q`, and keeps every `Invariant`.  The callbacks the engine makes meet
`functionTemplateCallback_wp`, and the host's boundary calls `Op.denote_wp`. -/
theorem Run.sound {I : State → Prop} (hI : Invariant I) {p : Prog α} {o : Outcome α} {s s' : State}
    (h : Run s p o s') {pend : List ValuePtr} {Q : α → List ValuePtr → Prop} (hwp : p.wp pend Q)
    (hs : I s) : I s' ∧ ∃ L, s'.log = s.log ++ L ∧ Balanced pend Q L o := by
  induction h generalizing pend with
  | pure s a => exact ⟨hs, [], by simp, pend, by simp, hwp⟩
  | bind _ _ ih₁ ih₂ =>
    obtain ⟨hs₁, L₁, hL₁, pend₁, hb₁, hwp₁⟩ := ih₁ hwp hs
    obtain ⟨hs₂, L₂, hL₂, hb₂⟩ := ih₂ hwp₁ hs₁
    exact ⟨hs₂, L₁ ++ L₂, by simp [hL₁, hL₂], Balanced.append hb₁ hb₂⟩
  | bindStop _ ih =>
    obtain ⟨hs₁, L, hL, -⟩ := ih hwp hs
    exact ⟨hs₁, L, hL, trivial⟩
  | bindPaused _ ih =>
    obtain ⟨hs₁, L, hL, hb⟩ := ih hwp hs
    exact ⟨hs₁, L, hL, hb⟩
  | prim h => exact ⟨hI.prim hwp h hs, _, Prim.step_log h, Prim.wp_sound h hwp⟩
  | primStop _ => exact ⟨hs, [], by simp, trivial⟩
  | v8 h =>
    obtain ⟨-, -, -, hlog, -⟩ := V8Call.apply_frame h
    exact ⟨hI.v8 h hs, [], by simp [hlog], pend, by simp, hwp.2 _ (V8Call.apply_admits h)⟩
  | callback hc _ _ _ ih₁ ih₂ =>
    obtain rfl := hwp.1 hc
    obtain ⟨hs₁, L₁, hL₁, pend₁, hb₁, rfl⟩ := ih₁ (functionTemplateCallback_wp _) hs
    obtain ⟨hs₂, L₂, hL₂, hb₂⟩ := ih₂ hwp hs₁
    exact ⟨hs₂, L₁ ++ L₂, by simp [hL₁, hL₂], Balanced.append hb₁ hb₂⟩
  | callbackStop _ _ _ ih =>
    obtain ⟨hs₁, L, hL, -⟩ := ih (functionTemplateCallback_wp _) hs
    exact ⟨hs₁, L, hL, trivial⟩
  | callbackPaused hc _ _ ih =>
    obtain rfl := hwp.1 hc
    obtain ⟨hs₁, L, hL, hb⟩ := ih (functionTemplateCallback_wp _) hs
    exact ⟨hs₁, L, hL, hb⟩
  | fail s e => exact ⟨hs, [], by simp, trivial⟩
  | hostReturn s r => exact ⟨hs, [], by simp, [], by simp [hwp.1], hwp.2 r⟩
  | @hostCall _ _ _ _ op b _ _ _ ih₁ ih₂ =>
    obtain ⟨rfl, hQ⟩ := hwp
    obtain ⟨hs₁, L₁, hL₁, pend₁, hb₁, rfl, -⟩ := ih₁ (Op.denote_wp op) hs
    obtain ⟨hs₂, L₂, hL₂, hb₂⟩ := ih₂ ⟨rfl, hQ⟩ (hI.handOver _ hs₁)
    refine ⟨hs₂, L₁ ++ ((op.handed b).map .handOver ++ L₂), by simp [hL₁, hL₂], ?_⟩
    exact Balanced.append hb₁ (Balanced.append (by simp) hb₂)
  | hostCallStop op _ ih =>
    obtain ⟨hs₁, L, hL, -⟩ := ih (Op.denote_wp op) hs
    exact ⟨hs₁, L, hL, trivial⟩
  | hostCallPaused op _ ih =>
    obtain ⟨rfl, -⟩ := hwp
    obtain ⟨hs₁, L, hL, hb⟩ := ih (Op.denote_wp op) hs
    exact ⟨hs₁, L, hL, hb⟩
  | hostPaused s => obtain ⟨rfl, -⟩ := hwp; exact ⟨hs, [], by simp, rfl⟩

/-- The invariant every run keeps trivially, for the log discipline alone. -/
theorem Invariant.true : Invariant fun _ => True := ⟨fun _ _ _ => trivial, fun _ _ => trivial, fun _ _ => trivial⟩

/-- `Run.sound` without an invariant. -/
theorem Run.wp_sound {p : Prog α} {o : Outcome α} {s s' : State} (h : Run s p o s')
    {pend : List ValuePtr} {Q : α → List ValuePtr → Prop} (hwp : p.wp pend Q) :
    ∃ L, s'.log = s.log ++ L ∧ Balanced pend Q L o :=
  (Run.sound Invariant.true h hwp trivial).2

/-- A run of a boundary call that returns `b` appends a log in which what was registered is what
was handed to the host, followed by the wrappers `b` hands over. -/
theorem Op.run_log {op : Op β} {s s' : State} {b : β} (h : Run s op.denote (.ret b) s') :
    ∃ L, s'.log = s.log ++ L ∧ tracked L = State.handed L ++ op.handed b ∧ op.Shape b := by
  obtain ⟨L, hL, pend', hb, rfl, hshape⟩ := Run.wp_sound h (Op.denote_wp op)
  exact ⟨L, hL, by simpa using hb, hshape⟩

/-- An invariant that holds before `Init()` holds in every reachable state. -/
theorem Reachable.invariant {I : State → Prop} (hI : Invariant I) (h₀ : I .init) {s : State}
    (h : Reachable s) : I s := by
  induction h with
  | init => exact h₀
  | call op _ hrun ih => exact hI.handOver _ (Run.sound hI hrun (Op.denote_wp op) ih).1
  | paused op _ hrun ih => exact (Run.sound hI hrun (Op.denote_wp op) ih).1

end V8go
