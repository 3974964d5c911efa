import Mathlib.Data.List.Nodup
import V8go.Semantics.Discipline
import V8go.Semantics.Exec

/-!
# Registry — every wrapper is owned by one live context

`tracked_value(ctx, val)` pushes `val` onto `ctx->vals`, and `ContextFree(ctx)` resets and deletes
the wrappers of `ctx->vals`.  `Owned` is the invariant that makes this memory-safe: a live wrapper's
`ctx` is a live context, whose `vals` holds it once, and no other context's `vals` holds it; a
wrapper `ContextFree` released is gone, and was reset and deleted once.

`Owned` holds before `Init()` and every step of a run keeps it (`owned_invariant`), so it holds in
every reachable state, also where the host looks inside a callback.  In such a state `ContextFree`
of a live context releases exactly the wrappers whose `ctx` it is, each once, and no other
(`Owned.freeContext_eq`).
-/

namespace V8go

open State

/-! ### `ContextFree`'s loop -/

@[simp] theorem count_delete_releaseEvents (w : ValuePtr) (vals : List ValuePtr) :
    (releaseEvents vals).count (.delete w) = vals.count w := by
  induction vals with
  | nil => rfl
  | cons v vals ih =>
    simp only [releaseEvents, List.flatMap_cons, List.count_append] at ih ⊢
    simp [ih, List.count_cons, Nat.add_comm]

@[simp] theorem count_reset_releaseEvents (w : ValuePtr) (vals : List ValuePtr) :
    (releaseEvents vals).count (.reset w) = vals.count w := by
  induction vals with
  | nil => rfl
  | cons v vals ih =>
    simp only [releaseEvents, List.flatMap_cons, List.count_append] at ih ⊢
    simp [ih, List.count_cons, Nat.add_comm]

/-- What the loop of `ContextFree` does when it completes: the wrappers `vals` are gone and the log
records their release. -/
theorem State.releaseValues_eq {vals : List ValuePtr} {s s' : State}
    (h : releaseValues vals s = some s') :
    s' = { s with
      values := fun w => if w ∈ vals then none else s.values w
      log := s.log ++ releaseEvents vals } := by
  induction vals generalizing s with
  | nil =>
    simp only [releaseValues, Option.some.injEq] at h
    subst h
    cases s
    simp [releaseEvents]
  | cons v vals ih =>
    simp only [releaseValues] at h
    split at h
    · cases h
    · rw [ih h]
      cases s
      simp only [releaseEvents, List.flatMap_cons, List.append_assoc, List.mem_cons,
        State.mk.injEq, true_and, and_true]
      funext w
      by_cases hw : w = v <;> simp [hw, Function.update_apply]

/-- The loop of `ContextFree` completes when its wrappers are distinct and live. -/
theorem State.releaseValues_isSome {vals : List ValuePtr} {s : State} (hnd : vals.Nodup)
    (hlive : ∀ w ∈ vals, s.values w ≠ none) : (releaseValues vals s).isSome := by
  induction vals generalizing s with
  | nil => rfl
  | cons v vals ih =>
    obtain ⟨hv, hnd⟩ := List.nodup_cons.mp hnd
    obtain ⟨x, hx⟩ := Option.ne_none_iff_exists'.mp (hlive v (List.mem_cons_self _ _))
    simp only [releaseValues, hx]
    refine ih hnd fun w hw => ?_
    have : w ≠ v := fun h => hv (h ▸ hw)
    simpa [Function.update_apply, this] using hlive w (List.mem_cons_of_mem _ hw)

/-- The state `ContextFree(ctx)` should leave, `vals` being the wrappers of `ctx`: `ctx` and
they are gone, and the log records that each was reset, then deleted. -/
def State.afterFree (s : State) (ctx : ContextPtr) (vals : List ValuePtr) : State :=
  { s with
    contexts := Function.update s.contexts ctx none
    values := fun w => if w ∈ vals then none else s.values w
    log := s.log ++ releaseEvents vals }

/-- `ContextFree(ctx)`'s body, when it completes. -/
theorem State.freeContext_eq {s s' : State} {ctx : ContextPtr} (h : s.freeContext ctx = some s') :
    ∃ m, s.contexts ctx = some m ∧ s' = s.afterFree ctx m.vals := by
  simp only [freeContext, Option.bind_eq_some, Option.map_eq_some'] at h
  obtain ⟨m, hm, s₂, h₂, rfl⟩ := h
  refine ⟨m, hm, ?_⟩
  rw [releaseValues_eq h₂]
  simp [afterFree]

/-- `tracked_value(ctx, val)` of a new wrapper: it is allocated at `next` and pushed onto the
`vals` of `ctx`. -/
theorem State.trackedValue_eq {s s' : State} {ctx : ContextPtr} {val : MValue} {w : ValuePtr}
    (h : s.trackedValue ctx val = some (w, s')) :
    ∃ m, s.contexts ctx = some m ∧ w = s.next ∧ s'.next = s.next + 1 ∧
      s'.values = Function.update s.values s.next (some val) ∧
      s'.contexts = Function.update s.contexts ctx (some { m with vals := m.vals ++ [s.next] }) ∧
      s'.log = s.log ++ [.track ctx s.next] := by
  simp only [trackedValue, Option.map_eq_some'] at h
  obtain ⟨m, hm, h⟩ := h
  cases h
  exact ⟨m, hm, rfl, rfl, rfl, rfl, rfl⟩

/-- `new m_ctx`: allocated at `next`. -/
theorem State.newContext_eq {s s' : State} {m : MCtx} {c : ContextPtr} (h : s.newContext m = (c, s')) :
    c = s.next ∧ s'.next = s.next + 1 ∧ s'.values = s.values ∧
      s'.contexts = Function.update s.contexts s.next (some m) ∧ s'.log = s.log := by
  obtain ⟨rfl, rfl⟩ := Prod.mk.inj h
  exact ⟨rfl, rfl, rfl, rfl, rfl⟩

/-! ### Steps that leave the registry alone -/

/-- The primitives that write the registry: `new m_ctx`, `tracked_value` and `ContextFree`. -/
def Prim.writesRegistry : Prim α → Bool
  | .newContext _ | .trackedValue .. | .freeContext _ => true
  | _ => false

/-- Every other primitive leaves the contexts and wrappers as they were, and allocates upwards. -/
theorem Prim.step_frame {p : Prim α} {s s' : State} {a : α} (h : p.step s = .ok (a, s'))
    (hp : p.writesRegistry = false) :
    s'.values = s.values ∧ s'.contexts = s.contexts ∧ s.next ≤ s'.next := by
  cases p <;> simp only [writesRegistry, reduceCtorEq] at hp <;> simp only [Prim.step] at h <;>
    (try split at h) <;> simp only [reduceCtorEq, Except.ok.injEq, Prod.mk.injEq] at h
  case newTemplate => obtain ⟨rfl, rfl⟩ := Prod.mk.inj h; simp [State.newTemplate]
  all_goals obtain ⟨-, rfl⟩ := h; simp

/-- Only `ContextFree` logs a reset or a delete. -/
theorem Prim.logged_release {p : Prim α} {a : α} {s : State} (hp : p.writesRegistry = false)
    (w : ValuePtr) : (p.logged a s).count (.delete w) = 0 ∧ (p.logged a s).count (.reset w) = 0 := by
  cases p <;> simp [writesRegistry, logged] at hp ⊢

/-! ### The invariant -/

/-- The registry invariant. -/
structure Owned (s : State) : Prop where
  /-- A live wrapper's `ctx` is a live context. -/
  owner : ∀ w v, s.values w = some v → ∃ c, v.ctx = some c ∧ s.contexts c ≠ none
  /-- A live context's `vals` are the live wrappers whose `ctx` it is. -/
  mem_vals : ∀ c m, s.contexts c = some m → ∀ w, w ∈ m.vals ↔ ∃ v, s.values w = some v ∧ v.ctx = some c
  /-- ... each once. -/
  nodup : ∀ c m, s.contexts c = some m → m.vals.Nodup
  values_fresh : ∀ w, s.next ≤ w → s.values w = none
  contexts_fresh : ∀ c, s.next ≤ c → s.contexts c = none
  /-- A released wrapper was allocated, and is gone. -/
  released : ∀ w, Event.delete w ∈ s.log → s.values w = none ∧ s.next > w
  /-- No wrapper is deleted twice, and each is reset as often as deleted. -/
  once : ∀ w, s.log.count (.delete w) ≤ 1 ∧ s.log.count (.reset w) = s.log.count (.delete w)

namespace Owned

variable {s s' : State}

theorem init : Owned .init where
  owner _ _ h := by cases h
  mem_vals _ _ h := by cases h
  nodup _ _ h := by cases h
  values_fresh _ _ := rfl
  contexts_fresh _ _ := rfl
  released _ h := by cases h
  once _ := by simp [State.init]

theorem lt_next_of_values (hs : Owned s) {w : ValuePtr} (hw : s.values w ≠ none) :
    s.next > w :=
  Nat.lt_of_not_le fun h => hw (hs.values_fresh w h)

theorem lt_next_of_contexts (hs : Owned s) {c : ContextPtr} (hc : s.contexts c ≠ none) :
    s.next > c :=
  Nat.lt_of_not_le fun h => hc (hs.contexts_fresh c h)

/-- A step that leaves the registry alone, and logs no release, keeps `Owned`. -/
theorem frame (hs : Owned s) (hv : s'.values = s.values) (hc : s'.contexts = s.contexts)
    (hn : s.next ≤ s'.next) {L : List Event} (hL : s'.log = s.log ++ L)
    (hrel : ∀ w, L.count (.delete w) = 0 ∧ L.count (.reset w) = 0) : Owned s' where
  owner w v h := by simpa [hc] using hs.owner w v (hv ▸ h)
  mem_vals c m h := by simpa [hv] using hs.mem_vals c m (hc ▸ h)
  nodup c m h := hs.nodup c m (hc ▸ h)
  values_fresh w h := hv ▸ hs.values_fresh w (Nat.le_trans hn h)
  contexts_fresh c h := hc ▸ hs.contexts_fresh c (Nat.le_trans hn h)
  released w h := by
    rw [hL, List.mem_append] at h
    rcases h with h | h
    · obtain ⟨h₁, h₂⟩ := hs.released w h
      exact ⟨hv ▸ h₁, Nat.lt_of_lt_of_le h₂ hn⟩
    · exact absurd (hrel w).1 (Nat.ne_of_gt (List.count_pos_iff.mpr h))
  once w := by simpa [hL, (hrel w).1, (hrel w).2] using hs.once w

/-- `tracked_value(ctx, val)` of a new wrapper whose `ctx` is `ctx`. -/
theorem trackedValue (hs : Owned s) {ctx : ContextPtr} {val : MValue} {w : ValuePtr}
    (hval : val.ctx = some ctx) (h : s.trackedValue ctx val = some (w, s')) : Owned s' := by
  obtain ⟨m, hm, -, hn, hv, hc, hl⟩ := State.trackedValue_eq h
  have hfresh : s.values s.next = none := hs.values_fresh _ le_rfl
  have hnew : ∀ c m', s.contexts c = some m' → s.next ∉ m'.vals := fun c m' hc hmem => by
    obtain ⟨v, hv, -⟩ := (hs.mem_vals c m' hc s.next).mp hmem
    simp [hfresh] at hv
  have hctx : s.next > ctx := hs.lt_next_of_contexts (by simp [hm])
  constructor
  case owner =>
    intro w v hw
    rw [hv] at hw
    rw [hc]
    by_cases hwn : w = s.next
    · subst hwn
      simp only [Function.update_same, Option.some.injEq] at hw
      subst hw
      exact ⟨ctx, hval, by simp⟩
    · simp only [Function.update_noteq hwn] at hw
      obtain ⟨c, hc, hlive⟩ := hs.owner w v hw
      refine ⟨c, hc, ?_⟩
      by_cases hcc : c = ctx <;> simp [Function.update_apply, hcc, hlive]
  case mem_vals =>
    intro c m' hc' w
    rw [hc] at hc'
    rw [hv]
    by_cases hcc : c = ctx
    · subst hcc
      simp only [Function.update_same, Option.some.injEq] at hc'
      subst hc'
      by_cases hwn : w = s.next
      · subst hwn; simp [hval]
      · simp [Function.update_noteq hwn, hs.mem_vals c m hm w, hwn]
    · simp only [Function.update_noteq hcc] at hc'
      by_cases hwn : w = s.next
      · subst hwn
        simp [hnew c m' hc', hval, Ne.symm hcc]
      · simp [Function.update_noteq hwn, hs.mem_vals c m' hc' w]
  case nodup =>
    intro c m' hc'
    rw [hc] at hc'
    by_cases hcc : c = ctx
    · subst hcc
      simp only [Function.update_same, Option.some.injEq] at hc'
      subst hc'
      exact List.concat_eq_append m.vals s.next ▸ (hs.nodup c m hm).concat (hnew c m hm)
    · exact hs.nodup c m' (by simpa [Function.update_noteq hcc] using hc')
  case values_fresh =>
    intro w hw
    rw [hn] at hw
    simp [hv, Function.update_noteq (show w ≠ s.next by rintro rfl; omega),
      hs.values_fresh w (by omega)]
  case contexts_fresh =>
    intro c hc'
    rw [hn] at hc'
    simp [hc, Function.update_noteq (show c ≠ ctx by rintro rfl; omega), hs.contexts_fresh c (by omega)]
  case released =>
    intro w hw
    simp only [hl, List.mem_append, List.mem_singleton, reduceCtorEq, or_false] at hw
    obtain ⟨h₁, h₂⟩ := hs.released w hw
    exact ⟨by simp [hv, Function.update_noteq (show w ≠ s.next by rintro rfl; omega), h₁], by omega⟩
  case once =>
    intro w
    simpa [hl] using hs.once w

/-- `new m_ctx`, with no wrappers. -/
theorem newContext (hs : Owned s) {m : MCtx} (hm : m.vals = []) {c : ContextPtr}
    (h : s.newContext m = (c, s')) : Owned s' := by
  obtain ⟨-, hn, hv, hc, hl⟩ := State.newContext_eq h
  have hfresh : s.contexts s.next = none := hs.contexts_fresh _ le_rfl
  constructor
  case owner =>
    intro w v hw
    rw [hv] at hw
    obtain ⟨c, hc', hlive⟩ := hs.owner w v hw
    exact ⟨c, hc', by by_cases hcc : c = s.next <;> simp [hc, Function.update_apply, hcc, hlive]⟩
  case mem_vals =>
    intro c m' hc' w
    rw [hc] at hc'
    rw [hv]
    by_cases hcc : c = s.next
    · subst hcc
      simp only [Function.update_same, Option.some.injEq] at hc'
      subst hc'
      simp only [hm, List.not_mem_nil, false_iff, not_exists, not_and]
      intro v hv hvc
      obtain ⟨c', hc', hlive⟩ := hs.owner w v hv
      simp_all
    · exact hs.mem_vals c m' (by simpa [Function.update_noteq hcc] using hc') w
  case nodup =>
    intro c m' hc'
    rw [hc] at hc'
    by_cases hcc : c = s.next
    · subst hcc
      simp only [Function.update_same, Option.some.injEq] at hc'
      simp [← hc', hm]
    · exact hs.nodup c m' (by simpa [Function.update_noteq hcc] using hc')
  case values_fresh =>
    exact fun w hw => hv ▸ hs.values_fresh w (by omega)
  case contexts_fresh =>
    intro c hc'
    simp [hc, Function.update_noteq (show c ≠ s.next by rintro rfl; omega),
      hs.contexts_fresh c (by omega)]
  case released =>
    intro w hw
    rw [hl] at hw
    obtain ⟨h₁, h₂⟩ := hs.released w hw
    exact ⟨hv ▸ h₁, by omega⟩
  case once =>
    exact hl ▸ hs.once

/-- The body of `ContextFree(ctx)`. -/
theorem freeContext (hs : Owned s) {ctx : ContextPtr} (h : s.freeContext ctx = some s') :
    Owned s' := by
  obtain ⟨m, hm, rfl⟩ := State.freeContext_eq h
  simp only [afterFree]
  have hown : ∀ w v, s.values w = some v → (w ∈ m.vals ↔ v.ctx = some ctx) := fun w v hv => by
    simp [hs.mem_vals ctx m hm w, hv]
  constructor
  case owner =>
    intro w v hw
    simp only at hw
    split_ifs at hw with hmem
    obtain ⟨c, hc, hlive⟩ := hs.owner w v hw
    have : c ≠ ctx := fun h => hmem ((hown w v hw).mpr (h ▸ hc))
    exact ⟨c, hc, by simpa [Function.update_noteq this] using hlive⟩
  case mem_vals =>
    intro c m' hc w
    have hcc : c ≠ ctx := fun h => by subst h; simp at hc
    simp only [Function.update_noteq hcc] at hc
    rw [hs.mem_vals c m' hc w]
    constructor
    · rintro ⟨v, hv, hvc⟩
      have : w ∉ m.vals := fun h => hcc (Option.some.inj (hvc.symm.trans ((hown w v hv).mp h)))
      exact ⟨v, by simp [this, hv], hvc⟩
    · rintro ⟨v, hv, hvc⟩
      simp only at hv
      split_ifs at hv
      exact ⟨v, hv, hvc⟩
  case nodup =>
    intro c m' hc
    have hcc : c ≠ ctx := fun h => by subst h; simp at hc
    exact hs.nodup c m' (by simpa [Function.update_noteq hcc] using hc)
  case values_fresh =>
    intro w hw
    simp [hs.values_fresh w hw]
  case contexts_fresh =>
    intro c hc
    have : c ≠ ctx := fun h => by
      have := hs.contexts_fresh c hc
      simp_all
    simp [Function.update_noteq this, hs.contexts_fresh c hc]
  case released =>
    intro w hw
    simp only [List.mem_append] at hw
    rcases hw with hw | hw
    · obtain ⟨h₁, h₂⟩ := hs.released w hw
      exact ⟨by simp [h₁], h₂⟩
    · have hmem : w ∈ m.vals := by
        simpa [releaseEvents] using hw
      obtain ⟨v, hv, -⟩ := (hs.mem_vals ctx m hm w).mp hmem
      exact ⟨by simp [hmem], hs.lt_next_of_values (by simp [hv])⟩
  case once =>
    intro w
    obtain ⟨h₁, h₂⟩ := hs.once w
    have hcount : m.vals.count w ≤ 1 := List.nodup_iff_count_le_one.mp (hs.nodup ctx m hm) w
    by_cases hmem : w ∈ m.vals
    · obtain ⟨v, hv, -⟩ := (hs.mem_vals ctx m hm w).mp hmem
      have h₀ : s.log.count (.delete w) = 0 :=
        List.count_eq_zero.mpr fun hd => by simp [(hs.released w hd).1] at hv
      simp only [List.count_append, count_delete_releaseEvents, count_reset_releaseEvents]
      omega
    · simp [List.count_append, List.count_eq_zero_of_not_mem hmem, h₁, h₂]

end Owned

/-- `Owned` is kept by every step of every run. -/
theorem owned_invariant : Invariant Owned where
  prim {α p pend Q s s' a} hwp h hs := by
    cases p with
    | trackedValue ctx val => exact hs.trackedValue hwp.1 (Prim.trackedValue_step h)
    | newContext m => exact hs.newContext hwp.1 (Except.ok.inj h)
    | freeContext ctx => exact hs.freeContext (Prim.freeContext_step h)
    | _ =>
      obtain ⟨hv, hc, hn⟩ := Prim.step_frame h rfl
      exact hs.frame hv hc hn (Prim.step_log h) (Prim.logged_release rfl)
  v8 h hs := by
    obtain ⟨hc, hv, -, hl, hn⟩ := V8Call.apply_frame h
    exact hs.frame hv hc hn (L := []) (by simp [hl]) (by simp)
  handOver ws hs := hs.frame rfl rfl le_rfl rfl (by simp [List.count_eq_zero])

namespace Owned

variable {s : State}

/-- In an `Owned` state, `ContextFree` of a live context completes. -/
theorem freeContext_eq (hs : Owned s) {c : ContextPtr} {m : MCtx} (hm : s.contexts c = some m) :
    s.freeContext c = some (s.afterFree c m.vals) := by
  have hlive : ∀ w ∈ m.vals,
      ({ s with contexts := Function.update s.contexts c (some { m with ptr := none }) } : State).values w
        ≠ none := fun w hw => by
    obtain ⟨v, hv, -⟩ := (hs.mem_vals c m hm w).mp hw
    simp [hv]
  obtain ⟨s₂, h₂⟩ := Option.isSome_iff_exists.mp (releaseValues_isSome (hs.nodup c m hm) hlive)
  simp only [State.freeContext, hm, Option.some_bind, h₂, Option.map_some', releaseValues_eq h₂]
  simp [afterFree]

end Owned

/-- Every reachable state is `Owned`. -/
theorem Reachable.owned {s : State} (h : Reachable s) : Owned s :=
  h.invariant owned_invariant Owned.init

end V8go
