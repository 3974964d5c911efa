import V8go.Registry.Growth

/-!
# Registry — how long a wrapper lives

The host holds the `m_value*` the bridge hands it and passes them back in later calls.  It needs to
know how long such a pointer stays valid.  The log answers: a wrapper is allocated exactly while it
has been tracked and not yet deleted.

* `Lifetime`: the invariant.  The allocated wrappers are those the log shows tracked and not
  deleted; only tracked wrappers are deleted, and every tracked wrapper is below `next`;
* `lifetime_invariant`: every step keeps it, with no precondition: `tracked_value` allocates at
  `next` and tracks that address; `ContextFree`'s loop deletes only allocated wrappers and logs
  each delete; nothing else touches a wrapper or logs a track or a delete;
* `handed_live_until_deleted`: **in every reachable state, a wrapper the host was handed is
  allocated exactly until the log shows its `delete`.**  With `Reachable.tracked_eq_handed` the
  wrappers the host was handed are the tracked ones.

This holds in every reachable state, in the callbacks of nested boundary calls too.  Being
allocated is not being usable: `IsolateDispose` frees only the internal context, so a wrapper of
another context of the disposed isolate stays allocated, in a dead isolate.
-/

namespace V8go

open State

@[simp] theorem delete_mem_releaseEvents {w : ValuePtr} {vals : List ValuePtr} :
    Event.delete w ∈ releaseEvents vals ↔ w ∈ vals := by
  simp [releaseEvents]

/-- Only `tracked_value` logs a track. -/
theorem Prim.tracked_logged {p : Prim α} {a : α} {s : State} (hp : p.writesRegistry = false) :
    tracked (p.logged a s) = [] := by
  cases p <;> simp [writesRegistry, logged, tracked] at hp ⊢

/-- `ContextFree`'s loop completes only over allocated wrappers. -/
theorem State.releaseValues_allocated {vals : List ValuePtr} {s s' : State}
    (h : releaseValues vals s = some s') : ∀ w ∈ vals, s.values w ≠ none := by
  induction vals generalizing s with
  | nil => simp
  | cons v vals ih =>
    simp only [releaseValues] at h
    split at h
    · cases h
    · rename_i hv
      intro w hw
      rcases List.mem_cons.mp hw with rfl | hw
      · simp [hv]
      · have hw' := ih h w hw
        simp only [Function.update_apply] at hw'
        split at hw'
        · exact absurd rfl hw'
        · exact hw'

/-- The body of `ContextFree` on `ctx`, when it completes: every wrapper of `ctx` was allocated,
and `afterFree` is left. -/
theorem State.freeContext_allocated {s s' : State} {ctx : ContextPtr} (h : s.freeContext ctx = some s') :
    ∃ m, s.contexts ctx = some m ∧ (∀ w ∈ m.vals, s.values w ≠ none) ∧ s' = s.afterFree ctx m.vals := by
  obtain ⟨m, hm, rfl⟩ := State.freeContext_eq h
  simp only [State.freeContext, hm, Option.some_bind, Option.map_eq_some'] at h
  obtain ⟨_, h₂, -⟩ := h
  exact ⟨m, hm, fun w hw => State.releaseValues_allocated h₂ w hw, rfl⟩

/-- The log accounts for every wrapper: one is allocated exactly when it was tracked and has not
been deleted; only tracked wrappers are deleted; every tracked wrapper is below `next`. -/
structure Lifetime (s : State) : Prop where
  allocated : ∀ w, s.values w ≠ none ↔ w ∈ tracked s.log ∧ Event.delete w ∉ s.log
  deleted : ∀ w, Event.delete w ∈ s.log → w ∈ tracked s.log
  below : ∀ w ∈ tracked s.log, w < s.next

namespace Lifetime

variable {s s' : State}

theorem init : Lifetime .init where
  allocated _ := by simp [State.init]
  deleted _ h := by cases h
  below _ h := by cases h

/-- A step that touches no wrapper, allocates upwards, and logs no track and no delete. -/
theorem frame (hs : Lifetime s) (hv : s'.values = s.values) (hn : s.next ≤ s'.next) {L : List Event}
    (hL : s'.log = s.log ++ L) (htr : tracked L = []) (hdel : ∀ w, Event.delete w ∉ L) : Lifetime s' where
  allocated w := by
    simpa only [hv, hL, tracked_append, htr, List.append_nil, List.mem_append, hdel, or_false] using
      hs.allocated w
  deleted w h := by
    simp only [hL, tracked_append, htr, List.append_nil, List.mem_append, hdel, or_false] at h ⊢
    exact hs.deleted w h
  below w h := by
    simp only [hL, tracked_append, htr, List.append_nil] at h
    exact Nat.lt_of_lt_of_le (hs.below w h) hn

/-- `tracked_value(ctx, val)` allocates the wrapper `next`, which no event names yet. -/
theorem trackedValue (hs : Lifetime s) {ctx : ContextPtr} {val : MValue} {w : ValuePtr}
    (h : s.trackedValue ctx val = some (w, s')) : Lifetime s' := by
  obtain ⟨-, -, -, hn, hv, -, hl⟩ := State.trackedValue_eq h
  have hfresh : s.next ∉ tracked s.log := fun h => Nat.lt_irrefl _ (hs.below _ h)
  have hmem : ∀ w, Event.delete w ∈ s'.log ↔ Event.delete w ∈ s.log := fun w => by
    simp [hl]
  refine ⟨fun w => ?_, fun w h => ?_, fun w h => ?_⟩
  · rw [hv, hmem, hl, tracked_append, Function.update_apply]
    split
    · subst w
      simpa [tracked] using fun hd => hfresh (hs.deleted _ hd)
    · simpa [tracked, *] using hs.allocated w
  · rw [hl, tracked_append]
    exact List.mem_append_left _ (hs.deleted w ((hmem w).mp h))
  · rw [hl, tracked_append, List.mem_append] at h
    rcases h with h | h
    · exact Nat.lt_of_lt_of_le (hs.below w h) (hn ▸ Nat.le_succ _)
    · simp only [tracked, List.mem_singleton] at h
      rw [h, hn]
      exact Nat.lt_succ_self _

/-- `ContextFree` deletes allocated wrappers only, and logs each delete. -/
theorem afterFree (hs : Lifetime s) {ctx : ContextPtr} {vals : List ValuePtr}
    (hlive : ∀ w ∈ vals, s.values w ≠ none) : Lifetime (s.afterFree ctx vals) where
  allocated w := by
    simp only [State.afterFree, tracked_append, tracked_releaseEvents, List.append_nil, List.mem_append,
      delete_mem_releaseEvents]
    split
    · simp [‹w ∈ vals›]
    · simpa [‹w ∉ vals›] using hs.allocated w
  deleted w h := by
    simp only [State.afterFree, tracked_append, tracked_releaseEvents, List.append_nil, List.mem_append,
      delete_mem_releaseEvents] at h ⊢
    rcases h with h | h
    · exact hs.deleted w h
    · exact ((hs.allocated w).mp (hlive w h)).1
  below w h := by
    simp only [State.afterFree, tracked_append, tracked_releaseEvents, List.append_nil] at h
    exact hs.below w h

end Lifetime

/-- `Lifetime` is kept by every step of every run. -/
theorem lifetime_invariant : Invariant Lifetime where
  prim {α p pend Q s s' a} _ h hs := by
    cases p with
    | trackedValue ctx val => exact hs.trackedValue (Prim.trackedValue_step h)
    | freeContext ctx =>
      obtain ⟨m, -, hlive, rfl⟩ := State.freeContext_allocated (Prim.freeContext_step h)
      exact hs.afterFree hlive
    | newContext m =>
      obtain ⟨-, hn, hv, -, hl⟩ := State.newContext_eq (Except.ok.inj h)
      exact hs.frame hv (by omega) (L := []) (by simp [hl]) rfl (by simp)
    | _ =>
      obtain ⟨hv, -, hn⟩ := Prim.step_frame h rfl
      exact hs.frame hv hn (Prim.step_log h) (Prim.tracked_logged rfl)
        fun w => List.count_eq_zero.mp (Prim.logged_release (by rfl) w).1
  v8 h hs := by
    obtain ⟨-, hv, -, hl, hn⟩ := V8Call.apply_frame h
    exact hs.frame hv hn (L := []) (by simp [hl]) rfl (by simp)
  handOver ws hs := hs.frame rfl le_rfl rfl (tracked_handOver ws) (by simp)

/-- Every reachable state satisfies `Lifetime`. -/
theorem Reachable.lifetime {s : State} (h : Reachable s) : Lifetime s :=
  h.invariant lifetime_invariant Lifetime.init

/-- **A wrapper lives until it is deleted.**  In every reachable state, a wrapper the bridge has
handed to the host is allocated exactly when the log shows no `delete` of it. -/
theorem handed_live_until_deleted {s : State} (h : Reachable s) {w : ValuePtr} (hw : w ∈ handed s.log) :
    s.values w ≠ none ↔ Event.delete w ∉ s.log := by
  rw [h.lifetime.allocated w, h.tracked_eq_handed]
  exact and_iff_right hw

/-- The wrapper `6` a `RunScript` of context `5` handed over, after `ContextFree(5)`: deleted, and
no longer allocated. -/
theorem handed_live_until_deleted_contextFree : ∃ s, Reachable s ∧ 6 ∈ handed s.log ∧
    Event.delete 6 ∈ s.log ∧ s.values 6 = none := by
  obtain ⟨s, -, -, hs, -, hP⟩ := Engine.canonical.witness_sound 40
    [⟨_, .newIsolate⟩, ⟨_, .newContext 0 none 1⟩, ⟨_, .runScript 5 (cstr "s") (cstr "o")⟩,
      ⟨_, .contextFree (some 5)⟩] .version
    (fun s _ _ => decide (6 ∈ handed s.log) && decide (Event.delete 6 ∈ s.log)) (by decide)
  simp only [Bool.and_eq_true, decide_eq_true_eq] at hP
  exact ⟨s, hs, hP.1, hP.2, not_not.mp fun hv => (handed_live_until_deleted hs hP.1).mp hv hP.2⟩

end V8go
