import V8go.Safety.Progress

/-!
# Safety — the handles the host holds stay live

The host keeps the isolates, contexts, wrappers and templates the bridge hands it, and passes them
back in later calls.  Only three entry points free anything (`Op.frees`): `ContextFree`,
`IsolateDispose` and `TemplateFreeWrapper`.  A call of any other entry point that returns without
calling the host leaves every handle the host holds as good as it was:

* `Fresh`: nothing is allocated at or above `next`.  Every step keeps it, so every reachable state
  has it (`Reachable.fresh`), and a new record never overwrites an old one;
* `Grows s s'`: every live isolate of `s` is live in `s'`, every wrapper and template is as it was,
  and every context keeps its isolate and handle, its wrappers first in its list;
* `Prim.grows`, `V8Call.grows`: the steps `Op.denote_entry` allows a non-freeing entry point grow
  a `Fresh` state;
* `Run.keeps_idle`, the run lemma: a property those steps keep holds at the end of every run that
  returns without calling the host, for such a run makes no callback;
* `handles_stay_live`: **from every reachable state, a non-freeing call that returns without
  calling the host grows the state**; so every argument that was live stays live
  (`Grows.liveIsolate`, `Grows.liveContext`, `Grows.liveValue`, `Grows.liveTemplate`).

What is not derived here: that an isolate's internal context stays live.  `SetData` overwrites
slot 0 of the isolate it is given; `NewIsolate` gives it only the isolate it has just made, which
this step-by-step argument does not see.  Nor is anything said of runs that call the host: the
host may run `ContextFree` from inside a callback (`runScript_context_freed_in_callback`).
-/

namespace V8go

/-! ### Fresh addresses -/

/-- No address at or above `n` is allocated in `f`. -/
def FreshAbove {β : Type} (f : Nat → Option β) (n : Nat) : Prop :=
  ∀ i, n ≤ i → f i = none

namespace FreshAbove

variable {β : Type} {f : Nat → Option β} {n n' k : Nat}

theorem lt (h : FreshAbove f n) (hk : f k ≠ none) : k < n :=
  Nat.lt_of_not_le fun hle => hk (h k hle)

theorem mono (h : FreshAbove f n) (hn : n ≤ n') : FreshAbove f n' :=
  fun i hi => h i (Nat.le_trans hn hi)

/-- Writing below the new bound keeps the addresses above it fresh. -/
theorem update (h : FreshAbove f n) (hn : n ≤ n') (hk : k < n') (x : Option β) :
    FreshAbove (Function.update f k x) n' := fun i hi => by
  rw [Function.update_noteq (by omega)]
  exact h i (Nat.le_trans hn hi)

theorem erase (h : FreshAbove f n) (k : Nat) : FreshAbove (Function.update f k none) n := fun i hi => by
  rw [Function.update_apply]
  split
  · rfl
  · exact h i hi

/-- A record allocated before is not overwritten by one allocated at `n`. -/
theorem update_self (h : FreshAbove f n) {v : β} (hk : f k = some v) (x : Option β) :
    Function.update f n x k = some v := by
  rw [Function.update_noteq (Nat.ne_of_lt (h.lt (by simp [hk])))]
  exact hk

end FreshAbove

/-- Nothing is allocated at or above `next`: no `m_ctx`, wrapper or `m_template`.  (`Owned` says
the same of contexts and wrappers; this is kept by every step, with no precondition.) -/
structure Fresh (s : State) : Prop where
  contexts : FreshAbove s.contexts s.next
  values : FreshAbove s.values s.next
  templates : FreshAbove s.templates s.next

namespace Fresh

variable {s s' : State}

theorem init : Fresh .init := ⟨fun _ _ => rfl, fun _ _ => rfl, fun _ _ => rfl⟩

/-- Every primitive step keeps `Fresh`: it allocates at `next` and moves `next` past it, writes a
live context, or frees. -/
theorem prim (hs : Fresh s) {α : Type} {p : Prim α} {a : α} (h : p.step s = .ok (a, s')) :
    Fresh s' := by
  cases p <;> simp only [Prim.step] at h <;> (try split at h) <;>
    simp only [reduceCtorEq, Except.ok.injEq, Prod.mk.injEq] at h
  case newContext =>
    obtain ⟨rfl, rfl⟩ := Prod.mk.inj h
    exact ⟨hs.contexts.update (Nat.le_succ _) (Nat.lt_succ_self _) _, hs.values.mono (Nat.le_succ _),
      hs.templates.mono (Nat.le_succ _)⟩
  case newTemplate =>
    obtain ⟨rfl, rfl⟩ := Prod.mk.inj h
    exact ⟨hs.contexts.mono (Nat.le_succ _), hs.values.mono (Nat.le_succ _),
      hs.templates.update (Nat.le_succ _) (Nat.lt_succ_self _) _⟩
  case deleteTemplate.h_1 =>
    obtain ⟨-, rfl⟩ := h
    exact ⟨hs.contexts, hs.values, hs.templates.erase _⟩
  case trackedValue.h_1 hv =>
    subst h
    obtain ⟨m, hm, hv⟩ := Option.map_eq_some'.mp hv
    cases hv
    have hlt := hs.contexts.lt (Option.ne_none_iff_exists'.mpr ⟨m, hm⟩)
    exact ⟨hs.contexts.update (Nat.le_succ _) (by omega) _,
      hs.values.update (Nat.le_succ _) (Nat.lt_succ_self _) _, hs.templates.mono (Nat.le_succ _)⟩
  case freeContext.h_1 hfc =>
    obtain ⟨-, rfl⟩ := h
    obtain ⟨m, -, rfl⟩ := State.freeContext_eq hfc
    refine ⟨hs.contexts.erase _, fun w hw => ?_, hs.templates⟩
    simp only [State.afterFree]
    split
    · rfl
    · exact hs.values w hw
  all_goals obtain ⟨-, rfl⟩ := h; exact ⟨hs.contexts, hs.values, hs.templates⟩

/-- Every engine answer keeps `Fresh`: it leaves the bridge's memory alone and allocates upwards. -/
theorem v8 (hs : Fresh s) {α : Type} {c : V8Call α} {r : α} (h : c.apply r s = some s') : Fresh s' := by
  obtain ⟨hc, hv, ht, -, hn⟩ := V8Call.apply_frame h
  exact ⟨hc ▸ hs.contexts.mono hn, hv ▸ hs.values.mono hn, ht ▸ hs.templates.mono hn⟩

theorem keeps : Keeps Fresh :=
  ⟨fun _ h hs => hs.prim h, fun _ h hs => hs.v8 h, fun _ hs => ⟨hs.contexts, hs.values, hs.templates⟩⟩

end Fresh

/-- Every reachable state is `Fresh`. -/
theorem Reachable.fresh {s : State} (h : Reachable s) : Fresh s := h.keeps Fresh.keeps Fresh.init

/-! ### Growth -/

/-- `s'` has everything the host may hold of `s`: every live isolate is still live, every wrapper
and `m_template` is as it was, and every `m_ctx` is as it was but for wrappers tracked after the
ones it had. -/
structure Grows (s s' : State) : Prop where
  isolates : ∀ iso, s.isolates iso ≠ none → s'.isolates iso ≠ none
  values : ∀ w v, s.values w = some v → s'.values w = some v
  contexts : ∀ c m, s.contexts c = some m → ∃ vs, s'.contexts c = some { m with vals := m.vals ++ vs }
  templates : ∀ t mt, s.templates t = some mt → s'.templates t = some mt

namespace Grows

variable {s s₁ s' : State}

theorem refl (s : State) : Grows s s :=
  ⟨fun _ h => h, fun _ _ h => h, fun _ _ h => ⟨[], by rw [List.append_nil]; exact h⟩, fun _ _ h => h⟩

theorem trans (h₁ : Grows s s₁) (h₂ : Grows s₁ s') : Grows s s' where
  isolates iso h := h₂.isolates iso (h₁.isolates iso h)
  values w v h := h₂.values w v (h₁.values w v h)
  contexts c m h := by
    obtain ⟨vs, h'⟩ := h₁.contexts c m h
    obtain ⟨vs', h''⟩ := h₂.contexts c _ h'
    exact ⟨vs ++ vs', by rw [← List.append_assoc]; exact h''⟩
  templates t mt h := h₂.templates t mt (h₁.templates t mt h)

/-- A step that leaves the contexts and wrappers alone, and keeps every live isolate and every
template. -/
theorem of_frame (hi : ∀ iso, s.isolates iso ≠ none → s'.isolates iso ≠ none)
    (hc : s'.contexts = s.contexts) (hv : s'.values = s.values)
    (ht : ∀ t mt, s.templates t = some mt → s'.templates t = some mt) : Grows s s' :=
  ⟨hi, fun _ _ h => hv ▸ h, fun _ _ h => ⟨[], by rw [hc, List.append_nil]; exact h⟩, ht⟩

theorem liveIsolate (h : Grows s s') {iso : IsolatePtr} (hi : s.liveIsolate iso = true) :
    s'.liveIsolate iso = true :=
  State.liveIsolate_iff.mpr (h.isolates iso (State.liveIsolate_iff.mp hi))

theorem liveValue (h : Grows s s') {w : ValuePtr} (hw : s.liveValue w = true) : s'.liveValue w = true := by
  obtain ⟨v, hv, hiso⟩ := State.liveValue_spec hw
  unfold State.liveValue
  rw [h.values w v hv]
  exact State.liveIsolate_iff.mpr (h.isolates _ hiso)

theorem liveContext (h : Grows s s') {c : ContextPtr} (hc : s.liveContext c = true) :
    s'.liveContext c = true := by
  obtain ⟨m, hm, hiso⟩ := State.liveContext_spec hc
  obtain ⟨vs, hm'⟩ := h.contexts c m hm
  unfold State.liveContext
  rw [hm']
  exact State.liveIsolate_iff.mpr (h.isolates _ hiso)

theorem liveTemplate (h : Grows s s') {t : TemplatePtr} (ht : s.liveTemplate t = true) :
    s'.liveTemplate t = true := by
  obtain ⟨mt, hmt, hiso⟩ := State.liveTemplate_spec ht
  unfold State.liveTemplate
  rw [h.templates t mt hmt]
  exact State.liveIsolate_iff.mpr (h.isolates _ hiso)

end Grows

/-! ### The steps of a non-freeing entry point -/

/-- A primitive step other than `delete tmpl` keeps every `m_template`. -/
theorem Prim.step_templates {α : Type} {p : Prim α} {s s' : State} {a : α} (hp : p.Entry false)
    (hs : Fresh s) (h : p.step s = .ok (a, s')) (t : TemplatePtr) (mt : MTemplate)
    (ht : s.templates t = some mt) : s'.templates t = some mt := by
  cases p <;> simp only [Prim.step] at h <;> (try split at h) <;>
    simp only [reduceCtorEq, Except.ok.injEq, Prod.mk.injEq] at h
  case newTemplate => obtain ⟨rfl, rfl⟩ := Prod.mk.inj h; exact hs.templates.update_self ht _
  case newContext => obtain ⟨rfl, rfl⟩ := Prod.mk.inj h; exact ht
  case deleteTemplate.h_1 => exact absurd hp Bool.false_ne_true
  case trackedValue.h_1 hv =>
    subst h
    obtain ⟨_, -, hv⟩ := Option.map_eq_some'.mp hv
    cases hv
    exact ht
  case freeContext.h_1 => exact absurd hp Bool.false_ne_true
  all_goals obtain ⟨-, rfl⟩ := h; exact ht

/-- A primitive step a non-freeing entry point may take grows a `Fresh` state: `new m_ctx` and
`tracked_value` allocate at `next`, and `tracked_value` appends its wrapper to its context. -/
theorem Prim.grows {α : Type} {p : Prim α} {s s' : State} {a : α} (hp : p.Entry false) (hs : Fresh s)
    (h : p.step s = .ok (a, s')) : Grows s s' := by
  have ht := Prim.step_templates hp hs h
  cases hw : p.writesRegistry
  · obtain ⟨hv, hc, -⟩ := Prim.step_frame h hw
    exact .of_frame (Prim.step_isolates h) hc hv ht
  cases p <;> simp only [Prim.writesRegistry, reduceCtorEq] at hw
  case newContext m =>
    obtain ⟨-, -, hv, hc, -⟩ := State.newContext_eq (Except.ok.inj h)
    refine ⟨Prim.step_isolates h, fun _ _ h => hv ▸ h, fun c m' h => ⟨[], ?_⟩, ht⟩
    rw [hc, List.append_nil]
    exact hs.contexts.update_self h _
  case trackedValue ctx val =>
    obtain ⟨m, hm, -, -, hv, hc, -⟩ := State.trackedValue_eq (Prim.trackedValue_step h)
    refine ⟨Prim.step_isolates h, fun w v h => hv ▸ hs.values.update_self h _, fun c m' h => ?_, ht⟩
    rw [hc, Function.update_apply]
    split
    · subst c
      rw [hm] at h
      cases h
      exact ⟨[s.next], rfl⟩
    · exact ⟨[], by rw [List.append_nil]; exact h⟩
  case freeContext => exact absurd hp Bool.false_ne_true

/-- An engine answer to a call other than `Isolate::Dispose` keeps every live isolate: only
`Isolate::New` writes one, at `next`. -/
theorem V8Call.apply_isolates {α : Type} {c : V8Call α} {r : α} {s s' : State} (hc : c.Entry false)
    (h : c.apply r s = some s') (iso : IsolatePtr) (hi : s.isolates iso ≠ none) : s'.isolates iso ≠ none := by
  cases hch : c.changesHeap
  · exact V8Call.apply_self hch h ▸ hi
  cases c <;> cases hch
  case isolateNew.refl =>
    obtain ⟨-, rfl⟩ := V8Call.isolateNew_apply h
    simp only [State.newIsolate, Function.update_apply]
    split
    · exact Option.some_ne_none _
    · exact hi
  case isolateDispose.refl => exact absurd hc Bool.false_ne_true
  case contextNew.refl => obtain ⟨-, rfl⟩ := V8Call.contextNew_apply h; exact hi
  case setEmbedderData.refl => exact (V8Call.setEmbedderData_frame h).1 ▸ hi
  all_goals
    unfold V8Call.apply V8Call.effect at h
    dsimp only at h
    repeat' split at h
    all_goals first | (cases h; exact hi) | cases h

/-- An engine answer to a call a non-freeing entry point may make grows the state. -/
theorem V8Call.grows {α : Type} {c : V8Call α} {r : α} {s s' : State} (hc : c.Entry false)
    (h : c.apply r s = some s') : Grows s s' :=
  have hf := V8Call.apply_frame h
  .of_frame (V8Call.apply_isolates hc h) hf.1 hf.2.1 fun _ _ h => hf.2.2.1 ▸ h

/-! ### Runs that do not call the host -/

/-- **The run lemma.**  A property kept by every primitive step meeting `P` and every engine answer
to a call meeting `V` holds at the end of every run of a program made of them that returns without
calling the host: such a run makes no callback, for a callback that returns has called the host. -/
theorem Run.keeps_idle {I : State → Prop} {P : {α : Type} → Prim α → Prop}
    {V : {α : Type} → V8Call α → Prop}
    (hP : ∀ {α : Type} {q : Prim α} {a : α} {s s' : State}, P q → q.step s = .ok (a, s') → I s → I s')
    (hV : ∀ {α : Type} {c : V8Call α} {r : α} {s s' : State}, V c → c.apply r s = some s' → I s → I s')
    {α : Type} (p : Prog α) (hp : p.Every P V False) {s s' : State} {a : α} (h : Run s p (.ret a) s')
    (hidle : s'.hostCalls = s.hostCalls) (hs : I s) : I s' := by
  induction p generalizing s s' with
  | pure => exact (Run.pure_iff.mp h).2 ▸ hs
  | bind p f ihp ihf =>
    rcases Run.bind_iff.mp h with ⟨b, s₁, h₁, h₂⟩ | ⟨_, he, -⟩ | ⟨he, -⟩
    · have hc₁ : s₁.hostCalls = s.hostCalls := Nat.le_antisymm (hidle ▸ h₂.hostCalls_le) h₁.hostCalls_le
      exact ihf b (hp.2 b) h₂ (hidle.trans hc₁.symm) (ihp hp.1 h₁ hc₁ hs)
    all_goals cases he
  | prim q =>
    rcases Run.prim_iff.mp h with ⟨_, hq, he⟩ | ⟨_, -, he, -⟩
    · cases he; exact hP hp hq hs
    · cases he
  | v8 c =>
    cases h with
    | v8 h => exact hV hp h hs
    | callback _ _ h₁ h₂ =>
      have := Run.hostCalls_callback h₁
      have := h₂.hostCalls_le
      omega
  | fail => cases (Run.fail_iff.mp h).1
  | host => exact hp.elim

/-- A run of a program that frees nothing, from a `Fresh` state, that returns without calling the
host grows the state. -/
theorem Run.grows {α : Type} {p : Prog α} {s s' : State} {a : α} (hp : p.Entry false) (hs : Fresh s)
    (h : Run s p (.ret a) s') (hidle : s'.hostCalls = s.hostCalls) : Grows s s' :=
  (Run.keeps_idle (I := fun s' => Fresh s' ∧ Grows s s')
    (fun hq h hI => ⟨hI.1.prim h, hI.2.trans (Prim.grows hq hI.1 h)⟩)
    (fun hc h hI => ⟨hI.1.v8 h, hI.2.trans (V8Call.grows hc h)⟩) p hp h hidle ⟨hs, .refl s⟩).2

/-- **Handles stay live.**  From every reachable state, a call of an entry point other than
`ContextFree`, `IsolateDispose` and `TemplateFreeWrapper` that returns without calling the host
grows the state: every isolate, context, wrapper and template the host holds stays live, a
wrapper and a template as it was, a context with its isolate, its handle and its wrappers. -/
theorem handles_stay_live {α : Type} {op : Op α} {s s' : State} {a : α} (hs : Reachable s)
    (hop : op.frees = false) (h : Run s op.denote (.ret a) s') (hidle : s'.hostCalls = s.hostCalls) :
    Grows s s' :=
  Run.grows (hop ▸ Op.denote_entry op) hs.fresh h hidle

/-- The wrapper `6` a `RunScript` made stays live over a `NewContext`, with the canonical engine. -/
theorem handles_stay_live_newContext : ∃ s a s', Reachable s ∧ s.liveValue 6 = true ∧
    Run s (Op.newContext 0 none 2).denote (.ret a) s' ∧ s'.hostCalls = s.hostCalls ∧ Grows s s' := by
  obtain ⟨s, o, s', hs, h, hP⟩ := Engine.canonical.witness_sound 40
    [⟨_, .newIsolate⟩, ⟨_, .newContext 0 none 1⟩, ⟨_, .runScript 5 (cstr "s") (cstr "o")⟩]
    (.newContext 0 none 2)
    (fun s o s' => s.liveValue 6 && o == .ret s'.next.pred && s'.hostCalls == s.hostCalls) (by decide)
  simp only [Bool.and_eq_true, beq_iff_eq] at hP
  obtain ⟨⟨hlive, rfl⟩, hidle⟩ := hP
  exact ⟨s, _, s', hs, hlive, h, hidle, handles_stay_live hs (by rfl) h hidle⟩

end V8go
