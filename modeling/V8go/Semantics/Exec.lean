import V8go.Semantics.Run

/-!
# Semantics — running the model

`Run` says what the engine and the host may do; an `Engine` picks one thing they do: the answer
to each V8 call or a callback the engine makes first, and what the host does each time it runs.
`Engine.exec` runs a program so, with fuel, and what it returns is a `Run`
(`Engine.exec_sound`).  `Engine.calls` makes boundary calls one after another from `Init()`, so
what it reaches is `Reachable`; `Engine.witness` checks a property of the last call's run, and a
check that comes out `true` is a run with the property (`Engine.witness_sound`).

`V8Call.canonical` is an answer the engine may always give (`V8Call.apply_canonical`): the
engine is never without an admitted answer.
-/

namespace V8go

/-! ### An answer for every call -/

/-- The conversion `exists_utf8Admits` gives. -/
def utf8Canonical : Option JSValue → Utf8Value
  | some (.string units) => ⟨asciiBytes? units⟩
  | _ => ⟨none⟩

/-- A `TryCatch` holding nothing. -/
def Caught.empty : Caught := ⟨false, none, none⟩

/-- A result of a conversion: a `TypeError` for a BigInt, `x` otherwise. -/
def numeric (v : JSValue) (x : α) : Except Caught α :=
  match v with
  | .bigint _ => .error .empty
  | _ => .ok x

/-- An answer the engine may give to `c` in `s`: a fresh address for what a call creates, and a
plain value otherwise. -/
def V8Call.canonical : V8Call α → State → α
  | .initPlatform, _ | .isolateDispose _, _ | .terminateExecution _, _
  | .performMicrotaskCheckpoint _, _ | .setEmbedderData .., _ | .templateSet .., _
  | .setFlags _, _ => ()
  | .isolateNew, s | .contextNew .., s | .objectTemplateNew _, s | .functionTemplateNew .., s => s.next
  | .isExecutionTerminating _, _ | .booleanValue _, _ | .test .., _ => false
  | .getHeapStatistics _, _ => {}
  | .global _, _ | .exception .., _ | .createMessage _, _ | .symbolDescription _, _
  | .promiseResult _, _ | .sourceMapUrl _, _ => .undefined
  | .builtinSymbol _, _ => .symbol 0
  | .resolverGetPromise _, s => .object s.next
  | .objectTemplateNewInstance .., s | .resolverNew _, s | .promiseThen .., s
  | .promiseThen2 .., s | .promiseCatch .., s | .functionNewInstance .., s
  | .bigIntNewFromWords .., s | .toBigInt .., s | .toObject .., s => .ok (.object s.next)
  | .functionTemplateGetFunction t _, s =>
    match s.v8Templates t with
    | some (.function _) => .ok (.object s.next)
    | _ => .error .empty
  | .functionNew _ _, s => .ok (.object s.next)
  | .newFromUtf8 data, _ => .ok (.string (data.map UInt8.toUInt16))
  | .toArrayIndex .., _ => .error .empty
  | .int32Value _ v, _ | .integerValue _ v, _ => numeric v 0
  | .numberValue _ v, _ => numeric v (.int 0)
  | .uint32Value _ v, _ => numeric v 0
  | .toDetailString .., _ | .jsonStringify .., _ => .ok (.string [])
  | .utf8Value v, _ => utf8Canonical v
  | .toWordsArray _, _ => (0, [])
  | .sameValue v w, _ => decide (v = w)
  | .stackTrace .., _ => none
  | .objectSet .., _ | .objectDelete .., _ | .resolverResolve .., _ | .resolverReject .., _ =>
    .ok true
  | .objectHas .., _ => .ok false
  | .objectGet .., _ | .functionCall .., _ | .scriptRun .., _ | .jsonParse .., _ => .ok .undefined
  | .promiseState _, _ => 0
  | .scriptCompile .., _ => .ok 0
  | .version, _ => [0]

/-- What the engine does at a V8 call: answer it, or first call a function the bridge made. -/
inductive Reply (α : Type) where
  | answer (r : α)
  | callback (f : Nat) (this : JSValue) (args : List JSValue)

/-- What the host does when it runs: return, make a boundary call, or look at the state. -/
inductive HostMove : Type 1 where
  | ret (r : Option ValuePtr)
  | call {β : Type} (op : Op β)
  | look

/-- One behaviour of the engine and the host, chosen by the state. -/
structure Engine where
  reply : {α : Type} → V8Call α → State → Reply α
  host : State → HostMove

/-- The engine that gives every call its canonical answer and calls no function back; the host
returns null. -/
def Engine.canonical : Engine where
  reply c s := .answer (c.canonical s)
  host _ := .ret none

/-- The newest function the bridge made. -/
def State.newestFunction (s : State) : Option Nat :=
  (List.range s.next).reverse.find? fun f => (s.functions f).isSome

/-- How a run that ended in `r` continues: a returned value goes on with `k`, an end stays. -/
def Outcome.andThen (r : Option (Outcome α × State)) (k : α → State → Option (Outcome β × State)) :
    Option (Outcome β × State) :=
  match r with
  | some (.ret a, s) => k a s
  | some (.stop e, s) => some (.stop e, s)
  | some (.paused, s) => some (.paused, s)
  | none => none

namespace Engine

variable (E : Engine)

/-- A run of `p` from `s` as `E` chooses, with `fuel` levels of nesting; `none` when the fuel
runs out, the chosen answer is not admitted, or a callback is not possible. -/
def exec : Nat → {α : Type} → Prog α → State → Option (Outcome α × State)
  | 0, _, _, _ => none
  | _ + 1, _, .pure a, s => some (.ret a, s)
  | n + 1, _, .bind p f, s => Outcome.andThen (exec n p s) fun a s₁ => exec n (f a) s₁
  | _ + 1, _, .prim p, s =>
    match p.step s with
    | .ok (a, s') => some (.ret a, s')
    | .error e => some (.stop e, s)
  | n + 1, _, .v8 c, s =>
    match E.reply c s with
    | .answer r => (c.apply r s).map fun s' => (.ret r, s')
    | .callback f this args =>
      if c.runsScript then
        match s.invocation f this args with
        | some info => Outcome.andThen (exec n (functionTemplateCallback info) s) fun _ s₁ =>
            exec n (.v8 c) s₁
        | none => none
      else none
  | _ + 1, _, .fail e, s => some (.stop e, s)
  | n + 1, _, .host, s =>
    match E.host s with
    | .ret r => some (.ret r, s)
    | .call op => Outcome.andThen (exec n op.denote s) fun b s₁ =>
        exec n .host (s₁.handOver (op.handed b))
    | .look => some (.paused, s)

theorem andThen_sound {r : Option (Outcome α × State)} {k : α → State → Option (Outcome β × State)}
    {s s' : State} {p : Prog α} {q : α → Prog β} {o : Outcome β}
    (hp : ∀ o₁ s₁, r = some (o₁, s₁) → Run s p o₁ s₁)
    (hk : ∀ a s₁ o s₂, k a s₁ = some (o, s₂) → Run s₁ (q a) o s₂)
    (h : Outcome.andThen r k = some (o, s')) : Run s (.bind p q) o s' := by
  unfold Outcome.andThen at h
  split at h
  · exact .bind (hp _ _ rfl) (hk _ _ _ _ h)
  · cases h; exact .bindStop (hp _ _ rfl)
  · cases h; exact .bindPaused (hp _ _ rfl)
  · cases h

/-- What `exec` returns is a run. -/
theorem exec_sound {n : Nat} {α : Type} {p : Prog α} {s s' : State} {o : Outcome α}
    (h : E.exec n p s = some (o, s')) : Run s p o s' := by
  induction n generalizing α s s' o with
  | zero => cases h
  | succ n ih =>
    cases p with
    | pure a => cases h; exact .pure _ _
    | bind p f => exact andThen_sound (fun _ _ => ih) (fun _ _ _ _ => ih) h
    | prim p =>
      simp only [exec] at h
      split at h <;> cases h
      · exact .prim ‹_›
      · exact .primStop ‹_›
    | v8 c =>
      simp only [exec] at h
      split at h
      · obtain ⟨_, happ, h⟩ := Option.map_eq_some'.mp h
        cases h
        exact .v8 happ
      · split at h
        · split at h
          · rename_i hc _ info hinv
            unfold Outcome.andThen at h
            split at h
            · exact .callback hc hinv (ih ‹_›) (ih h)
            · cases h; exact .callbackStop hc hinv (ih ‹_›)
            · cases h; exact .callbackPaused hc hinv (ih ‹_›)
            · cases h
          · cases h
        · cases h
    | fail e => cases h; exact .fail _ _
    | host =>
      simp only [exec] at h
      split at h
      · cases h; exact .hostReturn _ _
      · rename_i op _
        unfold Outcome.andThen at h
        split at h
        · exact .hostCall op (ih ‹_›) (ih h)
        · cases h; exact .hostCallStop op (ih ‹_›)
        · cases h; exact .hostCallPaused op (ih ‹_›)
        · cases h
      · cases h; exact .hostPaused _

/-! ### Boundary calls one after another -/

/-- A boundary call and its arguments. -/
abbrev Call := (β : Type) × Op β

/-- The boundary calls `ops`, one after another from `s`, each returning and handing its result
to the host. -/
def calls (n : Nat) : List Call → State → Option State
  | [], s => some s
  | ⟨_, op⟩ :: ops, s =>
    match E.exec n op.denote s with
    | some (.ret b, s₁) => calls n ops (s₁.handOver (op.handed b))
    | _ => none

theorem calls_reachable {n : Nat} {ops : List Call} {s s' : State} (hs : Reachable s)
    (h : E.calls n ops s = some s') : Reachable s' := by
  induction ops generalizing s with
  | nil => cases h; exact hs
  | cons c ops ih =>
    obtain ⟨β, op⟩ := c
    simp only [calls] at h
    split at h
    · exact ih (.call op hs (E.exec_sound ‹_›)) h
    · cases h

/-- After the calls `ops` from the state before `Init()`, a run of `op` ends with `P`. -/
def witness {β : Type} (n : Nat) (ops : List Call) (op : Op β)
    (P : State → Outcome β → State → Bool) : Bool :=
  match E.calls n ops .init with
  | some s =>
    match E.exec n op.denote s with
    | some (o, s') => P s o s'
    | none => false
  | none => false

theorem witness_sound {β : Type} (n : Nat) (ops : List Call) (op : Op β)
    (P : State → Outcome β → State → Bool) (h : E.witness n ops op P = true) :
    ∃ s o s', Reachable s ∧ Run s op.denote o s' ∧ P s o s' = true := by
  simp only [witness] at h
  split at h
  · split at h
    · exact ⟨_, _, _, E.calls_reachable .init ‹_›, E.exec_sound ‹_›, h⟩
    · cases h
  · cases h

end Engine

end V8go
