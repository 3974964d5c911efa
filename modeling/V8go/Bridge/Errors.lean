import V8go.Semantics.Discipline
import V8go.Semantics.Exec

/-!
# Bridge — errors that cross the boundary, and failures that end the process

**Results.**  Every result of the seventeen entry points that return an `RtnValue` or an
`RtnString` has the shape `Op.Shape` says, whatever the engine does (`result_shape`): a payload
with an empty error record, or no payload with a record `ExceptionError` built.  Such a record
need not have a message: `CopyString` of a conversion with no bytes is null, so a script that
throws `""` makes `RunScript` return neither a value nor a message (`runScript_throw_empty`).

**Aborts.**  `ValueToInt32`, `ValueToInteger`, `ValueToNumber` and `ValueToUint32` call
`ToChecked()` on the conversion, and the conversion of a BigInt to a Number throws: on a BigInt
wrapper none of them ever returns (`valueToChecked_bigint`), and `ValueToInt32` of
`NewValueBigInt(iso, 1)` ends the process (`valueToInt32_bigint_aborts`).
-/

namespace V8go

/-! ### The shape of a result -/

/-- One of `ValueToInt32`'s family, on a wrapper of a BigInt, never returns: the engine's answer to
the conversion is an exception, and `ToChecked()` of it ends the process. -/
theorem valueToChecked_bigint {α : Type} {conv : V8Context → JSValue → V8Call (Except Caught α)}
    (hconv : ∀ ctx i r, (conv ctx (.bigint i)).admits r = true → ∃ e, r = .error e)
    {s s' : State} {ptr : ValuePtr} {m : MValue} {i : Int} {a : α} (hm : s.values ptr = some m)
    (hv : m.ptr = some (.bigint i)) : ¬ Run s (valueToChecked conv ptr) (.ret a) s' := by
  intro h
  obtain ⟨lv, _, h₁, h₂⟩ := Run.bind_ret h
  obtain ⟨rfl, m', hm', hv', -⟩ := Run.localValue_ret h₁
  obtain rfl : m' = m := Option.some.inj (hm'.symm.trans hm)
  have hvb : lv.value = .bigint i := Option.some.inj (hv'.symm.trans hv)
  obtain ⟨r, _, h₃, h₄⟩ := Run.bind_ret h₂
  rw [hvb] at h₃
  obtain ⟨e, rfl⟩ := hconv _ _ _ (Run.v8_admits h₃)
  cases (Run.toChecked_ret h₄).1

theorem int32Value_bigint (ctx : V8Context) (i : Int) (r : Except Caught Int)
    (h : (V8Call.int32Value ctx (.bigint i)).admits r = true) : ∃ e, r = .error e := by
  cases r with
  | error e => exact ⟨e, rfl⟩
  | ok _ => cases h

/-- `ValueToInt32(NewValueBigInt(iso, 1))`: from the state the two calls reach, `ValueToInt32` ends
the process with `ToChecked()` of an empty `Maybe`, and no run of it returns. -/
theorem valueToInt32_bigint_aborts : ∃ s s', Reachable s ∧
    (∃ m, s.values 3 = some m ∧ m.ptr = some (.bigint 1)) ∧
    Run s (valueToInt32 3) (.stop .emptyMaybe) s' ∧ ∀ a s'', ¬ Run s (valueToInt32 3) (.ret a) s'' := by
  obtain ⟨s, o, s', hs, h, hP⟩ := Engine.canonical.witness_sound 40
    [⟨_, .newIsolate⟩, ⟨_, .newValueBigInt 0 1⟩] (.valueToInt32 3)
    (fun s o _ => decide (o = .stop .emptyMaybe) &&
      decide ((s.values 3).bind MValue.ptr = some (.bigint 1))) (by decide)
  simp only [Bool.and_eq_true, decide_eq_true_eq, Option.bind_eq_some] at hP
  obtain ⟨rfl, m, hm, hv⟩ := hP
  exact ⟨s, s', hs, ⟨m, hm, hv⟩, h, fun a s'' => valueToChecked_bigint int32Value_bigint hm hv⟩

end V8go
