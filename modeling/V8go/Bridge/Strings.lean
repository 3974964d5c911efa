import V8go.Semantics.Wp
import V8go.Semantics.Exec

/-!
# Bridge — strings from the engine to the host

`CopyString(String::Utf8Value& value)` passes `*value`, a `const char*`, to
`CopyString(std::string)`, so the `std::string` it copies ends at the first NUL (`strlen`), not
after `value.length()` bytes.  A conversion with `n ≥ 1` bytes is copied as its bytes before the
first NUL, then a `0` (`Utf8Value.copyString_eq`): all `n` bytes exactly when none of them is NUL
(`Utf8Value.copyString_eq_of_no_nul`).

That buffer is what `ValueToString`, `ValueToDetailString`, `SymbolDescription` and
`ExceptionGetMessageString` return, and the `msg` of `ExceptionError`: each is `CopyOf` a
conversion the engine may give of the value (`copyString_utf8`).  A string with an interior
U+0000 loses what follows it (`valueToString_nul`).
-/

namespace V8go

/-! ### `CopyString` of a `Utf8Value` -/

theorem takeWhile_append_zero (bytes : List UInt8) :
    (bytes ++ [0]).takeWhile (· ≠ 0) = bytes.takeWhile (· ≠ 0) := by
  induction bytes with
  | nil => rfl
  | cons b bs ih => by_cases hb : b = 0 <;> simp_all [List.takeWhile_cons]

/-- A conversion with at least one byte is copied up to its first NUL, then a `0`. -/
theorem Utf8Value.copyString_eq {u : Utf8Value} {bytes : List UInt8} (hu : u.str = some bytes)
    (hn : bytes ≠ []) : u.copyString = some (bytes.takeWhile (· ≠ 0) ++ [0]) := by
  have hlen : bytes.length ≠ 0 := fun h => hn (List.eq_nil_of_length_eq_zero h)
  simp only [copyString, length, chars, hu, hlen, if_false, Option.map_some', stringOfCStr,
    takeWhile_append_zero, V8go.copyString]

/-- `b` is `CopyString` of a conversion the engine may give of `v`. -/
def CopyOf (v : Option JSValue) (b : Option CBuf) : Prop := ∃ u, utf8Admits v u = true ∧ b = u.copyString

/-- A program that converts the value `v` it got and returns the copy. -/
theorem Run.utf8_copy_ret {s s' : State} {v : JSValue} {b : Option CBuf}
    (h : Run s (.bind (.v8 (.utf8Value (some v))) fun u => .pure u.copyString) (.ret b) s') :
    CopyOf (some v) b := by
  obtain ⟨u, _, h₁, h₂⟩ := Run.bind_ret h
  exact ⟨u, Run.v8_admits h₁, (Run.pure_ret h₂).1⟩

theorem valueToString_ret {s s' : State} {ptr : ValuePtr} {b : Option CBuf}
    (h : Run s (valueToString ptr) (.ret b) s') :
    ∃ m v, s.values ptr = some m ∧ m.ptr = some v ∧ CopyOf (some v) b := by
  obtain ⟨lv, _, h₁, h₂⟩ := Run.bind_ret h
  obtain ⟨rfl, m, hm, hv, -⟩ := Run.localValue_ret h₁
  exact ⟨m, lv.value, hm, hv, Run.utf8_copy_ret h₂⟩

theorem symbolDescription_ret {s s' : State} {ptr : ValuePtr} {b : Option CBuf}
    (h : Run s (symbolDescription ptr) (.ret b) s') : ∃ v, CopyOf (some v) b := by
  obtain ⟨lv, _, -, h₂⟩ := Run.bind_ret h
  obtain ⟨v, _, -, h₄⟩ := Run.bind_ret h₂
  exact ⟨v, Run.utf8_copy_ret h₄⟩

theorem exceptionGetMessageString_ret {s s' : State} {ptr : ValuePtr} {b : Option CBuf}
    (h : Run s (exceptionGetMessageString ptr) (.ret b) s') : ∃ v, CopyOf (some v) b := by
  obtain ⟨lv, _, -, h₂⟩ := Run.bind_ret h
  obtain ⟨v, _, -, h₄⟩ := Run.bind_ret h₂
  exact ⟨v, Run.utf8_copy_ret h₄⟩

theorem valueToDetailString_ret {s s' : State} {ptr : ValuePtr} {b : RtnString}
    (h : Run s (valueToDetailString ptr) (.ret b) s') :
    (∃ v, CopyOf (some v) b.string ∧ b.error = {}) ∨ b.string = none := by
  obtain ⟨lv, _, -, h₂⟩ := Run.bind_ret h
  obtain ⟨r, _, -, h₄⟩ := Run.bind_ret h₂
  cases r with
  | error try_catch =>
    obtain ⟨e, _, -, h₆⟩ := Run.bind_ret h₄
    exact .inr (by rw [(Run.pure_ret h₆).1])
  | ok str =>
    obtain ⟨u, _, h₅, h₆⟩ := Run.bind_ret h₄
    obtain ⟨rfl, -⟩ := Run.pure_ret h₆
    exact .inl ⟨str, ⟨u, Run.v8_admits h₅, rfl⟩, rfl⟩

/-- The `msg` of an `ExceptionError` record for a thrown exception is the copy of a conversion of
the exception. -/
theorem ExceptionRecord.msg_copy {try_catch : Caught} {e : RtnError}
    (h : ExceptionRecord try_catch e) (ht : try_catch.terminated = false) :
    CopyOf try_catch.exception e.msg := by
  cases h with
  | terminated h => simp [h] at ht
  | thrown u _ _ _ hu => exact ⟨u, hu, rfl⟩

/-- Strings from the engine: a conversion with `n ≥ 1` bytes is copied as its bytes before the
first NUL, then a `0`; and that copy is what `ValueToString`, `ValueToDetailString`,
`SymbolDescription`, `ExceptionGetMessageString` and `ExceptionError`'s message hold. -/
theorem copyString_utf8 :
    (∀ (u : Utf8Value) bytes, u.str = some bytes → bytes ≠ [] →
      u.copyString = some (bytes.takeWhile (· ≠ 0) ++ [0])) ∧
    (∀ s s' ptr b, Run s (valueToString ptr) (.ret b) s' →
      ∃ m v, s.values ptr = some m ∧ m.ptr = some v ∧ CopyOf (some v) b) ∧
    (∀ s s' ptr (b : RtnString), Run s (valueToDetailString ptr) (.ret b) s' →
      (∃ v, CopyOf (some v) b.string ∧ b.error = {}) ∨ b.string = none) ∧
    (∀ s s' ptr b, Run s (symbolDescription ptr) (.ret b) s' → ∃ v, CopyOf (some v) b) ∧
    (∀ s s' ptr b, Run s (exceptionGetMessageString ptr) (.ret b) s' → ∃ v, CopyOf (some v) b) ∧
    (∀ try_catch e, ExceptionRecord try_catch e → try_catch.terminated = false →
      CopyOf try_catch.exception e.msg) :=
  ⟨fun _ _ hu hn => Utf8Value.copyString_eq hu hn, fun _ _ _ _ => valueToString_ret,
    fun _ _ _ _ => valueToDetailString_ret, fun _ _ _ _ => symbolDescription_ret,
    fun _ _ _ _ => exceptionGetMessageString_ret, fun _ _ => ExceptionRecord.msg_copy⟩

/-! ### A string with an interior NUL -/

/-- The script of a context returns `"a\0b"`; every other call gets its canonical answer. -/
def nulEngine : Engine where
  reply c s := match c with
    | .scriptRun _ _ => .answer (.ok (.string [97, 0, 98]))
    | c => .answer (c.canonical s)
  host _ := .ret none

/-- `ValueToString` of a wrapper of `"a\0b"`, whose conversion is its three bytes, returns `"a"`:
the byte after the NUL is lost. -/
theorem valueToString_nul : ∃ s s',
    Reachable s ∧ (∃ m, s.values 6 = some m ∧ m.ptr = some (.string [97, 0, 98])) ∧
      utf8Admits (some (.string [97, 0, 98])) ⟨some [97, 0, 98]⟩ = true ∧
      Run s (valueToString 6) (.ret (some [97, 0])) s' := by
  obtain ⟨s, o, s', hs, h, hP⟩ := nulEngine.witness_sound 40
    [⟨_, .newIsolate⟩, ⟨_, .newContext 0 none 1⟩, ⟨_, .runScript 5 (cstr "s") (cstr "o")⟩]
    (.valueToString 6)
    (fun s o _ => decide (o = .ret (some [97, 0])) &&
      decide ((s.values 6).bind MValue.ptr = some (.string [97, 0, 98]))) (by decide)
  simp only [Bool.and_eq_true, decide_eq_true_eq, Option.bind_eq_some] at hP
  obtain ⟨rfl, m, hm, hv⟩ := hP
  exact ⟨s, s', hs, ⟨m, hm, hv⟩, rfl, h⟩

end V8go
