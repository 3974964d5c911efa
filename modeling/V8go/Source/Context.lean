import V8go.Source.Core

/-!
# Source — contexts

The `Context` section of `v8go.cc`: `NewContext`, which stamps the host's identity for the
context into its embedder data slot 1, `ContextFree`, which releases every wrapper the context
tracks, and the entry points that run in a context (`RunScript`, `JSONParse`, `JSONStringify`,
`ContextGlobal`).
-/

namespace V8go

/-- `NewContext(iso, global_template_ptr, ref)`. -/
def newContext (iso : IsolatePtr) (global_template_ptr : Option TemplatePtr) (ref : Int) :
    Prog ContextPtr := do
  isolateScope iso
  let global_template ← match global_template_ptr with
    | some t => do
      let tmpl ← .prim (.getTemplate t)
      pure tmpl.ptr
    | none => .v8 (.objectTemplateNew iso)
  let local_ctx ← .v8 (.contextNew iso (some global_template))
  .v8 (.setEmbedderData local_ctx ref)
  .prim (.newContext { iso, vals := [], ptr := some local_ctx })

/-- `ContextFree(ctx)`: nothing for a null `ctx`. -/
def contextFree (ctx : Option ContextPtr) : Prog Unit :=
  match ctx with
  | some ctx => .prim (.freeContext ctx)
  | none => pure ()

/-- `RunScript(ctx, source, origin)`. -/
def runScript (ctx : ContextPtr) (source origin : CStr) : Prog RtnValue := do
  let lc ← localContext ctx
  let maybeSrc ← .v8 (.newFromUtf8 source)
  let maybeOgn ← .v8 (.newFromUtf8 origin)
  match maybeSrc, maybeOgn with
  | .error try_catch, _ | .ok _, .error try_catch => errorValue try_catch lc.iso lc.localCtx
  | .ok src, .ok ogn =>
    match ← .v8 (.scriptCompile lc.localCtx src ogn) with
    | .error try_catch => errorValue try_catch lc.iso lc.localCtx
    | .ok script => do
      let result ← .v8 (.scriptRun lc.localCtx script)
      rtnValue lc.iso ctx lc.localCtx result

/-- `JSONParse(ctx, str)`.  When the string cannot be made, the error is stored but the function
goes on: `JSON::Parse` then reads the empty handle `v8Str`. -/
def jsonParse (ctx : ContextPtr) (str : CStr) : Prog RtnValue := do
  let lc ← localContext ctx
  let v8Str ← match ← .v8 (.newFromUtf8 str) with
    | .ok v8Str => pure (some v8Str)
    | .error try_catch => do
      let _ ← exceptionError try_catch lc.iso lc.localCtx
      pure none
  let v8Str ← .deref v8Str
  let result ← .v8 (.jsonParse lc.localCtx v8Str)
  rtnValue lc.iso ctx lc.localCtx result

/-- `JSONStringify(ctx, val)`: a null `ctx` is replaced by the wrapper's context, or by its
isolate's internal context. -/
def jsonStringify (ctx : Option ContextPtr) (val : ValuePtr) : Prog (Option CBuf) := do
  let iso ← match ctx with
    | some ctx => do
      let m ← .prim (.getContext ctx)
      pure m.iso
    | none => do
      let v ← .prim (.getValue val)
      pure v.iso
  isolateScope iso
  let local_ctx ← match ctx with
    | some ctx => contextHandle ctx
    | none => do
      let v ← .prim (.getValue val)
      match v.ctx with
      | some vctx => contextHandle vctx
      | none => do
        let ictx ← .deref (← isolateInternalContext iso)
        contextHandle ictx
  let value ← valueHandle val
  match ← .v8 (.jsonStringify local_ctx value) with
  | .error _ => pure none
  | .ok str => do
    let json ← .v8 (.utf8Value (some str))
    pure json.copyString

/-- `ContextGlobal(ctx)`. -/
def contextGlobal (ctx : ContextPtr) : Prog ValuePtr := do
  let lc ← localContext ctx
  let global ← .v8 (.global lc.localCtx)
  trackedNewValue lc.iso ctx global

end V8go
