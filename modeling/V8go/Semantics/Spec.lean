import V8go.Semantics.Wp

/-!
# Semantics — what every entry point guarantees

`Op.denote_wp`: whatever the engine answers, every entry point

* leaves pending, when it returns, exactly the wrappers its result hands to the host
  (`Op.handed`): a wrapper it registers is either handed over in a callback before anything else
  runs, or returned;
* returns, if it returns an `RtnValue` or an `RtnString`, a result of the shape `Op.Shape` says:
  a payload and an empty error record, or no payload and a record `ExceptionError` built.
  `ValueToDetailString` may return no payload with an empty error record: `CopyString` of an
  empty detail string is null.

Each entry point has its lemma, computed by `simp` from the `@[simp]` lemmas of the helpers;
`Op.denote_wp` assembles them.
-/

namespace V8go

/-- The results of the entry points returning an `RtnValue`. -/
def RtnValue.Shape (r : RtnValue) : Prop :=
  (r.value.isSome ∧ r.error = {}) ∨ (r.value = none ∧ ∃ try_catch, ExceptionRecord try_catch r.error)

/-- The results of `ValueToDetailString`. -/
def RtnString.Shape (r : RtnString) : Prop :=
  r.error = {} ∨ (r.string = none ∧ ∃ try_catch, ExceptionRecord try_catch r.error)

/-- The shape of the result of the seventeen entry points returning an `RtnValue` or an
`RtnString`. -/
def Op.Shape : Op α → α → Prop
  | .objectTemplateNewInstance .., r | .functionTemplateGetFunction .., r | .runScript .., r
  | .jsonParse .., r | .newValueString .., r | .newValueBigIntFromWords .., r
  | .valueToObject _, r | .objectGet .., r | .objectGetAnyKey .., r | .objectGetIdx .., r
  | .newPromiseResolver _, r | .promiseThen .., r | .promiseThen2 .., r | .promiseCatch .., r
  | .functionCall .., r | .functionNewInstance .., r => r.Shape
  | .valueToDetailString _, r => r.Shape
  | _, _ => True

/-- What an entry point guarantees of its result `b`, with `pend` left pending. -/
def Op.Spec (op : Op α) (b : α) (pend : List ValuePtr) : Prop := pend = op.handed b ∧ op.Shape b

@[simp] theorem MValue.forall {P : MValue → Prop} :
    (∀ v, P v) ↔ ∀ iso ctx ptr, P ⟨iso, ctx, ptr⟩ :=
  ⟨fun h _ _ _ => h _, fun h v => h v.iso v.ctx v.ptr⟩

/-! ### Each entry point -/

theorem Op.wp_init :
    (V8go.init).wp [] (Op.init).Spec := by
  show (V8go.init).wp [] fun _ pend => pend = [] ∧ True
  simp [Option.forall, Prim.wp, rtnValue, RtnValue.Shape, RtnString.Shape, V8go.init]

theorem Op.wp_newIsolate :
    (V8go.newIsolate).wp [] (Op.newIsolate).Spec := by
  show (V8go.newIsolate).wp [] fun _ pend => pend = [] ∧ True
  simp [Option.forall, Prim.wp, rtnValue, RtnValue.Shape, RtnString.Shape, V8go.newIsolate]

theorem Op.wp_isolatePerformMicrotaskCheckpoint (iso : IsolatePtr) :
    (V8go.isolatePerformMicrotaskCheckpoint iso).wp [] (Op.isolatePerformMicrotaskCheckpoint iso).Spec := by
  show (V8go.isolatePerformMicrotaskCheckpoint iso).wp [] fun _ pend => pend = [] ∧ True
  simp [Option.forall, Prim.wp, rtnValue, RtnValue.Shape, RtnString.Shape, V8go.isolatePerformMicrotaskCheckpoint]

theorem Op.wp_isolateDispose (iso : Option IsolatePtr) :
    (V8go.isolateDispose iso).wp [] (Op.isolateDispose iso).Spec := by
  show (V8go.isolateDispose iso).wp [] fun _ pend => pend = [] ∧ True
  cases iso <;>
  simp [Option.forall, Prim.wp, rtnValue, RtnValue.Shape, RtnString.Shape, V8go.isolateDispose, V8go.contextFree]

theorem Op.wp_isolateTerminateExecution (iso : IsolatePtr) :
    (V8go.isolateTerminateExecution iso).wp [] (Op.isolateTerminateExecution iso).Spec := by
  show (V8go.isolateTerminateExecution iso).wp [] fun _ pend => pend = [] ∧ True
  simp [Option.forall, Prim.wp, rtnValue, RtnValue.Shape, RtnString.Shape, V8go.isolateTerminateExecution]

theorem Op.wp_isolateIsExecutionTerminating (iso : IsolatePtr) :
    (V8go.isolateIsExecutionTerminating iso).wp [] (Op.isolateIsExecutionTerminating iso).Spec := by
  show (V8go.isolateIsExecutionTerminating iso).wp [] fun _ pend => pend = [] ∧ True
  simp [Option.forall, Prim.wp, rtnValue, RtnValue.Shape, RtnString.Shape, V8go.isolateIsExecutionTerminating]

theorem Op.wp_isolationGetHeapStatistics (iso : Option IsolatePtr) :
    (V8go.isolationGetHeapStatistics iso).wp [] (Op.isolationGetHeapStatistics iso).Spec := by
  show (V8go.isolationGetHeapStatistics iso).wp [] fun _ pend => pend = [] ∧ True
  cases iso <;>
  simp [Option.forall, Prim.wp, rtnValue, RtnValue.Shape, RtnString.Shape, V8go.isolationGetHeapStatistics]

theorem Op.wp_templateFreeWrapper (tmpl : TemplatePtr) :
    (V8go.templateFreeWrapper tmpl).wp [] (Op.templateFreeWrapper tmpl).Spec := by
  show (V8go.templateFreeWrapper tmpl).wp [] fun _ pend => pend = [] ∧ True
  simp [Option.forall, Prim.wp, rtnValue, RtnValue.Shape, RtnString.Shape, V8go.templateFreeWrapper]

theorem Op.wp_templateSetValue (ptr : TemplatePtr) (name : CStr) (val : ValuePtr) (attributes : Int) :
    (V8go.templateSetValue ptr name val attributes).wp [] (Op.templateSetValue ptr name val attributes).Spec := by
  show (V8go.templateSetValue ptr name val attributes).wp [] fun _ pend => pend = [] ∧ True
  simp [Option.forall, Prim.wp, rtnValue, RtnValue.Shape, RtnString.Shape, V8go.templateSetValue, V8go.templateSetNamed]

theorem Op.wp_templateSetAnyValue (ptr : TemplatePtr) (key val : ValuePtr) (attributes : Int) :
    (V8go.templateSetAnyValue ptr key val attributes).wp [] (Op.templateSetAnyValue ptr key val attributes).Spec := by
  show (V8go.templateSetAnyValue ptr key val attributes).wp [] fun _ pend => pend = [] ∧ True
  simp [Option.forall, Prim.wp, rtnValue, RtnValue.Shape, RtnString.Shape, V8go.templateSetAnyValue, V8go.templateSetAny]

theorem Op.wp_templateSetTemplate (ptr : TemplatePtr) (name : CStr) (obj : TemplatePtr) (attributes : Int) :
    (V8go.templateSetTemplate ptr name obj attributes).wp [] (Op.templateSetTemplate ptr name obj attributes).Spec := by
  show (V8go.templateSetTemplate ptr name obj attributes).wp [] fun _ pend => pend = [] ∧ True
  simp [Option.forall, Prim.wp, rtnValue, RtnValue.Shape, RtnString.Shape, V8go.templateSetTemplate, V8go.templateSetNamed, V8go.templateHandle]

theorem Op.wp_templateSetAnyTemplate (ptr : TemplatePtr) (key : ValuePtr) (obj : TemplatePtr) (attributes : Int) :
    (V8go.templateSetAnyTemplate ptr key obj attributes).wp [] (Op.templateSetAnyTemplate ptr key obj attributes).Spec := by
  show (V8go.templateSetAnyTemplate ptr key obj attributes).wp [] fun _ pend => pend = [] ∧ True
  simp [Option.forall, Prim.wp, rtnValue, RtnValue.Shape, RtnString.Shape, V8go.templateSetAnyTemplate, V8go.templateSetAny, V8go.templateHandle]

theorem Op.wp_newObjectTemplate (iso : IsolatePtr) :
    (V8go.newObjectTemplate iso).wp [] (Op.newObjectTemplate iso).Spec := by
  show (V8go.newObjectTemplate iso).wp [] fun _ pend => pend = [] ∧ True
  simp [Option.forall, Prim.wp, rtnValue, RtnValue.Shape, RtnString.Shape, V8go.newObjectTemplate]

theorem Op.wp_objectTemplateNewInstance (ptr : TemplatePtr) (ctx : ContextPtr) :
    (V8go.objectTemplateNewInstance ptr ctx).wp [] (Op.objectTemplateNewInstance ptr ctx).Spec := by
  show (V8go.objectTemplateNewInstance ptr ctx).wp [] fun r pend => pend = r.value.toList ∧ r.Shape
  simp [Option.forall, Prim.wp, rtnValue, RtnValue.Shape, RtnString.Shape, V8go.objectTemplateNewInstance]

theorem Op.wp_newFunctionTemplate (iso : IsolatePtr) (callback_ref : Int) :
    (V8go.newFunctionTemplate iso callback_ref).wp [] (Op.newFunctionTemplate iso callback_ref).Spec := by
  show (V8go.newFunctionTemplate iso callback_ref).wp [] fun _ pend => pend = [] ∧ True
  simp [Option.forall, Prim.wp, rtnValue, RtnValue.Shape, RtnString.Shape, V8go.newFunctionTemplate]

theorem Op.wp_functionTemplateGetFunction (ptr : TemplatePtr) (ctx : ContextPtr) :
    (V8go.functionTemplateGetFunction ptr ctx).wp [] (Op.functionTemplateGetFunction ptr ctx).Spec := by
  show (V8go.functionTemplateGetFunction ptr ctx).wp [] fun r pend => pend = r.value.toList ∧ r.Shape
  simp [Option.forall, Prim.wp, rtnValue, RtnValue.Shape, RtnString.Shape, V8go.functionTemplateGetFunction]

theorem Op.wp_newContext (iso : IsolatePtr) (global_template_ptr : Option TemplatePtr) (ref : Int) :
    (V8go.newContext iso global_template_ptr ref).wp [] (Op.newContext iso global_template_ptr ref).Spec := by
  show (V8go.newContext iso global_template_ptr ref).wp [] fun _ pend => pend = [] ∧ True
  cases global_template_ptr <;>
  simp [Option.forall, Prim.wp, rtnValue, RtnValue.Shape, RtnString.Shape, V8go.newContext]

theorem Op.wp_contextFree (ctx : Option ContextPtr) :
    (V8go.contextFree ctx).wp [] (Op.contextFree ctx).Spec := by
  show (V8go.contextFree ctx).wp [] fun _ pend => pend = [] ∧ True
  cases ctx <;>
  simp [Option.forall, Prim.wp, rtnValue, RtnValue.Shape, RtnString.Shape, V8go.contextFree]

theorem Op.wp_runScript (ctx : ContextPtr) (source origin : CStr) :
    (V8go.runScript ctx source origin).wp [] (Op.runScript ctx source origin).Spec := by
  show (V8go.runScript ctx source origin).wp [] fun r pend => pend = r.value.toList ∧ r.Shape
  simp [Option.forall, Prim.wp, rtnValue, RtnValue.Shape, RtnString.Shape, V8go.runScript]

theorem Op.wp_jsonParse (ctx : ContextPtr) (str : CStr) :
    (V8go.jsonParse ctx str).wp [] (Op.jsonParse ctx str).Spec := by
  show (V8go.jsonParse ctx str).wp [] fun r pend => pend = r.value.toList ∧ r.Shape
  simp [Option.forall, Prim.wp, rtnValue, RtnValue.Shape, RtnString.Shape, V8go.jsonParse]

theorem Op.wp_jsonStringify (ctx : Option ContextPtr) (val : ValuePtr) :
    (V8go.jsonStringify ctx val).wp [] (Op.jsonStringify ctx val).Spec := by
  show (V8go.jsonStringify ctx val).wp [] fun _ pend => pend = [] ∧ True
  cases ctx <;>
  simp [MValue.forall, Option.forall, Prim.wp, rtnValue, RtnValue.Shape, RtnString.Shape, V8go.jsonStringify]

theorem Op.wp_contextGlobal (ctx : ContextPtr) :
    (V8go.contextGlobal ctx).wp [] (Op.contextGlobal ctx).Spec := by
  show (V8go.contextGlobal ctx).wp [] fun w pend => pend = [w] ∧ True
  simp [Option.forall, Prim.wp, rtnValue, RtnValue.Shape, RtnString.Shape, V8go.contextGlobal]

theorem Op.wp_newValueInteger (iso : IsolatePtr) (v : Int) :
    (V8go.newValueInteger iso v).wp [] (Op.newValueInteger iso v).Spec := by
  show (V8go.newValueInteger iso v).wp [] fun w pend => pend = [w] ∧ True
  simp [Option.forall, Prim.wp, rtnValue, RtnValue.Shape, RtnString.Shape, V8go.newValueInteger, V8go.newValue]

theorem Op.wp_newValueIntegerFromUnsigned (iso : IsolatePtr) (v : Nat) :
    (V8go.newValueIntegerFromUnsigned iso v).wp [] (Op.newValueIntegerFromUnsigned iso v).Spec := by
  show (V8go.newValueIntegerFromUnsigned iso v).wp [] fun w pend => pend = [w] ∧ True
  simp [Option.forall, Prim.wp, rtnValue, RtnValue.Shape, RtnString.Shape, V8go.newValueIntegerFromUnsigned, V8go.newValue]

theorem Op.wp_newValueString (iso : IsolatePtr) (v : CStr) :
    (V8go.newValueString iso v).wp [] (Op.newValueString iso v).Spec := by
  show (V8go.newValueString iso v).wp [] fun r pend => pend = r.value.toList ∧ r.Shape
  simp [Option.forall, Prim.wp, rtnValue, RtnValue.Shape, RtnString.Shape, V8go.newValueString]

theorem Op.wp_newValueNull (iso : IsolatePtr) :
    (V8go.newValueNull iso).wp [] (Op.newValueNull iso).Spec := by
  show (V8go.newValueNull iso).wp [] fun w pend => pend = [w] ∧ True
  simp [Option.forall, Prim.wp, rtnValue, RtnValue.Shape, RtnString.Shape, V8go.newValueNull, V8go.newValue]

theorem Op.wp_newValueUndefined (iso : IsolatePtr) :
    (V8go.newValueUndefined iso).wp [] (Op.newValueUndefined iso).Spec := by
  show (V8go.newValueUndefined iso).wp [] fun w pend => pend = [w] ∧ True
  simp [Option.forall, Prim.wp, rtnValue, RtnValue.Shape, RtnString.Shape, V8go.newValueUndefined, V8go.newValue]

theorem Op.wp_newValueBoolean (iso : IsolatePtr) (v : Int) :
    (V8go.newValueBoolean iso v).wp [] (Op.newValueBoolean iso v).Spec := by
  show (V8go.newValueBoolean iso v).wp [] fun w pend => pend = [w] ∧ True
  simp [Option.forall, Prim.wp, rtnValue, RtnValue.Shape, RtnString.Shape, V8go.newValueBoolean, V8go.newValue]

theorem Op.wp_newValueNumber (iso : IsolatePtr) (v : JSNumber) :
    (V8go.newValueNumber iso v).wp [] (Op.newValueNumber iso v).Spec := by
  show (V8go.newValueNumber iso v).wp [] fun w pend => pend = [w] ∧ True
  simp [Option.forall, Prim.wp, rtnValue, RtnValue.Shape, RtnString.Shape, V8go.newValueNumber, V8go.newValue]

theorem Op.wp_newValueBigInt (iso : IsolatePtr) (v : Int) :
    (V8go.newValueBigInt iso v).wp [] (Op.newValueBigInt iso v).Spec := by
  show (V8go.newValueBigInt iso v).wp [] fun w pend => pend = [w] ∧ True
  simp [Option.forall, Prim.wp, rtnValue, RtnValue.Shape, RtnString.Shape, V8go.newValueBigInt, V8go.newValue]

theorem Op.wp_newValueBigIntFromUnsigned (iso : IsolatePtr) (v : Nat) :
    (V8go.newValueBigIntFromUnsigned iso v).wp [] (Op.newValueBigIntFromUnsigned iso v).Spec := by
  show (V8go.newValueBigIntFromUnsigned iso v).wp [] fun w pend => pend = [w] ∧ True
  simp [Option.forall, Prim.wp, rtnValue, RtnValue.Shape, RtnString.Shape, V8go.newValueBigIntFromUnsigned, V8go.newValue]

theorem Op.wp_newValueBigIntFromWords (iso : IsolatePtr) (sign_bit word_count : Int) (words : List UInt64) :
    (V8go.newValueBigIntFromWords iso sign_bit word_count words).wp [] (Op.newValueBigIntFromWords iso sign_bit word_count words).Spec := by
  show (V8go.newValueBigIntFromWords iso sign_bit word_count words).wp [] fun r pend => pend = r.value.toList ∧ r.Shape
  simp [Option.forall, Prim.wp, rtnValue, RtnValue.Shape, RtnString.Shape, V8go.newValueBigIntFromWords]

theorem Op.wp_newValueError (iso : IsolatePtr) (idx : ErrorTypeIndex) (message : CStr) :
    (V8go.newValueError iso idx message).wp [] (Op.newValueError iso idx message).Spec := by
  show (V8go.newValueError iso idx message).wp [] fun w pend => pend = w.toList ∧ True
  simp only [V8go.newValueError, Prog.bind_eq, Prog.wp_bind, isolateScopeInternalContext_wp,
    contextHandle_wp, Prog.wp_v8, Prog.wp_toChecked]
  intros
  split <;> simp

theorem Op.wp_valueToArrayIndex (ptr : ValuePtr) :
    (V8go.valueToArrayIndex ptr).wp [] (Op.valueToArrayIndex ptr).Spec := by
  show (V8go.valueToArrayIndex ptr).wp [] fun _ pend => pend = [] ∧ True
  simp [Option.forall, Prim.wp, rtnValue, RtnValue.Shape, RtnString.Shape, V8go.valueToArrayIndex]

theorem Op.wp_valueToBoolean (ptr : ValuePtr) :
    (V8go.valueToBoolean ptr).wp [] (Op.valueToBoolean ptr).Spec := by
  show (V8go.valueToBoolean ptr).wp [] fun _ pend => pend = [] ∧ True
  simp [Option.forall, Prim.wp, rtnValue, RtnValue.Shape, RtnString.Shape, V8go.valueToBoolean]

theorem Op.wp_valueToInt32 (ptr : ValuePtr) :
    (V8go.valueToInt32 ptr).wp [] (Op.valueToInt32 ptr).Spec := by
  show (V8go.valueToInt32 ptr).wp [] fun _ pend => pend = [] ∧ True
  simp [Option.forall, Prim.wp, rtnValue, RtnValue.Shape, RtnString.Shape, V8go.valueToInt32, V8go.valueToChecked]

theorem Op.wp_valueToInteger (ptr : ValuePtr) :
    (V8go.valueToInteger ptr).wp [] (Op.valueToInteger ptr).Spec := by
  show (V8go.valueToInteger ptr).wp [] fun _ pend => pend = [] ∧ True
  simp [Option.forall, Prim.wp, rtnValue, RtnValue.Shape, RtnString.Shape, V8go.valueToInteger, V8go.valueToChecked]

theorem Op.wp_valueToNumber (ptr : ValuePtr) :
    (V8go.valueToNumber ptr).wp [] (Op.valueToNumber ptr).Spec := by
  show (V8go.valueToNumber ptr).wp [] fun _ pend => pend = [] ∧ True
  simp [Option.forall, Prim.wp, rtnValue, RtnValue.Shape, RtnString.Shape, V8go.valueToNumber, V8go.valueToChecked]

theorem Op.wp_valueToDetailString (ptr : ValuePtr) :
    (V8go.valueToDetailString ptr).wp [] (Op.valueToDetailString ptr).Spec := by
  show (V8go.valueToDetailString ptr).wp [] fun r pend => pend = [] ∧ r.Shape
  simp [Option.forall, Prim.wp, rtnValue, RtnValue.Shape, RtnString.Shape, V8go.valueToDetailString]
  exact fun _ e _ e' h => .inr ⟨e, h⟩

theorem Op.wp_valueToString (ptr : ValuePtr) :
    (V8go.valueToString ptr).wp [] (Op.valueToString ptr).Spec := by
  show (V8go.valueToString ptr).wp [] fun _ pend => pend = [] ∧ True
  simp [Option.forall, Prim.wp, rtnValue, RtnValue.Shape, RtnString.Shape, V8go.valueToString]

theorem Op.wp_valueToUint32 (ptr : ValuePtr) :
    (V8go.valueToUint32 ptr).wp [] (Op.valueToUint32 ptr).Spec := by
  show (V8go.valueToUint32 ptr).wp [] fun _ pend => pend = [] ∧ True
  simp [Option.forall, Prim.wp, rtnValue, RtnValue.Shape, RtnString.Shape, V8go.valueToUint32, V8go.valueToChecked]

theorem Op.wp_valueToBigInt (ptr : ValuePtr) :
    (V8go.valueToBigInt ptr).wp [] (Op.valueToBigInt ptr).Spec := by
  show (V8go.valueToBigInt ptr).wp [] fun _ pend => pend = [] ∧ True
  simp [Option.forall, Prim.wp, rtnValue, RtnValue.Shape, RtnString.Shape, V8go.valueToBigInt]

theorem Op.wp_valueToObject (ptr : ValuePtr) :
    (V8go.valueToObject ptr).wp [] (Op.valueToObject ptr).Spec := by
  show (V8go.valueToObject ptr).wp [] fun r pend => pend = r.value.toList ∧ r.Shape
  simp [Option.forall, Prim.wp, rtnValue, RtnValue.Shape, RtnString.Shape, V8go.valueToObject]

theorem Op.wp_valueSameValue (val1 val2 : ValuePtr) :
    (V8go.valueSameValue val1 val2).wp [] (Op.valueSameValue val1 val2).Spec := by
  show (V8go.valueSameValue val1 val2).wp [] fun _ pend => pend = [] ∧ True
  simp [Option.forall, Prim.wp, rtnValue, RtnValue.Shape, RtnString.Shape, V8go.valueSameValue]

theorem Op.wp_valueIs (t : ValueTest) (ptr : ValuePtr) :
    (V8go.valueIs t ptr).wp [] (Op.valueIs t ptr).Spec := by
  show (V8go.valueIs t ptr).wp [] fun _ pend => pend = [] ∧ True
  simp [Option.forall, Prim.wp, rtnValue, RtnValue.Shape, RtnString.Shape, V8go.valueIs]

theorem Op.wp_exceptionGetMessageString (ptr : ValuePtr) :
    (V8go.exceptionGetMessageString ptr).wp [] (Op.exceptionGetMessageString ptr).Spec := by
  show (V8go.exceptionGetMessageString ptr).wp [] fun _ pend => pend = [] ∧ True
  simp [Option.forall, Prim.wp, rtnValue, RtnValue.Shape, RtnString.Shape, V8go.exceptionGetMessageString]

theorem Op.wp_objectSet (ptr : ValuePtr) (key : CStr) (prop_val : ValuePtr) :
    (V8go.objectSet ptr key prop_val).wp [] (Op.objectSet ptr key prop_val).Spec := by
  show (V8go.objectSet ptr key prop_val).wp [] fun _ pend => pend = [] ∧ True
  simp [Option.forall, Prim.wp, rtnValue, RtnValue.Shape, RtnString.Shape, V8go.objectSet, V8go.objectSetKey, V8go.keyChecked]

theorem Op.wp_objectSetAnyKey (ptr key prop_val : ValuePtr) :
    (V8go.objectSetAnyKey ptr key prop_val).wp [] (Op.objectSetAnyKey ptr key prop_val).Spec := by
  show (V8go.objectSetAnyKey ptr key prop_val).wp [] fun _ pend => pend = [] ∧ True
  simp [Option.forall, Prim.wp, rtnValue, RtnValue.Shape, RtnString.Shape, V8go.objectSetAnyKey, V8go.objectSetKey, V8go.keyOfValue]

theorem Op.wp_objectSetIdx (ptr : ValuePtr) (idx : Nat) (prop_val : ValuePtr) :
    (V8go.objectSetIdx ptr idx prop_val).wp [] (Op.objectSetIdx ptr idx prop_val).Spec := by
  show (V8go.objectSetIdx ptr idx prop_val).wp [] fun _ pend => pend = [] ∧ True
  simp [Option.forall, Prim.wp, rtnValue, RtnValue.Shape, RtnString.Shape, V8go.objectSetIdx, V8go.objectSetKey]

theorem Op.wp_objectGet (ptr : ValuePtr) (key : CStr) :
    (V8go.objectGet ptr key).wp [] (Op.objectGet ptr key).Spec := by
  show (V8go.objectGet ptr key).wp [] fun r pend => pend = r.value.toList ∧ r.Shape
  simp [Option.forall, Prim.wp, rtnValue, RtnValue.Shape, RtnString.Shape, V8go.objectGet, V8go.objectGetKey]

theorem Op.wp_objectGetAnyKey (ptr key : ValuePtr) :
    (V8go.objectGetAnyKey ptr key).wp [] (Op.objectGetAnyKey ptr key).Spec := by
  show (V8go.objectGetAnyKey ptr key).wp [] fun r pend => pend = r.value.toList ∧ r.Shape
  simp [Option.forall, Prim.wp, rtnValue, RtnValue.Shape, RtnString.Shape, V8go.objectGetAnyKey, V8go.objectGetKey]

theorem Op.wp_objectGetIdx (ptr : ValuePtr) (idx : Nat) :
    (V8go.objectGetIdx ptr idx).wp [] (Op.objectGetIdx ptr idx).Spec := by
  show (V8go.objectGetIdx ptr idx).wp [] fun r pend => pend = r.value.toList ∧ r.Shape
  simp [Option.forall, Prim.wp, rtnValue, RtnValue.Shape, RtnString.Shape, V8go.objectGetIdx, V8go.objectGetKey]

theorem Op.wp_objectHas (ptr : ValuePtr) (key : CStr) :
    (V8go.objectHas ptr key).wp [] (Op.objectHas ptr key).Spec := by
  show (V8go.objectHas ptr key).wp [] fun _ pend => pend = [] ∧ True
  simp [Option.forall, Prim.wp, rtnValue, RtnValue.Shape, RtnString.Shape, V8go.objectHas, V8go.objectQuery, V8go.keyChecked]

theorem Op.wp_objectHasAnyKey (ptr key : ValuePtr) :
    (V8go.objectHasAnyKey ptr key).wp [] (Op.objectHasAnyKey ptr key).Spec := by
  show (V8go.objectHasAnyKey ptr key).wp [] fun _ pend => pend = [] ∧ True
  simp [Option.forall, Prim.wp, rtnValue, RtnValue.Shape, RtnString.Shape, V8go.objectHasAnyKey, V8go.objectQuery, V8go.keyOfValue]

theorem Op.wp_objectHasIdx (ptr : ValuePtr) (idx : Nat) :
    (V8go.objectHasIdx ptr idx).wp [] (Op.objectHasIdx ptr idx).Spec := by
  show (V8go.objectHasIdx ptr idx).wp [] fun _ pend => pend = [] ∧ True
  simp [Option.forall, Prim.wp, rtnValue, RtnValue.Shape, RtnString.Shape, V8go.objectHasIdx, V8go.objectQuery]

theorem Op.wp_objectDelete (ptr : ValuePtr) (key : CStr) :
    (V8go.objectDelete ptr key).wp [] (Op.objectDelete ptr key).Spec := by
  show (V8go.objectDelete ptr key).wp [] fun _ pend => pend = [] ∧ True
  simp [Option.forall, Prim.wp, rtnValue, RtnValue.Shape, RtnString.Shape, V8go.objectDelete, V8go.objectQuery, V8go.keyChecked]

theorem Op.wp_objectDeleteAnyKey (ptr key : ValuePtr) :
    (V8go.objectDeleteAnyKey ptr key).wp [] (Op.objectDeleteAnyKey ptr key).Spec := by
  show (V8go.objectDeleteAnyKey ptr key).wp [] fun _ pend => pend = [] ∧ True
  simp [Option.forall, Prim.wp, rtnValue, RtnValue.Shape, RtnString.Shape, V8go.objectDeleteAnyKey, V8go.objectQuery, V8go.keyOfValue]

theorem Op.wp_objectDeleteIdx (ptr : ValuePtr) (idx : Nat) :
    (V8go.objectDeleteIdx ptr idx).wp [] (Op.objectDeleteIdx ptr idx).Spec := by
  show (V8go.objectDeleteIdx ptr idx).wp [] fun _ pend => pend = [] ∧ True
  simp [Option.forall, Prim.wp, rtnValue, RtnValue.Shape, RtnString.Shape, V8go.objectDeleteIdx, V8go.objectQuery]

theorem Op.wp_builtinSymbol (iso : IsolatePtr) (idx : SymbolIndex) :
    (V8go.builtinSymbol iso idx).wp [] (Op.builtinSymbol iso idx).Spec := by
  show (V8go.builtinSymbol iso idx).wp [] fun w pend => pend = w.toList ∧ True
  simp only [V8go.builtinSymbol, Prog.bind_eq, Prog.wp_bind, isolateScope_wp, isolateInternalContext_wp]
  split <;> simp

theorem Op.wp_symbolDescription (ptr : ValuePtr) :
    (V8go.symbolDescription ptr).wp [] (Op.symbolDescription ptr).Spec := by
  show (V8go.symbolDescription ptr).wp [] fun _ pend => pend = [] ∧ True
  simp [Option.forall, Prim.wp, rtnValue, RtnValue.Shape, RtnString.Shape, V8go.symbolDescription]

theorem Op.wp_newPromiseResolver (ctx : ContextPtr) :
    (V8go.newPromiseResolver ctx).wp [] (Op.newPromiseResolver ctx).Spec := by
  show (V8go.newPromiseResolver ctx).wp [] fun r pend => pend = r.value.toList ∧ r.Shape
  simp [Option.forall, Prim.wp, rtnValue, RtnValue.Shape, RtnString.Shape, V8go.newPromiseResolver]

theorem Op.wp_promiseResolverGetPromise (ptr : ValuePtr) :
    (V8go.promiseResolverGetPromise ptr).wp [] (Op.promiseResolverGetPromise ptr).Spec := by
  show (V8go.promiseResolverGetPromise ptr).wp [] fun w pend => pend = [w] ∧ True
  simp [Option.forall, Prim.wp, rtnValue, RtnValue.Shape, RtnString.Shape, V8go.promiseResolverGetPromise]

theorem Op.wp_promiseResolverResolve (ptr resolve_val : ValuePtr) :
    (V8go.promiseResolverResolve ptr resolve_val).wp [] (Op.promiseResolverResolve ptr resolve_val).Spec := by
  show (V8go.promiseResolverResolve ptr resolve_val).wp [] fun _ pend => pend = [] ∧ True
  simp [Option.forall, Prim.wp, rtnValue, RtnValue.Shape, RtnString.Shape, V8go.promiseResolverResolve, V8go.promiseResolverSettle]

theorem Op.wp_promiseResolverReject (ptr reject_val : ValuePtr) :
    (V8go.promiseResolverReject ptr reject_val).wp [] (Op.promiseResolverReject ptr reject_val).Spec := by
  show (V8go.promiseResolverReject ptr reject_val).wp [] fun _ pend => pend = [] ∧ True
  simp [Option.forall, Prim.wp, rtnValue, RtnValue.Shape, RtnString.Shape, V8go.promiseResolverReject, V8go.promiseResolverSettle]

theorem Op.wp_promiseState (ptr : ValuePtr) :
    (V8go.promiseState ptr).wp [] (Op.promiseState ptr).Spec := by
  show (V8go.promiseState ptr).wp [] fun _ pend => pend = [] ∧ True
  simp [Option.forall, Prim.wp, rtnValue, RtnValue.Shape, RtnString.Shape, V8go.promiseState]

theorem Op.wp_promiseThen (ptr : ValuePtr) (callback_ref : Int) :
    (V8go.promiseThen ptr callback_ref).wp [] (Op.promiseThen ptr callback_ref).Spec := by
  show (V8go.promiseThen ptr callback_ref).wp [] fun r pend => pend = r.value.toList ∧ r.Shape
  simp [Option.forall, Prim.wp, rtnValue, RtnValue.Shape, RtnString.Shape, V8go.promiseThen]

theorem Op.wp_promiseThen2 (ptr : ValuePtr) (on_fulfilled_ref on_rejected_ref : Int) :
    (V8go.promiseThen2 ptr on_fulfilled_ref on_rejected_ref).wp [] (Op.promiseThen2 ptr on_fulfilled_ref on_rejected_ref).Spec := by
  show (V8go.promiseThen2 ptr on_fulfilled_ref on_rejected_ref).wp [] fun r pend => pend = r.value.toList ∧ r.Shape
  simp [Option.forall, Prim.wp, rtnValue, RtnValue.Shape, RtnString.Shape, V8go.promiseThen2]

theorem Op.wp_promiseCatch (ptr : ValuePtr) (callback_ref : Int) :
    (V8go.promiseCatch ptr callback_ref).wp [] (Op.promiseCatch ptr callback_ref).Spec := by
  show (V8go.promiseCatch ptr callback_ref).wp [] fun r pend => pend = r.value.toList ∧ r.Shape
  simp [Option.forall, Prim.wp, rtnValue, RtnValue.Shape, RtnString.Shape, V8go.promiseCatch]

theorem Op.wp_promiseResult (ptr : ValuePtr) :
    (V8go.promiseResult ptr).wp [] (Op.promiseResult ptr).Spec := by
  show (V8go.promiseResult ptr).wp [] fun w pend => pend = [w] ∧ True
  simp [Option.forall, Prim.wp, rtnValue, RtnValue.Shape, RtnString.Shape, V8go.promiseResult]

theorem Op.wp_functionCall (ptr recv : ValuePtr) (argc : Nat) (args : Array ValuePtr) :
    (V8go.functionCall ptr recv argc args).wp [] (Op.functionCall ptr recv argc args).Spec := by
  show (V8go.functionCall ptr recv argc args).wp [] fun r pend => pend = r.value.toList ∧ r.Shape
  simp [Option.forall, Prim.wp, rtnValue, RtnValue.Shape, RtnString.Shape, V8go.functionCall]

theorem Op.wp_functionNewInstance (ptr : ValuePtr) (argc : Nat) (args : Array ValuePtr) :
    (V8go.functionNewInstance ptr argc args).wp [] (Op.functionNewInstance ptr argc args).Spec := by
  show (V8go.functionNewInstance ptr argc args).wp [] fun r pend => pend = r.value.toList ∧ r.Shape
  simp [Option.forall, Prim.wp, rtnValue, RtnValue.Shape, RtnString.Shape, V8go.functionNewInstance]

theorem Op.wp_functionSourceMapUrl (ptr : ValuePtr) :
    (V8go.functionSourceMapUrl ptr).wp [] (Op.functionSourceMapUrl ptr).Spec := by
  show (V8go.functionSourceMapUrl ptr).wp [] fun w pend => pend = [w] ∧ True
  simp [Option.forall, Prim.wp, rtnValue, RtnValue.Shape, RtnString.Shape, V8go.functionSourceMapUrl]

theorem Op.wp_version :
    (V8go.version).wp [] (Op.version).Spec := by
  show (V8go.version).wp [] fun _ pend => pend = [] ∧ True
  simp [Option.forall, Prim.wp, rtnValue, RtnValue.Shape, RtnString.Shape, V8go.version]

theorem Op.wp_setFlags (flags : CStr) :
    (V8go.setFlags flags).wp [] (Op.setFlags flags).Spec := by
  show (V8go.setFlags flags).wp [] fun _ pend => pend = [] ∧ True
  simp [Option.forall, Prim.wp, rtnValue, RtnValue.Shape, RtnString.Shape, V8go.setFlags]

/-- Every entry point meets its `Op.Spec`, whatever the engine answers. -/
theorem Op.denote_wp (op : Op α) : op.denote.wp [] op.Spec := by
  cases op with
  | init => exact Op.wp_init
  | newIsolate => exact Op.wp_newIsolate
  | isolatePerformMicrotaskCheckpoint iso => exact Op.wp_isolatePerformMicrotaskCheckpoint iso
  | isolateDispose iso => exact Op.wp_isolateDispose iso
  | isolateTerminateExecution iso => exact Op.wp_isolateTerminateExecution iso
  | isolateIsExecutionTerminating iso => exact Op.wp_isolateIsExecutionTerminating iso
  | isolationGetHeapStatistics iso => exact Op.wp_isolationGetHeapStatistics iso
  | templateFreeWrapper tmpl => exact Op.wp_templateFreeWrapper tmpl
  | templateSetValue ptr name val attributes => exact Op.wp_templateSetValue ptr name val attributes
  | templateSetAnyValue ptr key val attributes => exact Op.wp_templateSetAnyValue ptr key val attributes
  | templateSetTemplate ptr name obj attributes => exact Op.wp_templateSetTemplate ptr name obj attributes
  | templateSetAnyTemplate ptr key obj attributes => exact Op.wp_templateSetAnyTemplate ptr key obj attributes
  | newObjectTemplate iso => exact Op.wp_newObjectTemplate iso
  | objectTemplateNewInstance ptr ctx => exact Op.wp_objectTemplateNewInstance ptr ctx
  | newFunctionTemplate iso callback_ref => exact Op.wp_newFunctionTemplate iso callback_ref
  | functionTemplateGetFunction ptr ctx => exact Op.wp_functionTemplateGetFunction ptr ctx
  | newContext iso global_template_ptr ref => exact Op.wp_newContext iso global_template_ptr ref
  | contextFree ctx => exact Op.wp_contextFree ctx
  | runScript ctx source origin => exact Op.wp_runScript ctx source origin
  | jsonParse ctx str => exact Op.wp_jsonParse ctx str
  | jsonStringify ctx val => exact Op.wp_jsonStringify ctx val
  | contextGlobal ctx => exact Op.wp_contextGlobal ctx
  | newValueInteger iso v => exact Op.wp_newValueInteger iso v
  | newValueIntegerFromUnsigned iso v => exact Op.wp_newValueIntegerFromUnsigned iso v
  | newValueString iso v => exact Op.wp_newValueString iso v
  | newValueNull iso => exact Op.wp_newValueNull iso
  | newValueUndefined iso => exact Op.wp_newValueUndefined iso
  | newValueBoolean iso v => exact Op.wp_newValueBoolean iso v
  | newValueNumber iso v => exact Op.wp_newValueNumber iso v
  | newValueBigInt iso v => exact Op.wp_newValueBigInt iso v
  | newValueBigIntFromUnsigned iso v => exact Op.wp_newValueBigIntFromUnsigned iso v
  | newValueBigIntFromWords iso sign_bit word_count words => exact Op.wp_newValueBigIntFromWords iso sign_bit word_count words
  | newValueError iso idx message => exact Op.wp_newValueError iso idx message
  | valueToArrayIndex ptr => exact Op.wp_valueToArrayIndex ptr
  | valueToBoolean ptr => exact Op.wp_valueToBoolean ptr
  | valueToInt32 ptr => exact Op.wp_valueToInt32 ptr
  | valueToInteger ptr => exact Op.wp_valueToInteger ptr
  | valueToNumber ptr => exact Op.wp_valueToNumber ptr
  | valueToDetailString ptr => exact Op.wp_valueToDetailString ptr
  | valueToString ptr => exact Op.wp_valueToString ptr
  | valueToUint32 ptr => exact Op.wp_valueToUint32 ptr
  | valueToBigInt ptr => exact Op.wp_valueToBigInt ptr
  | valueToObject ptr => exact Op.wp_valueToObject ptr
  | valueSameValue val1 val2 => exact Op.wp_valueSameValue val1 val2
  | valueIs t ptr => exact Op.wp_valueIs t ptr
  | exceptionGetMessageString ptr => exact Op.wp_exceptionGetMessageString ptr
  | objectSet ptr key prop_val => exact Op.wp_objectSet ptr key prop_val
  | objectSetAnyKey ptr key prop_val => exact Op.wp_objectSetAnyKey ptr key prop_val
  | objectSetIdx ptr idx prop_val => exact Op.wp_objectSetIdx ptr idx prop_val
  | objectGet ptr key => exact Op.wp_objectGet ptr key
  | objectGetAnyKey ptr key => exact Op.wp_objectGetAnyKey ptr key
  | objectGetIdx ptr idx => exact Op.wp_objectGetIdx ptr idx
  | objectHas ptr key => exact Op.wp_objectHas ptr key
  | objectHasAnyKey ptr key => exact Op.wp_objectHasAnyKey ptr key
  | objectHasIdx ptr idx => exact Op.wp_objectHasIdx ptr idx
  | objectDelete ptr key => exact Op.wp_objectDelete ptr key
  | objectDeleteAnyKey ptr key => exact Op.wp_objectDeleteAnyKey ptr key
  | objectDeleteIdx ptr idx => exact Op.wp_objectDeleteIdx ptr idx
  | builtinSymbol iso idx => exact Op.wp_builtinSymbol iso idx
  | symbolDescription ptr => exact Op.wp_symbolDescription ptr
  | newPromiseResolver ctx => exact Op.wp_newPromiseResolver ctx
  | promiseResolverGetPromise ptr => exact Op.wp_promiseResolverGetPromise ptr
  | promiseResolverResolve ptr resolve_val => exact Op.wp_promiseResolverResolve ptr resolve_val
  | promiseResolverReject ptr reject_val => exact Op.wp_promiseResolverReject ptr reject_val
  | promiseState ptr => exact Op.wp_promiseState ptr
  | promiseThen ptr callback_ref => exact Op.wp_promiseThen ptr callback_ref
  | promiseThen2 ptr on_fulfilled_ref on_rejected_ref => exact Op.wp_promiseThen2 ptr on_fulfilled_ref on_rejected_ref
  | promiseCatch ptr callback_ref => exact Op.wp_promiseCatch ptr callback_ref
  | promiseResult ptr => exact Op.wp_promiseResult ptr
  | functionCall ptr recv argc args => exact Op.wp_functionCall ptr recv argc args
  | functionNewInstance ptr argc args => exact Op.wp_functionNewInstance ptr argc args
  | functionSourceMapUrl ptr => exact Op.wp_functionSourceMapUrl ptr
  | version => exact Op.wp_version
  | setFlags flags => exact Op.wp_setFlags flags

end V8go
