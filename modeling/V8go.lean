import V8go.Model.Basic
import V8go.Model.State
import V8go.Model.Prog
import V8go.Source.Core
import V8go.Source.Context
import V8go.Source.Isolate
import V8go.Source.Value
import V8go.Source.Object
import V8go.Source.Promise
import V8go.Source.Boundary
import V8go.Semantics.Run
import V8go.Semantics.Wp
import V8go.Semantics.Spec
import V8go.Semantics.Discipline
import V8go.Semantics.Exec
import V8go.Semantics.Equiv
import V8go.Registry.Ownership
import V8go.Registry.Growth
import V8go.Registry.Lifetime
import V8go.Bridge.Strings
import V8go.Bridge.Errors
import V8go.Bridge.Callbacks
import V8go.Safety.Healthy
import V8go.Safety.Defined
import V8go.Safety.Entry
import V8go.Safety.Boundary
import V8go.Safety.Session
import V8go.Safety.Progress
import V8go.Safety.Frame
