import HttpRouter.Router.Dispatch

namespace HttpRouter

/-- A call of foreign code while a request is answered. Predicates and handlers are known by the
    index of their route, and the default handler has none. -/
inductive Consultation where
  | lookup (answer : Except Panic Lookup)
  | predicate (index : Nat) (answer : Except Panic Bool)
  | handler (index : Option Nat)

/-- A world that keeps a record of the calls made in it, the earliest first. -/
abbrev Recorded (World : Type) : Type := World × List Consultation

/-- The call in a world with a record, where it leaves a note of its answer. -/
def Call.noted {World Answer : Type} (note : Except Panic Answer → Consultation)
    (call : Call World Answer) : Call (Recorded World) Answer :=
  fun (world, record) => ((call world).1, (call world).2, record ++ [note (call world).1])

section Recording

variable {World : Type}

/-- The guard with its predicate noted. -/
def Guard.recorded (index : Nat) : Guard World → Guard (Recorded World)
  | authenticated => authenticated
  | anonymous => anonymous
  | custom predicate => custom (Call.noted (.predicate index) predicate)

/-- The options with the predicate of their guard noted. -/
def RouteOptions.recorded (index : Nat) (options : RouteOptions World) :
    RouteOptions (Recorded World) :=
  { method := options.method
    guard := options.guard.map (Guard.recorded index)
    fallback := options.fallback }

/-- The route with its predicate and its handler noted. -/
def Route.recorded (index : Nat) (route : Route World) : Route (Recorded World) :=
  { pattern := route.pattern
    handler := fun context => Call.noted (fun _ => .handler (some index)) (route.handler context)
    options := route.options.recorded index
    action := route.action }

/-- Routes with their calls noted under the indices from a given one on. -/
def Route.recordedFrom (index : Nat) (routes : List (Route World)) : List (Route (Recorded World)) :=
  (routes.zipIdx index).map fun (route, index) => route.recorded index

/-- The router with every call of foreign code noted. -/
def Router.recorded (router : Router World) : Router (Recorded World) :=
  { routes := Route.recordedFrom 0 router.routes
    default := fun context => Call.noted (fun _ => .handler none) (router.default context)
    settings := router.settings
    authenticator := fun request => Call.noted .lookup (router.authenticator request) }

/-- The resolution as the router with notes gives it. -/
def Resolution.recorded : Resolution World → Resolution (Recorded World)
  | matched index route params => matched index (route.recorded index) params
  | redirect location => redirect location
  | default => default

/-- What resolving a request ends in: a resolution, a failure or a panic. -/
abbrev Outcome (World : Type) : Type := Except Panic (Except RouterError (Resolution World))

/-- The outcome as the router with notes gives it. -/
def Outcome.recorded (outcome : Outcome World) : Outcome (Recorded World) :=
  outcome.map (Except.map Resolution.recorded)

/-- The calls made while a request is resolved. -/
def Router.resolveRecord (router : Router World) (request : Http.Request) (world : World) :
    List Consultation :=
  (router.recorded.resolve request (world, [])).world.2

/-- The calls made while a request is answered. -/
def Router.dispatchRecord (router : Router World) (request : Http.Request) (world : World) :
    List Consultation :=
  (router.recorded.dispatch request (world, [])).2.2

@[simp] theorem Route.recordedFrom_nil (index : Nat) :
    Route.recordedFrom index ([] : List (Route World)) = [] := rfl

@[simp] theorem Route.recordedFrom_cons (index : Nat) (route : Route World)
    (routes : List (Route World)) :
    Route.recordedFrom index (route :: routes) =
      route.recorded index :: Route.recordedFrom (index + 1) routes := by
  simp [Route.recordedFrom, List.zipIdx_cons]

@[simp] theorem Guard.needsUser_recorded (index : Nat) (guard : Guard World) :
    (guard.recorded index).needsUser = guard.needsUser := by
  cases guard <;> rfl

@[simp] theorem RouteOptions.needsUser_recorded (index : Nat) (options : RouteOptions World) :
    (options.recorded index).guard.any (·.needsUser) = options.guard.any (·.needsUser) := by
  cases hguard : options.guard with
  | none => simp [RouteOptions.recorded, hguard]
  | some guard => simp [RouteOptions.recorded, hguard]

@[simp] theorem RouteOptions.accepts_recorded (index : Nat) (options : RouteOptions World)
    (method : Http.Method) : (options.recorded index).accepts method = options.accepts method := rfl

@[simp] theorem Route.pattern_recorded (index : Nat) (route : Route World) :
    (route.recorded index).pattern = route.pattern := rfl

@[simp] theorem Route.options_recorded (index : Nat) (route : Route World) :
    (route.recorded index).options = route.options.recorded index := rfl

@[simp] theorem Router.settings_recorded (router : Router World) :
    router.recorded.settings = router.settings := rfl

@[simp] theorem Router.redirectLocation_recorded (router : Router World) (target : String) :
    router.recorded.redirectLocation target = router.redirectLocation target := rfl

@[simp] theorem Router.normalizePath_recorded (router : Router World) (uri : String) :
    router.recorded.normalizePath uri = router.normalizePath uri := by
  simp only [Router.normalizePath, Router.settings_recorded]

namespace Router

/-- A search with notes leads to what the same search leads to without them, and notes its calls at
    the end of the record. -/
structure Echoes (run : Run World (Except RouterError (Resolution World)))
    (noted : Run (Recorded World) (Except RouterError (Resolution (Recorded World))))
    (record calls : List Consultation) : Prop where
  outcome : noted.outcome = Outcome.recorded run.outcome
  events : noted.events = run.events
  world : noted.world = (run.world, record ++ calls)

theorem Echoes.after {run : Run World (Except RouterError (Resolution World))}
    {noted : Run (Recorded World) (Except RouterError (Resolution (Recorded World)))}
    {record calls : List Consultation} (h : Echoes run noted record calls) (events : List Event) :
    Echoes (run.after events) (noted.after events) record calls where
  outcome := h.outcome
  events := congrArg (events ++ ·) h.events
  world := h.world

end Router

end Recording

end HttpRouter
