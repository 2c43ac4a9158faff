import HttpRouter.Proofs.Router.Answering

namespace HttpRouter

variable {World : Type}

/-- The level and the message that an event is told with. -/
def Event.headline (event : Event) : Level × String :=
  (event.level, event.message)

/-- What is told of a route that is left behind. -/
def Route.passingHeadlines (path : String) (method : Http.Method) (route : Route World) :
    List (Level × String) :=
  if route.pattern.isMatch path then
    if route.options.accepts method then [(.trace, "Guard refused route, continuing scan")]
    else [(.trace, "Verb filter rejected route")]
  else []

/-- What is told of how a search ends. -/
def Outcome.headlines : Outcome World → List (Level × String)
  | .ok (.ok (.matched ..)) => [(.debug, "Route matched")]
  | .ok (.ok (.redirect _)) => [(.info, "Guard refused route, redirecting")]
  | .ok (.ok .default) => [(.debug, "No route matched, using default handler")]
  | .ok (.error _) => [(.error, "Authenticator lookup timed out")]
  | .error _ => []

/-- What is left to do once a request is resolved: nothing, as the search failed, sending the client
    elsewhere, or going by the answer of a handler. -/
inductive Ending where
  | panicked (panic : Panic)
  | failed (e : RouterError)
  | sent (location : String)
  | answered (answer : Except Panic (Except Failure Reply))

namespace Ending

/-- The failure that a handler answers with. -/
def failure? : Ending → Option Failure
  | answered (.ok (.error failure)) => some failure
  | _ => none

/-- The place that a client is sent to, by a guard or by the reply of a handler. -/
def location? (router : Router World) : Ending → Option String
  | sent location => some location
  | answered (.ok (.ok (.redirect target))) => some (router.redirectLocation target)
  | _ => none

/-- What foreign code panics with: a predicate, the lookup, a handler, or the text of an element that
    a handler replies with. -/
def panic? : Ending → Option Panic
  | panicked panic => some panic
  | answered (.error panic) => some panic
  | answered (.ok (.ok (.element (.error panic)))) => some panic
  | _ => none

/-- The events behind the search: that the handler failed, that the place to go to is dropped as no
    header can hold it, and that foreign code panicked. -/
def events (router : Router World) (ending : Ending) : List Event :=
  (ending.failure?.map (.handlerFailed ·.message)).toList ++
    (((ending.location? router).filter (!Http.isHeaderValue ·)).map .redirectDropped).toList ++
    (ending.panic?.map (.panicked ·.text)).toList

/-- What is told behind the search. -/
def headlines (router : Router World) (ending : Ending) : List (Level × String) :=
  (ending.failure?.map fun _ => (.warn, "Handler returned an error")).toList ++
    (((ending.location? router).filter (!Http.isHeaderValue ·)).map fun _ =>
      (.warn, "Dropped invalid redirect target")).toList ++
    (ending.panic?.map fun _ => (.error, "Request handling panicked")).toList

/-- The response to a request. -/
def response (router : Router World) : Ending → Http.Response
  | panicked panic => Router.panicResponse panic
  | failed e => router.failureResponse { message := e.message }
  | sent location => (Http.Response.temporaryRedirect location).value
  | answered (.error panic) => Router.panicResponse panic
  | answered (.ok (.error failure)) => router.failureResponse failure
  | answered (.ok (.ok reply)) => Router.settled ((router.replyResponse reply).map (·.value))

end Ending

/-- What is left to do for an outcome, in the world that it leaves behind. -/
def Outcome.ending (router : Router World) (request : Http.Request) (before : World) :
    Outcome World → Ending
  | .error panic => .panicked panic
  | .ok (.error e) => .failed e
  | .ok (.ok (.redirect location)) => .sent location
  | .ok (.ok (.matched _ route params)) => .answered (route.handler ⟨request, params⟩ before).1
  | .ok (.ok .default) => .answered (router.default ⟨request, .empty⟩ before).1

namespace Router

/-- What is left to do once a request is resolved. -/
def ending (router : Router World) (request : Http.Request) (world : World) : Ending :=
  let resolved := router.resolve request world
  Outcome.ending router request resolved.world resolved.outcome

/-- Resolving a request is a scan of all routes, which tells of those it leaves behind and then how it
    ends. -/
theorem resolve_tells (router : Router World) (request : Http.Request) (world : World) :
    ∃ reached, router.Scan (router.normalizePath request.uri) request.method 0 router.routes none
        reached (router.resolveRecord request world) (router.resolve request world).outcome ∧
      Tells (router.normalizePath request.uri) request.method 0 router.routes reached
        (router.resolve request world) := by
  obtain ⟨reached, calls, hscan, hechoes, -, htells⟩ := router.search_scan request
    (router.normalizePath request.uri) router.routes 0 none world []
  rw [resolveRecord_eq hechoes]
  exact ⟨reached, hscan, htells⟩

/-- The event of a panic that is caught where the request is answered. -/
def caught : Except Panic Http.Response → List Event
  | .ok _ => []
  | .error panic => [.panicked panic.text]

/-- A run finishes what is left to do: by its response, and by what it tells behind earlier events,
    with a panic told where it is caught. -/
structure Finishes (router : Router World) (ending : Ending) (earlier : List Event)
    (run : Run World Http.Response) : Prop where
  response : settled run.outcome = ending.response router
  events : run.events ++ caught run.outcome = earlier ++ ending.events router

theorem Finishes.after {router : Router World} {ending : Ending} {earlier : List Event}
    {run : Run World Http.Response} (h : router.Finishes ending earlier run) (events : List Event) :
    router.Finishes ending (events ++ earlier) (run.after events) where
  response := h.response
  events := by
    rw [List.append_assoc, ← h.events, ← List.append_assoc]
    rfl

/-- Sending a client to a place tells so exactly if no header can hold the place. -/
theorem temporaryRedirect_events (location : String) :
    (Http.Response.temporaryRedirect location).events =
      (((some location).filter (!Http.isHeaderValue ·)).map .redirectDropped).toList := by
  rw [Option.filter_some]
  unfold Http.Response.temporaryRedirect Http.Response.withLocation
  cases Http.isHeaderValue location <;> rfl

section Telling

variable (router : Router World) (request : Http.Request) (world : World)

/-- Sending a client to a place finishes what is left to do where that is all. -/
theorem finishes_sent (location : String) :
    router.Finishes (.sent location) []
      ⟨.ok (Http.Response.temporaryRedirect location).value,
        (Http.Response.temporaryRedirect location).events, world⟩ where
  response := rfl
  events := by
    have hsent := temporaryRedirect_events location
    simpa [Ending.events, Ending.failure?, Ending.location?, Ending.panic?, caught] using hsent

/-- Running a handler finishes what is left to do by its answer. -/
theorem handle_finishes (handler : Handler World) (context : Context) :
    router.Finishes (.answered (handler context world).1) []
      (router.handle handler context world) := by
  unfold handle
  split
  · rename_i panic world' hanswer
    rw [hanswer]
    exact ⟨rfl, rfl⟩
  · rename_i failure world' hanswer
    rw [hanswer]
    exact ⟨rfl, rfl⟩
  · rename_i reply world' hanswer
    rw [hanswer]
    cases reply with
    | element render => cases render <;> exact ⟨rfl, rfl⟩
    | redirect target =>
      have hsent := router.finishes_sent world' (router.redirectLocation target)
      exact ⟨rfl, hsent.events⟩
    | _ => exact ⟨rfl, rfl⟩

/-- Serving a request finishes what is left to do once it is resolved, and tells so behind the events
    of the search. -/
theorem serve_finishes :
    router.Finishes (router.ending request world) (router.resolve request world).events
      (router.serve request world) := by
  unfold serve ending
  generalize router.resolve request world = resolved
  obtain ⟨outcome, events, world'⟩ := resolved
  cases outcome with
  | error panic => exact ⟨rfl, rfl⟩
  | ok answer =>
    cases answer with
    | error e => exact ⟨rfl, rfl⟩
    | ok resolution =>
      cases resolution with
      | redirect location =>
        have hsent := (router.finishes_sent world' location).after events
        rwa [List.append_nil] at hsent
      | matched index route params =>
        have hhandled := (router.handle_finishes world' route.handler ⟨request, params⟩).after events
        rwa [List.append_nil] at hhandled
      | default =>
        have hhandled := (router.handle_finishes world' router.default ⟨request, .empty⟩).after events
        rwa [List.append_nil] at hhandled

/-- What is left to do once a request is resolved decides on the response. -/
theorem dispatch_response :
    (router.dispatch request world).1.value = (router.ending request world).response router := by
  rw [dispatch_value, (router.serve_finishes request world).response]

/-- A dispatch tells that it begins, how the request is resolved and what goes wrong behind that. -/
theorem dispatch_events_eq :
    (router.dispatch request world).1.events = .dispatchStarted request.method.name request.path ::
      ((router.resolve request world).events ++ (router.ending request world).events router) := by
  rw [← (router.serve_finishes request world).events]
  unfold dispatch
  dsimp only
  split <;> rename_i houtcome <;> rw [houtcome]
  · exact congrArg _ (List.append_nil _).symm
  · rfl

end Telling

/-- The levels and the messages of the events of a search and of what follows it. -/
theorem map_headline_told {router : Router World} {path : String} {method : Http.Method} {index : Nat}
    (passed : List (Route World)) {settling : Option (Route World)} {outcome : Outcome World}
    {closing : List Event} (hcloses : Closes path index settling outcome closing) (ending : Ending) :
    (passed.flatMap (·.passingEvents path method) ++ closing ++ ending.events router).map (·.headline) =
      passed.flatMap (·.passingHeadlines path method) ++ Outcome.headlines outcome ++
        ending.headlines router := by
  have hpassing : ∀ route : Route World, (route.passingEvents path method).map (·.headline) =
      route.passingHeadlines path method := by
    intro route
    unfold Route.passingEvents Route.passingHeadlines
    split
    · split <;> rfl
    · rfl
  have hclosing : closing.map (·.headline) = Outcome.headlines outcome := by
    cases hcloses <;> rfl
  have hending : (ending.events router).map (·.headline) = ending.headlines router := by
    unfold Ending.events Ending.headlines
    simp only [List.map_append, ← Option.toList_map, Option.map_map]
    rfl
  rw [List.map_append, List.map_append, List.map_flatMap, hclosing, hending]
  simp only [hpassing]

/-- The events of a dispatch tell exactly how the request is settled. Behind the beginning of the work
    on the request they tell, in the order of registration, of the routes before the one that the
    search stops at: nothing of a route that does not match the path, one event of a route that does
    not take the method, and one of a route whose guard refuses the request. Then one event closes the
    search: the route at that index takes the request, its guard sends the client elsewhere, no route
    takes it, or the lookup is given up; only a panic has none. At the end stand the failure of the
    handler, the place that no header can hold and the panic, each exactly if there is one. The levels
    and the messages are those of the headlines. -/
theorem dispatch_events (router : Router World) (request : Http.Request) (world : World) :
    let path := router.normalizePath request.uri
    let record := router.resolveRecord request world
    let resolved := router.resolve request world
    let ending := router.ending request world
    ∃ reached closing,
      router.Stops path request.method record 0 router.routes reached record resolved.outcome ∧
      record.filterMap (·.panic?) = Outcome.panics resolved.outcome ∧
      router.dispatchRecord request world =
        record ++ (Outcome.handlers resolved.outcome).map .handler ∧
      Closes path reached router.routes[reached]? resolved.outcome closing ∧
      let told := (router.routes.take reached).flatMap (·.passingEvents path request.method) ++
        closing ++ ending.events router
      (router.dispatch request world).1.events =
        .dispatchStarted request.method.name request.path :: told ∧
      told.map (·.headline) =
        (router.routes.take reached).flatMap (·.passingHeadlines path request.method) ++
          Outcome.headlines resolved.outcome ++ ending.headlines router := by
  intro path record resolved ending
  obtain ⟨reached, hscan, closing, hcloses, hevents⟩ := router.resolve_tells request world
  have hstops := hscan.stops Knows.start
  rw [List.nil_append] at hstops
  rw [Nat.zero_add] at hcloses
  refine ⟨reached, closing, hstops, hscan.panics_eq, router.dispatchRecord_eq request world, hcloses,
    ?_, map_headline_told _ hcloses ending⟩
  rw [dispatch_events_eq, hevents]

end Router

end HttpRouter
