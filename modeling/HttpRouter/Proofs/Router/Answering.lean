import HttpRouter.Proofs.Router.Lookup

namespace HttpRouter

/-- A response that tells a client of a failure of the server, with a detail. -/
structure Http.Response.TellsFailure (response : Http.Response) (detail : String) : Prop where
  status : response.status = 500
  headers : response.headers.entries = [("content-type", "application/json")]
  body : response.body = (Json.object [("code", .string "500"),
    ("title", .string "Internal Server Error"), ("message", .string detail)]).text.toUTF8

theorem Http.Response.tellsFailure_internalError (detail : String) :
    (Http.Response.internalError detail).TellsFailure detail where
  status := rfl
  headers := rfl
  body := rfl

/-- What a client is told of a panic. -/
def Panic.notice : Panic → String
  | message text => "Handler panicked: " ++ text
  | other => "Handler panicked: unknown panic payload"

theorem Http.Response.tellsFailure_panicResponse (panic : Panic) :
    (Router.panicResponse panic).TellsFailure panic.notice := by
  have hnotice : "Handler panicked: " ++ panic.text = panic.notice := by
    cases panic with
    | message text => rfl
    | other => decide
  unfold Router.panicResponse
  rw [hnotice]
  exact tellsFailure_internalError panic.notice

namespace Failure

end Failure

namespace Consultation

/-- The panic of a predicate or of a lookup. -/
def panic? : Consultation → Option Panic
  | lookup (.error panic) => some panic
  | predicate _ (.error panic) => some panic
  | _ => none

end Consultation

variable {World : Type}

/-- The handlers to call for an outcome: that of the route which takes the request, or the default
    one, or none. -/
def Outcome.handlers : Outcome World → List (Option Nat)
  | .ok (.ok (.matched index _ _)) => [some index]
  | .ok (.ok .default) => [none]
  | _ => []

/-- The panics of an outcome: the one it ends in, if it does. -/
def Outcome.panics : Outcome World → List Panic
  | .error panic => [panic]
  | .ok _ => []

namespace Router

/-- A guard that comes to a verdict has not panicked. -/
theorem judged_no_panic {index : Nat} {guard : Option (Guard World)} {presence known : Presence}
    {calls : List Consultation} {passes : Bool}
    (h : Guard.Judged index guard presence calls known passes) : calls.filterMap (·.panic?) = [] := by
  cases h <;> rfl

/-- A guard that gets stuck over a panic ends the search with it. -/
theorem stuck_panics {budget index : Nat} {guard : Option (Guard World)} {presence : Presence}
    {calls : List Consultation} {halt : Except Panic RouterError}
    (h : Guard.Stuck budget index guard presence calls halt) :
    calls.filterMap (·.panic?) = Outcome.panics (halt.map .error : Outcome World) := by
  cases h <;> rfl

/-- The panics in the calls of a scan are those of its outcome. -/
theorem Scan.panics_eq {router : Router World} {path : String} {method : Http.Method} {index : Nat}
    {routes : List (Route World)} {presence : Presence} {reached : Nat} {calls : List Consultation}
    {outcome : Outcome World}
    (h : router.Scan path method index routes presence reached calls outcome) :
    calls.filterMap (·.panic?) = Outcome.panics outcome := by
  induction h with
  | exhausted index presence => rfl
  | passedOver hcandidate hrest ih => exact ih
  | accepted hcandidate hparams hjudged => exact judged_no_panic hjudged
  | redirected hcandidate hjudged hfallback => exact judged_no_panic hjudged
  | refused hcandidate hjudged hfallback hrest ih =>
    rw [List.filterMap_append, judged_no_panic hjudged, List.nil_append]
    exact ih
  | failed hcandidate hstuck => exact stuck_panics hstuck

/-- The reply with the place it sends a client to put under the base path. -/
def placed (router : Router World) : Reply → Reply
  | .redirect target => .redirect (router.redirectLocation target)
  | reply => reply

theorem replyResponse_eq (router : Router World) (reply : Reply) :
    router.replyResponse reply = (router.placed reply).toResponse := by
  cases reply <;> rfl

/-- The response that the answer of a handler determines. -/
inductive Responds (router : Router World) : Except Panic (Except Failure Reply) → Http.Response → Prop
  | panicked {panic : Panic} {response : Http.Response}
      (htells : response.TellsFailure panic.notice) : Responds router (.error panic) response
  | failed {failure : Failure} {response : Http.Response}
      (htells : response.TellsFailure
        (if router.settings.debug then failure.report else failure.message)) :
      Responds router (.ok (.error failure)) response
  | unrendered {reply : Reply} {panic : Panic} {response : Http.Response}
      (hrender : (router.placed reply).toResponse = .error panic)
      (htells : response.TellsFailure panic.notice) : Responds router (.ok (.ok reply)) response
  | replied {reply : Reply} {rendered : Logged Http.Response}
      (hrender : (router.placed reply).toResponse = .ok rendered) :
      Responds router (.ok (.ok reply)) rendered.value

/-- How a request is answered, by what resolving it ends in and the world that this leaves behind:
    the response, and the world after it. A handler is given the request as it is. -/
inductive Answered (router : Router World) (request : Http.Request) (before : World) :
    Outcome World → Http.Response → World → Prop
  | matched {index : Nat} {route : Route World} {params : Params} {response : Http.Response}
      (hroute : router.routes[index]? = some route)
      (hparams : route.pattern.params? (router.normalizePath request.uri) = some params)
      (hresponds : router.Responds (route.handler ⟨request, params⟩ before).1 response) :
      Answered router request before (.ok (.ok (.matched index route params))) response
        (route.handler ⟨request, params⟩ before).2
  | default {response : Http.Response}
      (hresponds : router.Responds (router.default ⟨request, .empty⟩ before).1 response) :
      Answered router request before (.ok (.ok .default)) response
        (router.default ⟨request, .empty⟩ before).2
  | redirected {location : String} {response : Http.Response} (hstatus : response.status = 302)
      (hresponse : response = (Http.Response.temporaryRedirect location).value) :
      Answered router request before (.ok (.ok (.redirect location))) response before
  | failed {e : RouterError} {response : Http.Response} (htells : response.TellsFailure e.message) :
      Answered router request before (.ok (.error e)) response before
  | panicked {panic : Panic} {response : Http.Response}
      (htells : response.TellsFailure panic.notice) :
      Answered router request before (.error panic) response before

/-- The response at the end of serving a request, where a panic is caught. -/
def settled : Except Panic Http.Response → Http.Response
  | .ok response => response
  | .error panic => panicResponse panic

section Serving

variable (router : Router World) (request : Http.Request) (world : World)

theorem dispatch_value :
    (router.dispatch request world).1.value = settled (router.serve request world).outcome := by
  unfold dispatch
  dsimp only
  split <;> rename_i houtcome <;> rw [houtcome] <;> rfl

theorem dispatch_world : (router.dispatch request world).2 = (router.serve request world).world := by
  unfold dispatch
  dsimp only
  split <;> rfl

/-- A handler is called once, in the world before it, and nothing else changes the world. -/
theorem handle_world (handler : Handler World) (context : Context) :
    (router.handle handler context world).world = (handler context world).2 := by
  unfold handle
  split
  · rename_i hanswer
    rw [hanswer]
  · rename_i hanswer
    rw [hanswer]
  · rename_i hanswer
    rw [hanswer]
    split <;> rfl

/-- The answer of a handler determines the response. -/
theorem handle_responds (handler : Handler World) (context : Context) :
    router.Responds (handler context world).1
      (settled (router.handle handler context world).outcome) := by
  unfold handle
  split
  · rename_i panic world' hanswer
    rw [hanswer]
    exact .panicked (Http.Response.tellsFailure_panicResponse panic)
  · rename_i failure world' hanswer
    rw [hanswer]
    exact .failed (Http.Response.tellsFailure_internalError _)
  · rename_i reply world' hanswer
    rw [hanswer, replyResponse_eq]
    split
    · rename_i panic hrender
      exact .unrendered hrender (Http.Response.tellsFailure_panicResponse panic)
    · rename_i rendered hrender
      exact .replied hrender

/-- A request is resolved to a route of the table, with the parameters of its path. -/
theorem matched_of_resolve {index : Nat} {route : Route World} {params : Params}
    (hmatched : (router.resolve request world).outcome = .ok (.ok (.matched index route params))) :
    router.routes[index]? = some route ∧
      route.pattern.params? (router.normalizePath request.uri) = some params := by
  obtain ⟨reached, hstops⟩ := router.resolve_stops request world
  obtain ⟨-, hdefault⟩ | ⟨taken, htaken, -, hends⟩ := hstops.ended
  · rw [hmatched] at hdefault
    cases hdefault
  · rw [hmatched, Nat.zero_add] at hends
    cases hends with
    | accepted params hparams hverdict => exact ⟨htaken, hparams⟩

theorem serve_answered :
    router.Answered request (router.resolve request world).world
      (router.resolve request world).outcome (settled (router.serve request world).outcome)
      (router.serve request world).world := by
  have hroute : ∀ index route params,
      (router.resolve request world).outcome = .ok (.ok (.matched index route params)) →
        router.routes[index]? = some route ∧
          route.pattern.params? (router.normalizePath request.uri) = some params :=
    fun _ _ _ => router.matched_of_resolve request world
  unfold serve
  generalize router.resolve request world = resolved at hroute ⊢
  obtain ⟨outcome, events, world'⟩ := resolved
  cases outcome with
  | error panic => exact .panicked (Http.Response.tellsFailure_panicResponse panic)
  | ok answer =>
    cases answer with
    | error e =>
      refine .failed ?_
      have hreport : (if router.settings.debug then ({ message := e.message } : Failure).report
          else e.message) = e.message := by split <;> rfl
      rw [← hreport]
      exact Http.Response.tellsFailure_internalError _
    | ok resolution =>
      cases resolution with
      | redirect location =>
        refine .redirected ?_ rfl
        dsimp only [settled, Http.Response.temporaryRedirect, Http.Response.withLocation]
        split <;> rfl
      | matched index route params =>
        obtain ⟨htaken, hparams⟩ := hroute index route params rfl
        have hanswered : router.Answered request world' _ _ _ := .matched htaken hparams
          (router.handle_responds world' route.handler ⟨request, params⟩)
        rw [← router.handle_world world'] at hanswered
        exact hanswered
      | default =>
        have hanswered : router.Answered request world' _ _ _ :=
          .default (router.handle_responds world' router.default ⟨request, .empty⟩)
        rw [← router.handle_world world'] at hanswered
        exact hanswered

/-- The calls made while a request is answered are those of resolving it, and then that of the handler
    which the resolution leads to. -/
theorem dispatchRecord_eq :
    router.dispatchRecord request world = router.resolveRecord request world ++
      (Outcome.handlers (router.resolve request world).outcome).map .handler := by
  obtain ⟨reached, -, hechoes, -⟩ := router.resolve_scan request world
  have hanswered := router.recorded.serve_answered request (world, [])
  rw [hechoes.outcome, hechoes.world] at hanswered
  unfold dispatchRecord
  rw [dispatch_world]
  generalize (router.recorded.serve request (world, [])).world = after at hanswered ⊢
  generalize (router.resolve request world).outcome = outcome at hanswered ⊢
  rcases outcome with panic | e | resolution
  · cases hanswered
    simp [Outcome.handlers]
  · cases hanswered
    simp [Outcome.handlers]
  · cases resolution <;> cases hanswered <;>
      simp [Outcome.handlers, Route.recorded, Router.recorded, Call.noted]

end Serving

end Router

end HttpRouter
