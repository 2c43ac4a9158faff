import HttpRouter.Router.Resolve

namespace HttpRouter

namespace Router

variable {World : Type}

/-- The response to a failure. It tells the causes only where the settings say so. -/
def failureResponse (router : Router World) (failure : Failure) : Http.Response :=
  .internalError (if router.settings.debug then failure.report else failure.message)

/-- The response to a reply. The place a client is sent to may lie under the base path. -/
def replyResponse (router : Router World) (reply : Reply) :
    Except Panic (Logged Http.Response) :=
  match reply with
  | .redirect target => .ok (Http.Response.temporaryRedirect (router.redirectLocation target))
  | reply => reply.toResponse

/-- Runs a handler and answers with its reply. -/
def handle (router : Router World) (handler : Handler World) (context : Context)
    (world : World) : Run World Http.Response :=
  match handler context world with
  | (.error panic, world) => ⟨.error panic, [], world⟩
  | (.ok (.error failure), world) =>
    ⟨.ok (router.failureResponse failure), [.handlerFailed failure.message], world⟩
  | (.ok (.ok reply), world) =>
    match router.replyResponse reply with
    | .error panic => ⟨.error panic, [], world⟩
    | .ok response => ⟨.ok response.value, response.events, world⟩

/-- Resolves a request and answers it. -/
def serve (router : Router World) (request : Http.Request) (world : World) :
    Run World Http.Response :=
  let resolved := router.resolve request world
  match resolved.outcome with
  | .error panic => ⟨.error panic, resolved.events, resolved.world⟩
  | .ok (.error e) =>
    ⟨.ok (router.failureResponse { message := e.message }), resolved.events, resolved.world⟩
  | .ok (.ok (.redirect location)) =>
    let response := Http.Response.temporaryRedirect location
    ⟨.ok response.value, resolved.events ++ response.events, resolved.world⟩
  | .ok (.ok (.matched _ route params)) =>
    (router.handle route.handler ⟨request, params⟩ resolved.world).after resolved.events
  | .ok (.ok .default) =>
    (router.handle router.default ⟨request, .empty⟩ resolved.world).after resolved.events

/-- The response to a panic. -/
def panicResponse (panic : Panic) : Http.Response :=
  .internalError ("Handler panicked: " ++ panic.text)

/-- Answers a request, whatever foreign code does. -/
def dispatch (router : Router World) (request : Http.Request) (world : World) :
    Logged Http.Response × World :=
  let served := router.serve request world
  let begun := Event.dispatchStarted request.method.name request.path
  match served.outcome with
  | .ok response => (⟨response, begun :: served.events⟩, served.world)
  | .error panic =>
    (⟨panicResponse panic, begun :: served.events ++ [.panicked panic.text]⟩, served.world)

end Router

end HttpRouter
