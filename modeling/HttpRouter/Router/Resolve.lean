import HttpRouter.Router.Basic

namespace HttpRouter

/-- What a request comes to: a route with the parameters of its path, a place to go to, or the
    default handler. -/
inductive Resolution (World : Type) where
  | matched (index : Nat) (route : Route World) (params : Params)
  | redirect (location : String)
  | default

/-- What a request comes to, as it is shown to a developer. -/
def Resolution.shown {World : Type} : Resolution World → String
  | matched index route params =>
    Text.shownTuple "Matched" [Text.shownRecord "RouteMatch" [("index", toString index),
      ("entry", route.shown), ("params", params.shown)]]
  | redirect location => Text.shownTuple "Redirect" [Text.quoted location]
  | default => "Default"

/-- What running part of the router leads to: an answer or a panic, the events told on the way, and
    the world it leaves behind. -/
structure Run (World Answer : Type) where
  outcome : Except Panic Answer
  events : List Event
  world : World

namespace Run

variable {World Answer : Type}

/-- A run with further events before its own. -/
def after (events : List Event) (run : Run World Answer) : Run World Answer :=
  { run with events := events ++ run.events }

end Run

namespace Router

variable {World : Type}

/-- What is known of the current user during a search. -/
abbrev Presence := Option Bool

/-- Looks up whether there is a current user, unless that is known or the guard does not ask. -/
def lookUp (router : Router World) (request : Http.Request) (options : RouteOptions World)
    (presence : Presence) (world : World) : Run World (Except RouterError Presence) :=
  if options.guard.any (·.needsUser) && presence.isNone then
    match router.authenticator request world with
    | (.ok (.answered user), world) => ⟨.ok (.ok (some user.isSome)), [], world⟩
    | (.ok .never, world) =>
      let budget := router.settings.lookupBudget
      ⟨.ok (.error (.guardTimeout budget)), [.lookupTimedOut budget], world⟩
    | (.error panic, world) => ⟨.error panic, [], world⟩
  else ⟨.ok (.ok presence), [], world⟩

/-- Tries routes in order, from the one with the given index on. -/
def search (router : Router World) (request : Http.Request) (path : String) :
    Nat → List (Route World) → Presence → World → Run World (Except RouterError (Resolution World))
  | _, [], _, world => ⟨.ok (.ok .default), [.nothingMatched path], world⟩
  | index, route :: rest, presence, world =>
    let template := route.pattern.template
    match route.pattern.params? path with
    | none => search router request path (index + 1) rest presence world
    | some params =>
      if !route.options.accepts request.method then
        (search router request path (index + 1) rest presence world).after
          [.verbRejected template request.method.name]
      else
        let lookup := router.lookUp request route.options presence world
        match lookup.outcome with
        | .error panic => ⟨.error panic, lookup.events, lookup.world⟩
        | .ok (.error e) => ⟨.ok (.error e), lookup.events, lookup.world⟩
        | .ok (.ok presence) =>
          match route.options.evaluate (presence.getD false) lookup.world with
          | (.error panic, world) => ⟨.error panic, [], world⟩
          | (.ok .accepted, world) =>
            ⟨.ok (.ok (.matched index route params)), [.routeMatched index template path], world⟩
          | (.ok (.rejected (some target)), world) =>
            let location := router.redirectLocation target
            ⟨.ok (.ok (.redirect location)), [.guardRedirected template location], world⟩
          | (.ok (.rejected none), world) =>
            (search router request path (index + 1) rest presence world).after
              [.guardRefused template]

/-- Finds out what a request comes to. -/
def resolve (router : Router World) (request : Http.Request) (world : World) :
    Run World (Except RouterError (Resolution World)) :=
  router.search request (router.normalizePath request.uri) 0 router.routes none world

end Router

end HttpRouter
