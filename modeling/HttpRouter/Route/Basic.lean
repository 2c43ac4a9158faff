import HttpRouter.Call.Handler
import HttpRouter.Event
import HttpRouter.Path.Pattern
import HttpRouter.Route.Options

namespace HttpRouter

/-- A route: what it matches, what handles it, its options, and the action it stands for, if it was
    declared by a reference. -/
structure Route (World : Type) where
  pattern : Pattern
  handler : Handler World
  options : RouteOptions World := {}
  action : Option String := none

namespace Route

variable {World : Type}

/-- The event of the registration of a route. -/
def registered (route : Route World) : Event :=
  .routeRegistered route.pattern.template route.pattern.expression
    (route.options.method.map (·.name)) (route.options.guard.map (·.kind))

/-- The route as it is shown to a developer. -/
def shown (route : Route World) : String :=
  Text.shownRecord "RouteEntry" [
    ("template", Text.quoted route.pattern.template),
    ("options", route.options.shown),
    ("action", Text.shownOption (route.action.map Text.quoted))]

end Route

end HttpRouter
