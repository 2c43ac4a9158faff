import HttpRouter.Route.Basic

namespace HttpRouter

/-- A route table that is open for registration. -/
structure RouteTable (World : Type) where
  routes : List (Route World)
  default : Option (Handler World)

namespace RouteTable

variable {World : Type}

/-- A table without routes. -/
def empty : RouteTable World := ⟨[], none⟩

/-- Registers a route after all others. -/
def push (table : RouteTable World) (route : Route World) : Logged (RouteTable World) := do
  Logged.tell route.registered
  return { table with routes := table.routes ++ [route] }

/-- Compiles a template and registers it with a handler. -/
def add (table : RouteTable World) (template : String) (handler : Handler World)
    (options : RouteOptions World) : Except RouterError (Logged (RouteTable World)) := do
  let pattern ← Pattern.compile template ""
  return table.push { pattern, handler, options }

/-- Sets the handler for requests that no route takes. -/
def setDefault (table : RouteTable World) (handler : Handler World) :
    Logged (RouteTable World) := do
  if table.default.isSome then
    Logged.tell .defaultReplaced
  return { table with default := some handler }

/-- The table as it is shown to a developer. -/
def shown (table : RouteTable World) : String :=
  Text.shownRecord "RouteRegistry" [
    ("entries", Text.shownList (table.routes.map (·.shown))),
    ("has_default", if table.default.isSome then "true" else "false")]

end RouteTable

end HttpRouter
