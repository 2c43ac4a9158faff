import HttpRouter.Blueprint.Declaration
import HttpRouter.Router.Basic

namespace HttpRouter

/-- A group that declarations are in: the text in front of their templates and their options. -/
structure Scope (World : Type) where
  mount : String
  options : RouteOptions World

/-- The state of declaring: the route table so far, the controllers known so far, the groups around
    the next declaration, the outermost first, and the errors in the order in which they arose. -/
structure Blueprint (World : Type) where
  table : RouteTable World := .empty
  controllers : Controllers World := .empty
  scopes : List (Scope World) := []
  errors : List RouterError := []

namespace Blueprint

variable {World : Type}

/-- The text in front of every template in the current group. -/
def mount (blueprint : Blueprint World) : String :=
  .join (blueprint.scopes.map (·.mount))

/-- The options of the current group. -/
def options (blueprint : Blueprint World) : RouteOptions World :=
  blueprint.scopes.foldl (fun outer scope => outer.merge scope.options) {}

/-- Records an error. -/
def record (blueprint : Blueprint World) (error : RouterError) : Logged (Blueprint World) := do
  Logged.tell (.declarationRejected error.message)
  return { blueprint with errors := blueprint.errors ++ [error] }

/-- The handler of an action, and the written form of its reference if it has one. -/
def resolveAction (blueprint : Blueprint World) (action : Action World) :
    Except RouterError (Handler World × Option String) := do
  match action with
  | .handler handler => return (handler, none)
  | .named reference =>
    let reference ← ActionRef.parse reference
    return (← blueprint.controllers.resolve reference, some reference.text)

/-- The route that a declaration stands for in the current group. The place its clients may be sent
    to is checked first, then its action, then its template. -/
def route (blueprint : Blueprint World) (template : String) (action : Action World)
    (options : RouteOptions World) : Except RouterError (Route World) := do
  let options := blueprint.options.merge options
  match options.fallback with
  | some target => if !Http.isHeaderValue target then throw (.invalidRedirect target)
  | none => pure ()
  let (handler, name) ← blueprint.resolveAction action
  let pattern ← Pattern.compile template blueprint.mount
  return { pattern, handler, options, action := name }

/-- Registers a route, or records why it is wrong. -/
def register (blueprint : Blueprint World) (template : String) (action : Action World)
    (options : RouteOptions World) : Logged (Blueprint World) :=
  match blueprint.route template action options with
  | .error e => blueprint.record e
  | .ok route => do
    let table ← blueprint.table.push route
    return { blueprint with table }

/-- Declares the five routes of a resource, which lead to the controller of its name. -/
def registerResource (blueprint : Blueprint World) (base name : String)
    (options : RouteOptions World) : Logged (Blueprint World) :=
  ResourceAction.all.foldlM (fun blueprint action =>
    blueprint.register (base ++ action.suffix)
      (ActionRef.toAction ⟨name ++ "Controller", action.name⟩)
      { options with method := some .get }) blueprint

/-- Sets the handler for requests that no route takes, or records why it is wrong. -/
def setFallback (blueprint : Blueprint World) (action : Action World) : Logged (Blueprint World) :=
  match blueprint.resolveAction action with
  | .error e => blueprint.record e
  | .ok (handler, _) => do
    let table ← blueprint.table.setDefault handler
    return { blueprint with table }

/-- Takes a single declaration. -/
def declare (blueprint : Blueprint World) : Declaration World → Logged (Blueprint World)
  | .add template action options => blueprint.register template action options
  | .resource base name options => blueprint.registerResource base name options
  | .fallback action => blueprint.setFallback action
  | .controllers change => pure { blueprint with controllers := change blueprint.controllers }

/-- Enters a group. -/
def enter (blueprint : Blueprint World) (mount : String) (options : RouteOptions World) :
    Blueprint World :=
  { blueprint with scopes := blueprint.scopes ++ [⟨mount, options⟩] }

/-- Leaves the innermost group. -/
def leave (blueprint : Blueprint World) : Blueprint World :=
  { blueprint with scopes := blueprint.scopes.dropLast }

/-- Takes declarations in order. -/
def declareAll (blueprint : Blueprint World) : Declarations World → Logged (Blueprint World)
  | .done => pure blueprint
  | .declare declaration rest => do (← blueprint.declare declaration).declareAll rest
  | .group mount options body rest => do
    let inner ← (blueprint.enter mount options).declareAll body
    inner.leave.declareAll rest

/-- The route table, or the first error that was recorded. -/
def toTable (blueprint : Blueprint World) : Except RouterError (RouteTable World) :=
  match blueprint.errors with
  | e :: _ => .error e
  | [] => .ok blueprint.table

/-- The router, or the first error that was recorded. -/
def build (blueprint : Blueprint World) : Except RouterError (Logged (Router World)) :=
  blueprint.toTable.map (·.seal)

/-- The state of declaring as it is shown to a developer. -/
def shown (blueprint : Blueprint World) : String :=
  Text.shownRecord "Routes" [
    ("registry", blueprint.table.shown),
    ("controllers", blueprint.controllers.shown),
    ("depth", toString blueprint.scopes.length),
    ("errors", Text.shownList (blueprint.errors.map (·.shown)))]

end Blueprint

end HttpRouter
