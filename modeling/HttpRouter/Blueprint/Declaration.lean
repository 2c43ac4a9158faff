import HttpRouter.Controllers.Basic
import HttpRouter.Route.Options

namespace HttpRouter

/-- What a route does: a handler, or a reference to an action of a controller. -/
inductive Action (World : Type) where
  | handler (handler : Handler World)
  | named (reference : String)

/-- The action a reference stands for, by its written form. -/
def ActionRef.toAction {World : Type} (reference : ActionRef) : Action World :=
  .named reference.text

/-- A single declaration. -/
inductive Declaration (World : Type) where
  | add (template : String) (action : Action World) (options : RouteOptions World)
  | resource (base name : String) (options : RouteOptions World)
  | fallback (action : Action World)
  | controllers (change : Controllers World → Controllers World)

namespace Declaration

variable {World : Type}

/-- Declares a route for requests that ask for a resource. -/
def get (template : String) (action : Action World) (options : RouteOptions World := {}) :
    Declaration World :=
  add template action { options with method := some .get }

/-- Declares a route for requests that submit data. -/
def post (template : String) (action : Action World) (options : RouteOptions World := {}) :
    Declaration World :=
  add template action { options with method := some .post }

/-- Declares the route of the root path. -/
def home (action : Action World) : Declaration World :=
  add "/" action {}

end Declaration

/-- Declarations in order, with groups nested to any depth. -/
inductive Declarations (World : Type) where
  | done
  | declare (declaration : Declaration World) (rest : Declarations World)
  | group (mount : String) (options : RouteOptions World) (body rest : Declarations World)

end HttpRouter
