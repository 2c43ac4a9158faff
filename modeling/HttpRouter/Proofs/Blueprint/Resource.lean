import HttpRouter.Proofs.Blueprint.Fallbacks
import HttpRouter.Proofs.Controllers.References
import HttpRouter.Proofs.Controllers.Registering
import HttpRouter.Proofs.Path.Resource
import HttpRouter.Proofs.Router.Unguarded

namespace HttpRouter

variable {World : Type}

/-- A template with the texts of the groups around it in front. -/
def Scope.below (groups : List (Scope World)) (template : String) : String :=
  .join (groups.map (·.mount)) ++ template

/-- A single declaration within groups, the outermost first. -/
def Declarations.within (groups : List (Scope World)) (declaration : Declaration World) :
    Declarations World :=
  groups.foldr (fun scope body => .group scope.mount scope.options body .done)
    (.declare declaration .done)

/-- The declaration of the route of an action. -/
def ResourceAction.declaration (groups : List (Scope World)) (base name : String)
    (options : RouteOptions World) (controllers : Controllers World) (action : ResourceAction) :
    RouteDeclaration World :=
  ⟨groups, base ++ action.suffix, ActionRef.toAction ⟨name ++ "Controller", action.name⟩,
    { options with method := some .get }, controllers⟩

namespace Route

variable {base : String} {handlers : ResourceAction → Handler World} {action : ResourceAction}
  {route : Route World} {pattern : Pattern}

end Route

namespace Router

section Serving

variable (router : Router World) (request : Http.Request) (world : World) {base : String}
  {pattern : Pattern} {handlers : ResourceAction → Handler World} {routes : List (Route World)}

end Serving

end Router

namespace Blueprint

section Building

variable {controllers : Controllers World} {groups : List (Scope World)} {base name : String}
  {options : RouteOptions World} {built : Logged (Router World)}
  {handlers : ResourceAction → Handler World}

end Building

end Blueprint

end HttpRouter
