import HttpRouter.Assoc
import HttpRouter.Call.Handler
import HttpRouter.Controllers.ActionRef
import HttpRouter.Controllers.Resource

namespace HttpRouter

/-- The handlers of the controllers by the names of controller and action in lower case, so that the
    letter case of neither counts. -/
structure Controllers (World : Type) where
  entries : List (String × List (String × Handler World))

namespace Controllers

variable {World : Type}

/-- A table without controllers. -/
def empty : Controllers World := ⟨[]⟩

/-- Registers a handler as an action of a controller, in place of an earlier one. -/
def register (controllers : Controllers World) (controller action : String)
    (handler : Handler World) : Controllers World :=
  let key := Http.lowerCase controller
  let actions := (Assoc.find? key controllers.entries).getD []
  ⟨Assoc.put key (Assoc.put (Http.lowerCase action) handler actions) controllers.entries⟩

/-- Registers the controller of a resource for each of its five actions. -/
def registerResource (controllers : Controllers World) (controller : String)
    (resource : ResourceController World) : Controllers World :=
  ResourceAction.all.foldl (fun controllers action =>
    controllers.register controller action.name (resource.handler action)) controllers

/-- Whether a controller has any action. -/
def contains (controllers : Controllers World) (controller : String) : Bool :=
  (Assoc.find? (Http.lowerCase controller) controllers.entries).isSome

/-- The handler a reference stands for. -/
def resolve (controllers : Controllers World) (reference : ActionRef) :
    Except RouterError (Handler World) :=
  match Assoc.find? (Http.lowerCase reference.controller) controllers.entries with
  | none => .error (.unknownController reference.controller)
  | some actions =>
    match Assoc.find? (Http.lowerCase reference.action) actions with
    | none => .error (.unknownAction reference.controller reference.action)
    | some handler => .ok handler

/-- The table as it is shown to a developer: the names of its controllers in order. -/
def shown (controllers : Controllers World) : String :=
  let names := (controllers.entries.map (·.1)).mergeSort (· ≤ ·)
  Text.shownRecord "ControllerTable" [("controllers", Text.shownList (names.map Text.quoted))]

end Controllers

end HttpRouter
