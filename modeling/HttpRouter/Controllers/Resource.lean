import HttpRouter.Call.Handler

namespace HttpRouter

/-- The five actions by which the records of a resource are listed, made, shown, changed and removed,
    each at a fixed place below one path. -/
inductive ResourceAction where
  | index
  | create
  | read
  | update
  | destroy
  deriving Inhabited, DecidableEq, Repr

namespace ResourceAction

/-- The actions in the order in which they are registered and declared. -/
def all : List ResourceAction := [index, create, read, update, destroy]

/-- The name of an action. -/
def name : ResourceAction → String
  | index => "Index"
  | create => "Create"
  | read => "Read"
  | update => "Update"
  | destroy => "Destroy"

/-- What an action adds to the template of the resource. -/
def suffix : ResourceAction → String
  | index => ""
  | create => "/add"
  | read => "/view/int:id"
  | update => "/edit/int:id"
  | destroy => "/delete/int:id"

end ResourceAction

/-- The controller of a resource has a handler for each of the five actions. -/
structure ResourceController (World : Type) where
  index : Handler World
  create : Handler World
  read : Handler World
  update : Handler World
  destroy : Handler World

/-- The handler of a controller for an action. -/
def ResourceController.handler {World : Type} (controller : ResourceController World) :
    ResourceAction → Handler World
  | .index => controller.index
  | .create => controller.create
  | .read => controller.read
  | .update => controller.update
  | .destroy => controller.destroy

end HttpRouter
