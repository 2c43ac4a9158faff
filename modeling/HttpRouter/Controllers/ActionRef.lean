import HttpRouter.Error
import HttpRouter.Text.Blank

namespace HttpRouter

/-- A reference to an action of a controller. -/
structure ActionRef where
  controller : String
  action : String
  deriving Inhabited, DecidableEq, Repr

namespace ActionRef

/-- The action meant where none is named. -/
def defaultAction : String := "Index"

/-- Reads a reference. Blanks around the two names do not count, and the action may be left out. The
    controller must be named, and there may be only one at sign. -/
def parse (reference : String) : Except RouterError ActionRef :=
  let (controller, rest) := reference.toList.span (· ≠ '@')
  let controller := Text.trim (.ofList controller)
  let action := Text.trim (.ofList (rest.drop 1))
  if controller.isEmpty ∨ '@' ∈ action.toList then .error (.invalidAction reference)
  else .ok ⟨controller, if action.isEmpty then defaultAction else action⟩

/-- The reference as it is written. -/
def text (reference : ActionRef) : String :=
  reference.controller ++ "@" ++ reference.action

end ActionRef

end HttpRouter
