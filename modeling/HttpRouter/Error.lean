import HttpRouter.Text.Quoted

namespace HttpRouter

/-- What can go wrong while routes are declared, settings are loaded or a request is resolved. -/
inductive RouterError where
  | malformedTemplate (template reason : String)
  | unknownController (name : String)
  | unknownAction (controller action : String)
  | invalidAction (reference : String)
  | invalidRedirect (target : String)
  | guardTimeout (milliseconds : Nat)
  | settings (detail : String)
  deriving Inhabited, DecidableEq, Repr

namespace RouterError

/-- The wording of an error. -/
def message : RouterError → String
  | malformedTemplate template reason => s!"Malformed route template '{template}': {reason}"
  | unknownController name => s!"Unknown controller: {name}"
  | unknownAction controller action => s!"Unknown action '{action}' on controller '{controller}'"
  | invalidAction reference => s!"Invalid action reference: {reference}"
  | invalidRedirect target => "Invalid redirect target: " ++ Text.quoted target
  | guardTimeout milliseconds => s!"Guard evaluation timed out after {milliseconds} ms"
  | settings detail => s!"Settings error: {detail}"

/-- The error as it is shown to a developer. -/
def shown : RouterError → String
  | malformedTemplate template reason =>
    Text.shownRecord "MalformedTemplate"
      [("template", Text.quoted template), ("reason", Text.quoted reason)]
  | unknownController name => Text.shownTuple "UnknownController" [Text.quoted name]
  | unknownAction controller action =>
    Text.shownRecord "UnknownAction"
      [("controller", Text.quoted controller), ("action", Text.quoted action)]
  | invalidAction reference => Text.shownTuple "InvalidAction" [Text.quoted reference]
  | invalidRedirect target => Text.shownTuple "InvalidRedirect" [Text.quoted target]
  | guardTimeout milliseconds => Text.shownTuple "GuardTimeout" [toString milliseconds]
  | settings detail => Text.shownTuple "Settings" [Text.quoted detail]

end RouterError

end HttpRouter
