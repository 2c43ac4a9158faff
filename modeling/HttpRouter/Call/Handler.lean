import HttpRouter.Http.Request
import HttpRouter.Path.Params
import HttpRouter.Reply.Basic
import HttpRouter.Reply.Failure

namespace HttpRouter

/-- What a handler is given. -/
structure Context where
  request : Http.Request
  params : Params

/-- Code that replies to a request or fails. -/
abbrev Handler (World : Type) : Type :=
  Context → Call World (Except Failure Reply)

/-- The handler that knows no page. -/
def Handler.notFound {World : Type} : Handler World :=
  fun _ => Call.answering (.ok .notFound)

end HttpRouter
